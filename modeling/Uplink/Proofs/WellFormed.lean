import Uplink.Proofs.Affinity
import Uplink.Proofs.DownPeriods
import Uplink.Proofs.Probing

/-!
# Well-formed managers

What a manager keeps is tied together. Its instants lie in the past. An endpoint
that is down went down when its fail period was over, not before, and for a period
that the settings allow. An open breaker stands over alternates, since an instant
of the past, for a period of the same kind. No address occurs twice, and there is
one endpoint only if one is all that the settings ask for. None of this is checked
when the program runs; every operation restores it.

Part of it is known from elsewhere. That no address occurs twice and that an open
breaker has alternates is soundness (`Selection.Sound`). When an endpoint goes down
is what the log agrees on (`Endpoint.Agrees`), also where a check changes the
endpoint on its way to a verdict. What is added here is drawn at random or depends
on how many endpoints are wanted (`Selection.Drawn`).
-/

namespace Uplink

/-! ## What well-formed means -/

/-- **A well-formed endpoint at an instant.** -/
structure Endpoint.WellFormed (settings : CommunicationSettings) (now : Instant)
    (e : Endpoint) : Prop where
  configured : e.Configured settings
  past : e.lastSuccess ≤ now
  down : ∀ since, e.liveness = .down since →
    e.lastSuccess + 1000 * settings.failPeriod ≤ since ∧ since ≤ now
      ∧ settings.AllowsDownPeriod e.downPeriod

/-- **A well-formed selection at an instant.** -/
structure Selection.WellFormed (settings : CommunicationSettings) (now : Instant)
    (s : Selection) : Prop where
  nonempty : s.endpoints.toList ≠ []
  distinct : s.endpoints.addresses.Nodup
  single : settings.supportsMultiEndpoint = false → s.endpoints.size = 1
  endpoints : ∀ e ∈ s.endpoints.toList, e.WellFormed settings now
  breaker : ∀ since period, s.breaker = .open since period →
    2 ≤ s.endpoints.size ∧ since ≤ now ∧ settings.AllowsDownPeriod period

namespace Manager

/-- What is known about the server, once its endpoints are. -/
def selection? : Manager → Option Selection
  | ready s => some s
  | _ => none

/-- Why there are no endpoints, once that is known. -/
def failure? : Manager → Option Failure
  | failed f => some f
  | _ => none

/-- **A well-formed manager at an instant**: it does not know both its endpoints
and why it has none, and what it knows about them is well formed. -/
structure WellFormed (settings : CommunicationSettings) (now : Instant) (m : Manager) :
    Prop where
  exclusive : m.selection? = none ∨ m.failure? = none
  selection : ∀ s, m.selection? = some s → s.WellFormed settings now

end Manager

/-! ## What lasts of the endpoints -/

namespace Selection

variable {σ : Type} {start : Instant} {P : Endpoint → Prop} {s : Selection}

/-- A fresh fail period is as good as an answer. -/
theorem lasting_admitted (hP : Endpoint.Lasting start P) {now : Instant} (begins : start ≤ now)
    (all : ∀ e ∈ s.endpoints.toList, P e) : ∀ e ∈ (s.admitted now).endpoints.toList, P e := by
  unfold admitted
  split
  · exact all
  · intro e he
    obtain ⟨d, hd, rfl⟩ := EndpointSet.exists_of_mem_rearm he
    exact hP.answer begins (all d hd)

/-- **What lasts of all endpoints lasts through a call**, in either mode. -/
theorem lasting_sendIn (hP : Endpoint.Lasting start P) {w : World σ} (begins : start ≤ w.now)
    (all : ∀ e ∈ s.endpoints.toList, P e) (mode : Mode) (t : Transport σ) (q : Request) :
    ∀ e ∈ (s.sendIn mode t q w).state.endpoints.toList, P e := by
  cases mode with
  | exhaustive =>
    refine Search.lasting_attempts t q hP s.ordered.order begins ?_
    show ∀ e ∈ s.ordered.endpoints.toList, P e
    unfold ordered
    split <;> exact all
  | affinity =>
    show ∀ e ∈ (s.send t q w).state.endpoints.toList, P e
    cases blocked : s.breaker.blocks w.now with
    | true =>
      rw [send_of_blocks t q blocked]
      exact all
    | false =>
      obtain ⟨trail, ending⟩ := ending_send t q blocked
      exact ending.lasting hP begins (lasting_admitted hP begins all)

end Selection

/-! ## What is drawn -/

/-- **A call leaves the breaker as it was, or opens it** at its end for a down
period of the preferred endpoint. -/
theorem Search.Ending.breaker_cases {σ : Type} {t : Transport σ} {q : Request}
    {s₀ : Selection} {w : World σ} {trail : List Contact} {r : Reply σ Selection}
    (h : Ending t q s₀ w trail r) : r.state.breaker = s₀.breaker
      ∨ ∃ random, r.state.breaker
        = .open r.world.now (r.state.endpoints.preferred.sampleDownPeriod random).1 := by
  cases h with
  | cut reached _ _ _ _ reply =>
    rw [reply]
    exact .inl reached.breaker
  | decided reached _ _ _ _ _ _ _ reply =>
    rw [reply]
    exact .inl reached.breaker
  | @exhausted _ s reached reply =>
    rw [reply]
    unfold Search.exhausted
    split
    · exact .inl reached.breaker
    · exact .inr ⟨s.world.random, rfl⟩

namespace Selection

variable {σ : Type} {settings : CommunicationSettings} {now now' : Instant} {s s' : Selection}

/-- **What is drawn is what the settings allow**: the down periods, the period of
the breaker, and how many endpoints there are. -/
structure Drawn (settings : CommunicationSettings) (now : Instant) (s : Selection) : Prop where
  endpoints : ∀ e ∈ s.endpoints.toList, e.Rests settings
  single : settings.supportsMultiEndpoint = false → s.endpoints.size = 1
  breaker : ∀ since period, s.breaker = .open since period →
    since ≤ now ∧ settings.AllowsDownPeriod period

theorem Drawn.wait (h : s.Drawn settings now) (later : now ≤ now') : s.Drawn settings now' :=
  { h with breaker := fun since period hb =>
      ⟨Nat.le_trans (h.breaker since period hb).1 later, (h.breaker since period hb).2⟩ }

/-- **A call keeps what is drawn within the settings.** -/
theorem Drawn.sendIn {w : World σ} (h : s.Drawn settings w.now) (mode : Mode)
    (t : Transport σ) (q : Request) :
    (s.sendIn mode t q w).state.Drawn settings (s.sendIn mode t q w).world.now := by
  have endpoints := lasting_sendIn (Endpoint.lasting_rests settings 0) (Nat.zero_le w.now)
    h.endpoints mode t q
  have later := now_le_sendIn mode t q s w
  have earlier : ∀ since period, s.breaker = .open since period →
      since ≤ (s.sendIn mode t q w).world.now ∧ settings.AllowsDownPeriod period :=
    (h.wait later).breaker
  refine ⟨endpoints, fun one => ?_, ?_⟩
  · rw [← EndpointSet.length_addresses, addresses_sendIn, EndpointSet.length_addresses]
    exact h.single one
  cases mode with
  | exhaustive =>
    have kept : (s.sendIn .exhaustive t q w).state.breaker = s.breaker :=
      (kept_sendAll t q s w).1.breaker
    rw [kept]
    exact earlier
  | affinity =>
    have send : s.sendIn .affinity t q w = s.send t q w := rfl
    rw [send] at endpoints earlier ⊢
    cases blocked : s.breaker.blocks w.now with
    | true =>
      rw [send_of_blocks t q blocked] at earlier ⊢
      exact earlier
    | false =>
      obtain ⟨trail, ending⟩ := ending_send t q blocked
      obtain same | ⟨random, opened⟩ := ending.breaker_cases
      · rw [same, breaker_admitted]
        exact nofun
      · rw [opened]
        intro since period open_
        obtain ⟨rfl, rfl⟩ := Breaker.open.inj open_
        -- the period is drawn from the preferred endpoint that the call leaves
        exact ⟨Nat.le_refl _, (endpoints _ List.mem_cons_self).configured.allows random⟩

end Selection

namespace Manager

variable {σ : Type} {v : Service σ} {m : Manager} {now : Instant}

/-- What is drawn is what the settings allow. -/
def Drawn (settings : CommunicationSettings) (now : Instant) (m : Manager) : Prop :=
  ∀ s, m = .ready s → s.Drawn settings now

/-- **A resolution finds as many endpoints as the settings ask for**, all of them
up, and no open breaker. -/
theorem Drawn.resolve {w : World σ} (h : m.Drawn v.settings w.now) :
    (m.resolve v w).1.Drawn v.settings w.now := by
  cases m with
  | failed f => exact h
  | ready s => exact h
  | unresolved =>
    intro s hs
    obtain ⟨set, rfl, found⟩ := exists_result_of_resolve hs
    refine ⟨fun e he => ?_, fun one => ?_, nofun⟩
    · obtain ⟨a, rfl⟩ := (resolveEndpoints_spec found).2 e he
      exact Endpoint.rests_new a v.settings w.now
    · obtain ⟨addresses, r, made⟩ := resolveEndpoints_made found
      exact (EndpointSet.alternates_eq_nil_iff set).1
        (EndpointSet.alternates_ofAddresses? made one)

/-- A call keeps what is drawn within the settings. -/
theorem Drawn.sendIn {w : World σ} (h : m.Drawn v.settings w.now) (mode : Mode) (q : Request) :
    (m.sendIn v mode q w).state.Drawn v.settings (m.sendIn v mode q w).world.now := by
  have resolved := h.resolve
  cases hm : (m.resolve v w).1 with
  | unresolved => exact absurd hm (resolve_ne_unresolved v m w)
  | failed f =>
    rw [sendIn_of_failed q hm]
    exact nofun
  | ready s =>
    rw [sendIn_of_ready q hm]
    intro s' hs'
    obtain rfl := Manager.ready.inj hs'
    refine Selection.Drawn.sendIn ?_ mode v.transport q
    rw [now_resolve]
    exact resolved s hm

end Manager

/-! ## Histories -/

namespace Scene

variable {σ : Type} {v : Service σ}

/-- **An operation keeps what is drawn within the settings.** -/
theorem drawn_perform {s : Scene σ} (h : s.manager.Drawn v.settings s.world.now)
    (op : Operation) : (s.perform v op).manager.Drawn v.settings (s.perform v op).world.now := by
  cases op with
  | call mode q => exact h.sendIn mode q
  | status => exact h
  | order => exact h
  | wait ms => exact fun s' hs' => (h s' hs').wait (Nat.le_add_right s.world.now ms)

/-- **So does a run.** -/
theorem drawn_run (ops : List Operation) {s : Scene σ}
    (h : s.manager.Drawn v.settings s.world.now) :
    (run v ops s).manager.Drawn v.settings (run v ops s).world.now :=
  run_keeps (I := fun s => s.manager.Drawn v.settings s.world.now) drawn_perform ops h

/-- **After every history a manager is well formed.** It does not know both its
endpoints and a failure to find them. Its endpoints, if it has any, have distinct
addresses, and there is exactly one of them if the settings ask for one. No
endpoint has a success in the future. One that is down went down in the past, when
its fail period was over or later, for a period that the settings allow: a whole
number of minutes, the least one or more, below the interval on top of it, and the
least one if there is no interval. An open breaker is over at least two endpoints,
opened in the past, and for such a period. -/
theorem wellFormed_history (v : Service σ) (ops : List Operation) (w₀ : World σ) :
    (history v ops w₀).manager.WellFormed v.settings (history v ops w₀).world.now := by
  have drawn : (history v ops w₀).manager.Drawn v.settings (history v ops w₀).world.now :=
    drawn_run ops (s := start w₀) nofun
  have sound := sound_history v ops w₀
  have watched := watched_history v ops w₀
  generalize (history v ops w₀).world.now = now at drawn watched ⊢
  cases hm : (history v ops w₀).manager with
  | unresolved | failed => exact ⟨.inl rfl, nofun⟩
  | ready s =>
    refine ⟨.inr rfl, fun s' hs' => ?_⟩
    obtain rfl : s = s' := Option.some.inj hs'
    rw [hm] at watched
    have sound := sound s hm
    have drawn := drawn s hm
    refine ⟨List.cons_ne_nil _ _, sound.distinct, drawn.single, fun e he => ?_, ?_⟩
    · have agrees := EndpointSet.Watched.agrees watched e he
      have rests := drawn.endpoints e he
      refine ⟨rests.configured, agrees.past, fun since down => ?_⟩
      obtain ⟨lapsed, past, _⟩ := agrees.down since down
      exact ⟨lapsed, past, rests.down since down⟩
    · intro since period open_
      have alternates := sound.guarded (by rw [open_]; exact nofun)
      refine ⟨?_, drawn.breaker since period open_⟩
      exact Nat.succ_le_succ (List.length_pos_iff.2 alternates)

end Scene

end Uplink
