import Uplink.Proofs.Finality
import Uplink.Proofs.Halting.Calls
import Uplink.Proofs.Snapshot

/-!
# Nothing halts

No run of operations halts, whatever the resolver answers, whatever the network does and
whichever words come up. The settings and the clock have to leave room for it, and it is
enough that both stay in the first half of the clock's range: every instant that is kept
lies in the past, and a period on top of it reaches at most the end of the second half.
That instants lie in the past is known of the endpoints from the log (`Manager.Watched`)
and of the breaker from what is drawn (`Manager.Drawn`).
-/

namespace Uplink

/-! ## Instants that the clock can show -/

/-- **A period after an instant of the past is within the clock's range**, if the present and
the period are in the first half of it. -/
theorem Instant.shown_of_past {t now : Instant} {d : Seconds} (past : t ≤ now)
    (clock : now / 1000 < middle) (moderate : d < middle) : (t + 1000 * d) / 1000 < limit := by
  have sum : (t + 1000 * d) / 1000 = t / 1000 + d := Nat.add_mul_div_left t d (by decide)
  have earlier : t / 1000 < middle := Nat.lt_of_le_of_lt (Nat.div_le_div_right past) clock
  rw [sum]
  exact Nat.add_lt_add earlier moderate

/-- A down period that moderate settings allow is moderate. -/
theorem CommunicationSettings.Moderate.lt_middle {s : CommunicationSettings} (h : s.Moderate)
    {period : Seconds} (allowed : s.AllowsDownPeriod period) : period < Instant.middle := by
  obtain ⟨minutes, rfl, _, alone, below⟩ := allowed
  refine Nat.lt_of_le_of_lt (Nat.mul_le_mul_right 60 ?_) h.downPeriod
  by_cases none : s.downPeriodIntervalMinutes = 0
  · rw [alone none]
    exact Nat.le_add_right _ _
  · exact Nat.le_of_lt (below none)

namespace Endpoint

/-- **What an endpoint keeps lies in the past**: its last success, and when it went down. -/
structure Past (now : Instant) (e : Endpoint) : Prop where
  success : e.lastSuccess ≤ now
  down : ∀ since, e.liveness = .down since → since ≤ now

theorem past_succeeded (e : Endpoint) (now : Instant) : (e.succeeded now).Past now :=
  ⟨Nat.le_refl now, nofun⟩

variable {settings : CommunicationSettings} {e : Endpoint} {now : Instant}

/-- The clock can show the end of the fail period. -/
theorem Past.inClock (h : e.Past now) (configured : e.Configured settings)
    (moderate : settings.Moderate) (clock : now / 1000 < Instant.middle) : e.InClock := by
  have failPeriod : e.failPeriod = settings.failPeriod := congrArg Endpoint.failPeriod configured
  intro _
  rw [failPeriod]
  exact Instant.shown_of_past h.success clock moderate.failPeriod

/-- The clock can show the end of the down period. -/
theorem Past.restInClock (h : e.Past now) (rests : e.Rests settings)
    (moderate : settings.Moderate) (clock : now / 1000 < Instant.middle) : e.RestInClock :=
  fun since down =>
    Instant.shown_of_past (h.down since down) clock (moderate.lt_middle (rests.down since down))

end Endpoint

/-! ## Calls -/

/-- **The clock does not cut a call off** that begins in the first half of its range. -/
theorem Selection.exists_result_sendIn {σ : Type} {settings : CommunicationSettings}
    {s : Selection} {w : World σ} (moderate : settings.Moderate)
    (clock : w.now / 1000 < Instant.middle)
    (rests : ∀ e ∈ s.endpoints.toList, e.Rests settings)
    (past : ∀ e ∈ s.endpoints.toList, e.Past w.now) (mode : Mode) (t : Transport σ)
    (q : Request) : ∃ o, (s.sendIn mode t q w).result = .ok o := by
  cases mode with
  | exhaustive => exact ⟨_, (s.account_sendAll t q w).result⟩
  | affinity =>
    show ∃ o, (s.send t q w).result = .ok o
    cases blocked : s.breaker.blocks w.now with
    | true =>
      rw [send_of_blocks t q blocked]
      exact ⟨_, rfl⟩
    | false =>
      have configured := lasting_admitted (Endpoint.lasting_rests settings 0) (Nat.zero_le w.now)
        rests
      have inside : (s.admitted w.now).endpoints.InClock := by
        intro e he
        refine Endpoint.Past.inClock ?_ (configured e he).configured moderate clock
        unfold admitted at he
        split at he
        · exact past e he
        · obtain ⟨d, _, rfl⟩ := EndpointSet.exists_of_mem_rearm he
          exact d.past_succeeded w.now
      obtain ⟨trail, ending⟩ := ending_send t q blocked
      obtain told | ⟨_, outside⟩ := ending.result
      · exact ⟨_, told⟩
      · exact absurd inside outside

namespace Manager

variable {σ : Type} {v : Service σ} {m : Manager} {w : World σ} {now : Instant}

/-- What a manager keeps about its endpoints lies in the past. -/
def Past (now : Instant) (m : Manager) : Prop :=
  ∀ s, m = .ready s → ∀ e ∈ s.endpoints.toList, e.Past now

/-- What a log agrees on lies in the past. -/
theorem Watched.past {settings : CommunicationSettings} {log : List Entry}
    (h : m.Watched settings log now) : m.Past now := by
  rintro s rfl e he
  have agrees := EndpointSet.Watched.agrees h e he
  exact ⟨agrees.past, fun since down => (agrees.down since down).2.1⟩

/-- Endpoints that are found are found now. -/
theorem Past.resolve (h : m.Past w.now) : (m.resolve v w).1.Past w.now := by
  cases m with
  | failed f => exact h
  | ready s => exact h
  | unresolved =>
    intro s hs e he
    obtain ⟨set, rfl, _, fresh⟩ := exists_ofSet_of_resolve hs
    obtain ⟨a, rfl⟩ := fresh e he
    exact ⟨Nat.le_refl w.now, nofun⟩

/-- **A call ends with an outcome**, whatever is found and whoever answers. -/
theorem exists_result_sendIn (moderate : v.settings.Moderate)
    (clock : w.now / 1000 < Instant.middle) (drawn : m.Drawn v.settings w.now)
    (past : m.Past w.now) (mode : Mode) (q : Request) :
    ∃ o, (m.sendIn v mode q w).result = .ok o := by
  have drawn := drawn.resolve
  have past := past.resolve (v := v)
  cases hm : (m.resolve v w).1 with
  | unresolved => exact absurd hm (resolve_ne_unresolved v m w)
  | failed f =>
    rw [sendIn_of_failed q hm]
    exact ⟨_, rfl⟩
  | ready s =>
    rw [sendIn_of_ready q hm]
    rw [← now_resolve v m w] at clock past
    exact Selection.exists_result_sendIn moderate clock (drawn s hm).endpoints (past s hm) mode
      v.transport q

/-- **There is a status**: the clock can show every end that it reports. -/
theorem exists_status (moderate : v.settings.Moderate) (clock : now / 1000 < Instant.middle)
    (drawn : m.Drawn v.settings now) (past : m.Past now) : ∃ st, m.status v now = .ok st := by
  have inside : m.EndsInClock := by
    cases m with
    | unresolved | failed => trivial
    | ready s =>
      have drawn := drawn s rfl
      refine ⟨fun since period opened => ?_, fun e he => ?_⟩
      · obtain ⟨begun, allowed⟩ := drawn.breaker since period opened
        exact Instant.shown_of_past begun clock (moderate.lt_middle allowed)
      · exact (past s rfl e he).restInClock (drawn.endpoints e he) moderate clock
  obtain ⟨_, st, status, _⟩ | ⟨outside, _⟩ := m.status_cases v now
  · exact ⟨st, status⟩
  · exact absurd inside outside

end Manager

/-! ## Runs -/

namespace Scene

variable {σ : Type} {v : Service σ}

/-- One operation: the scene after it, and the replies to it. A status that is asked for is
computed. The order of exhaustive calls leaves out what is not there, so that telling it asks
for nothing that may be missing. -/
def performOrHalt (v : Service σ) (s : Scene σ) :
    Operation → Except Halt (Scene σ × List (Reply σ Manager))
  | .call mode q => do
    let reply ← s.manager.sendInOrHalt v mode q s.world
    return (after reply, [reply])
  | .status => do
    let _ ← Halt.unlessShown (s.manager.status v s.world.now)
    return (s, [])
  | .order => return (s, [])
  | .wait ms => return ({ s with world := s.world.wait ms }, [])

/-- **A run of operations**, as a machine carries them out, until one of them halts. -/
def runOrHalt (v : Service σ) :
    List Operation → Scene σ → Except Halt (Scene σ × List (Reply σ Manager))
  | [], s => return (s, [])
  | op :: ops, s => do
    let (s, replies) ← s.performOrHalt v op
    let (s, more) ← runOrHalt v ops s
    return (s, replies ++ more)

/-- **What operations find and leave**: a sound manager, whose periods the settings allow,
whose instants lie in the past, and whose order has every position once. -/
structure Regular (settings : CommunicationSettings) (s : Scene σ) : Prop where
  sound : s.manager.Sound settings
  drawn : s.manager.Drawn settings s.world.now
  watched : ∃ log, s.manager.Watched settings log s.world.now
  ranked : ∃ answers, s.manager.Ranked answers

theorem regular_start (settings : CommunicationSettings) (w : World σ) :
    (start w).Regular settings :=
  ⟨Manager.sound_unresolved settings, nofun, ⟨[], rfl⟩, ⟨[], rfl⟩⟩

/-- **An operation leaves what it finds.** -/
theorem Regular.perform {s : Scene σ} (h : s.Regular v.settings) (op : Operation) :
    (s.perform v op).Regular v.settings := by
  obtain ⟨log, watched⟩ := h.watched
  obtain ⟨answers, ranked⟩ := h.ranked
  exact ⟨sound_perform h.sound op, drawn_perform h.drawn op, ⟨_, watched_perform watched op⟩,
    ⟨_, ranked_perform ranked h.sound op⟩⟩

/-- **An operation does not halt**, and a call ends with an outcome. -/
theorem performOrHalt_eq {s : Scene σ} (moderate : v.settings.Moderate)
    (h : s.Regular v.settings) (clock : s.world.now / 1000 < Instant.middle) (op : Operation) :
    s.performOrHalt v op = .ok (s.perform v op, s.callsOf v op)
      ∧ ∀ r ∈ s.callsOf v op, ∃ o, r.result = .ok o := by
  obtain ⟨log, watched⟩ := h.watched
  obtain ⟨answers, ranked⟩ := h.ranked
  cases op with
  | call mode q =>
    obtain ⟨o, result⟩ := Manager.exists_result_sendIn moderate clock h.drawn watched.past mode q
    refine ⟨?_, fun r hr => ⟨o, ?_⟩⟩
    · show (s.manager.sendInOrHalt v mode q s.world >>= _) = _
      rw [Manager.sendInOrHalt_eq moderate h.drawn ranked, Reply.orHalt_of_ok result]
      rfl
    · rw [List.mem_singleton.1 hr]
      exact result
  | status =>
    obtain ⟨st, status⟩ := Manager.exists_status moderate clock h.drawn watched.past
    refine ⟨?_, fun _ none => absurd none List.not_mem_nil⟩
    show (Halt.unlessShown (s.manager.status v s.world.now) >>= _) = _
    rw [status]
    rfl
  | order | wait => exact ⟨rfl, fun _ none => absurd none List.not_mem_nil⟩

/-- **A run does not halt**, if the clock is in the first half of its range at the end. -/
theorem runOrHalt_eq (moderate : v.settings.Moderate) (ops : List Operation) {s : Scene σ}
    (h : s.Regular v.settings) (clock : (run v ops s).world.now / 1000 < Instant.middle) :
    runOrHalt v ops s = .ok (run v ops s, calls v ops s)
      ∧ ∀ r ∈ calls v ops s, ∃ o, r.result = .ok o := by
  induction ops generalizing s with
  | nil => exact ⟨rfl, fun _ none => absurd none List.not_mem_nil⟩
  | cons op ops ih =>
    have begins : s.world.now / 1000 < Instant.middle :=
      Nat.lt_of_le_of_lt (Nat.div_le_div_right (now_le_run v (op :: ops) s)) clock
    obtain ⟨first, outcome⟩ := performOrHalt_eq moderate h begins op
    obtain ⟨rest, outcomes⟩ := ih (h.perform op) clock
    refine ⟨?_, fun r hr => (List.mem_append.1 hr).elim (outcome r) (outcomes r)⟩
    unfold runOrHalt
    rw [first]
    show (runOrHalt v ops (s.perform v op) >>= _) = _
    rw [rest]
    rfl

/-- **No run halts.** Let the fail period and the longest down period be in the first half
of the clock's range, and let the clock be there at the end of a run. Then the run, as a
machine carries it out, halts nowhere: every instant that is asked for is one that the
clock can show, every element is in its list, every random number is drawn out of some, and
every number of minutes or seconds fits in a word. It leaves the manager and the world that
the run leaves, with the same replies, and every reply is an outcome. At its end there is a
status, the alternate with affinity is an alternate of the set, every position of the
exhaustive order is one of the set, and the order has as many addresses as there are
endpoints. -/
theorem nothing_halts (v : Service σ) (moderate : v.settings.Moderate) (ops : List Operation)
    (w₀ : World σ) (clock : (history v ops w₀).world.now / 1000 < Instant.middle) :
    runOrHalt v ops (start w₀) = .ok (history v ops w₀, calls v ops (start w₀))
      ∧ (∀ r ∈ calls v ops (start w₀), ∃ o, r.result = .ok o)
      ∧ (∃ st, (history v ops w₀).manager.status v (history v ops w₀).world.now = .ok st)
      ∧ ∀ s, (history v ops w₀).manager = .ready s →
        (∀ i, s.affinity = some i → 1 ≤ i ∧ i < s.endpoints.size)
          ∧ (∀ i ∈ s.order, i < s.endpoints.size)
          ∧ s.exhaustiveOrder.length = s.endpoints.size := by
  have regular : (history v ops w₀).Regular v.settings :=
    run_keeps (I := fun s => s.Regular v.settings) Regular.perform ops (regular_start v.settings w₀)
  obtain ⟨log, watched⟩ := regular.watched
  obtain ⟨answers, ranked⟩ := regular.ranked
  obtain ⟨completes, outcomes⟩ := runOrHalt_eq moderate ops (regular_start v.settings w₀) clock
  refine ⟨completes, outcomes, Manager.exists_status moderate clock regular.drawn watched.past, ?_⟩
  intro s hm
  have order := ranked.perm
  rw [hm] at ranked order
  refine ⟨(regular.sound s hm).affine, fun i hi => ?_, ?_⟩
  · obtain none | perm := Selection.Ranked.positions ranked
    · rw [none] at hi
      cases hi
    · exact List.mem_range.1 (perm.mem_iff.1 hi)
  · exact order.length_eq.trans (EndpointSet.length_addresses s.endpoints)

/-- Two endpoints of which the alternate answers once. It has affinity and stands first in the
exhaustive order; then nobody answers any more, the breaker opens, and its window ends. -/
theorem nothing_halts_rehearsed :
    let v := Service.rehearsed
    let send := Operation.call .affinity .rehearsed
    let w₀ := World.rehearsed [(.v4 ⟨10, 0, 0, 2⟩, [⟨.ok, 0⟩, ⟨.ok, 0⟩, ⟨.refuse, 0⟩])]
    let ops := [.status, .call .exhaustive .rehearsed, send, .order, .wait 300000, send, .status,
      .wait 300001, send]
    v.settings.Moderate ∧ (history v ops w₀).world.now / 1000 < Instant.middle
      ∧ runOrHalt v ops (start w₀) = .ok (history v ops w₀, calls v ops (start w₀))
      ∧ ∃ s, (history v ops w₀).manager = .ready s ∧ s.order = [1, 0]
        ∧ ∀ i ∈ s.order, i < s.endpoints.size := by
  intro v send w₀ ops
  have moderate : v.settings.Moderate := by decide
  have clock : (history v ops w₀).world.now / 1000 < Instant.middle := by decide +kernel
  obtain ⟨completes, _, _, ranges⟩ := nothing_halts v moderate ops w₀ clock
  have ordered : (history v ops w₀).manager.selection?.map Selection.order = some [1, 0] := by
    decide +kernel
  cases hm : (history v ops w₀).manager with
  | unresolved | failed =>
    rw [hm] at ordered
    cases ordered
  | ready s =>
    rw [hm] at ordered
    exact ⟨moderate, clock, completes, s, rfl, Option.some.inj ordered, (ranges s hm).2.1⟩

/-- A fail period that fits in a word but ends beyond the clock halts the first request. -/
example :
    let settings : CommunicationSettings := { failPeriodMinutes := 0x222222222222223 }
    (runOrHalt { Service.rehearsed with settings } [.call .affinity .rehearsed]
      (start (.rehearsed []))).map (fun _ => ()) = .error .instant := by
  decide +kernel

end Scene

end Uplink
