import Uplink.Proofs.Call
import Uplink.Rehearsal.Script

/-!
# Histories of a manager

A manager is asked for one thing after the other, and time passes in between. A
`Scene` is a manager together with the world around it, and a history is a run
of operations from a manager that has not been asked for anything. So the states
a manager can be in are those at the end of a history, and what holds after
every history is proved along the run: `Manager.Sound` holds at the start and
every operation keeps it.

A history leaves open what the network does, how long it takes and which random
words come up, because the world is any world and the transport any transport.
-/

namespace Uplink

/-! ## Soundness of a selection -/

namespace Selection

/-- **What holds of a selection after every history**: no address occurs twice,
affinity is to an alternate, the breaker is only ever open over alternates, and
every endpoint has the configured fail period. -/
structure Sound (settings : CommunicationSettings) (s : Selection) : Prop where
  distinct : s.endpoints.addresses.Nodup
  affine : ∀ i, s.affinity = some i → 1 ≤ i ∧ i < s.endpoints.size
  guarded : s.breaker ≠ .closed → s.endpoints.alternates ≠ []
  failPeriod : ∀ e ∈ s.endpoints.toList, e.failPeriod = settings.failPeriod

variable {σ : Type} {settings : CommunicationSettings} {s s' : Selection}

/-- What never changes about the endpoints keeps a selection sound, and so only
affinity and the breaker are in question. -/
theorem Sound.of_bare (h : s.Sound settings)
    (same : s'.endpoints.bare = s.endpoints.bare)
    (affine : ∀ i, s'.affinity = some i → 1 ≤ i ∧ i < s.endpoints.size)
    (guarded : s'.breaker ≠ .closed → s.endpoints.alternates ≠ []) :
    s'.Sound settings where
  distinct := by
    rw [EndpointSet.addresses_eq_of_bare same]
    exact h.distinct
  affine := by
    rw [EndpointSet.size_eq_of_bare same]
    exact affine
  guarded := fun changed none =>
    guarded changed ((EndpointSet.alternates_eq_nil_iff_of_bare same).1 none)
  failPeriod := by
    intro e he
    obtain ⟨e', he', bare⟩ := EndpointSet.exists_mem_of_bare same he
    rw [← h.failPeriod e' he', ← Endpoint.failPeriod_bare e', bare]
    rfl

/-- A set that was just found is sound. -/
theorem sound_ofSet {set : EndpointSet} {now : Instant}
    (distinct : set.addresses.Nodup)
    (fresh : ∀ e ∈ set.toList, ∃ a, e = Endpoint.new a settings now) :
    (ofSet set).Sound settings where
  distinct := distinct
  affine := nofun
  guarded := fun h => absurd rfl h
  failPeriod := by
    intro e he
    obtain ⟨a, rfl⟩ := fresh e he
    rfl

theorem Sound.admitted (h : s.Sound settings) (now : Instant) :
    (s.admitted now).Sound settings := by
  refine h.of_bare (bare_admitted s now) ?_ fun open_ => absurd (breaker_admitted s now) open_
  rw [affinity_admitted]
  exact h.affine

/-- The scan goes over the alternates. -/
theorem scan_mem_plan {i : Nat} (h : Visit.scan i ∈ s.plan) :
    1 ≤ i ∧ i < s.endpoints.size := by
  obtain h | h := List.mem_cons.1 h
  · cases h
  obtain h | h := List.mem_append.1 h
  · obtain ⟨j, _, hj⟩ := List.mem_map.1 h
    cases hj
  · obtain ⟨j, hj, hij⟩ := List.mem_map.1 h
    obtain ⟨k, hk, rfl⟩ := List.mem_map.1 hj
    obtain rfl := Visit.scan.inj hij
    exact ⟨Nat.le_add_left 1 k, Nat.succ_lt_succ (List.mem_range.1 hk)⟩

/-- **A course of a call keeps a selection sound.** -/
theorem Sound.ending {t : Transport σ} {q : Request} {w : World σ} {trail : List Contact}
    {r : Reply σ Selection} (h : s.Sound settings)
    (ending : Search.Ending t q s w trail r) : r.state.Sound settings := by
  refine h.of_bare ending.bare ?_ ?_
  · intro i hi
    obtain none | same | ⟨j, hj, some⟩ := ending.affinity
    · rw [none] at hi
      cases hi
    · exact h.affine i (same ▸ hi)
    · obtain rfl := Option.some.inj (some.symm.trans hi)
      exact scan_mem_plan hj
  · intro changed
    obtain opened | ⟨same, _⟩ := ending.opened_or
    · exact opened.alternates
    · exact h.guarded (same ▸ changed)

/-- **A call keeps a selection sound**, and the clock does not go back. -/
theorem Sound.sendIn (h : s.Sound settings) (mode : Mode) (t : Transport σ) (q : Request)
    (w : World σ) : (s.sendIn mode t q w).state.Sound settings := by
  cases mode with
  | exhaustive =>
    obtain ⟨kept, _⟩ := kept_sendAll t q s w
    refine h.of_bare kept.bare ?_ ?_
    · exact fun i hi => h.affine i (kept.affinity ▸ hi)
    · exact fun changed => h.guarded (kept.breaker ▸ changed)
  | affinity =>
    show (s.send t q w).state.Sound settings
    cases blocked : s.breaker.blocks w.now with
    | true => exact (send_of_blocks t q blocked).symm ▸ h
    | false =>
      obtain ⟨trail, ending⟩ := ending_send t q blocked
      exact (h.admitted w.now).ending ending

theorem now_le_sendIn (mode : Mode) (t : Transport σ) (q : Request) (s : Selection)
    (w : World σ) : w.now ≤ (s.sendIn mode t q w).world.now := by
  cases mode with
  | exhaustive => exact (kept_sendAll t q s w).2
  | affinity =>
    show w.now ≤ (s.send t q w).world.now
    cases blocked : s.breaker.blocks w.now with
    | true => exact (send_of_blocks t q blocked).symm ▸ Nat.le_refl _
    | false =>
      obtain ⟨trail, ending⟩ := ending_send t q blocked
      exact ending.now_le

end Selection

/-! ## Soundness of a manager -/

namespace Manager

variable {σ : Type}

/-- **What holds of a manager after every history.** -/
def Sound (settings : CommunicationSettings) (m : Manager) : Prop :=
  ∀ s, m = .ready s → s.Sound settings

theorem sound_unresolved (settings : CommunicationSettings) : unresolved.Sound settings :=
  nofun

/-- A first resolution that finds endpoints starts a selection with them. -/
theorem exists_result_of_resolve {v : Service σ} {w : World σ} {s : Selection}
    (h : (unresolved.resolve v w).1 = .ready s) :
    ∃ set, s = .ofSet set
      ∧ (resolveEndpoints v.url v.settings v.resolver w.now w.random).result = .ok set := by
  unfold Manager.resolve at h
  dsimp only at h
  split at h
  · rename_i set found
    exact ⟨set, (Manager.ready.inj h).symm, found⟩
  · cases h

/-- What a first resolution finds is a set of fresh endpoints with distinct
addresses. -/
theorem exists_ofSet_of_resolve {v : Service σ} {w : World σ} {s : Selection}
    (h : (unresolved.resolve v w).1 = .ready s) :
    ∃ set, s = .ofSet set ∧ set.addresses.Nodup
      ∧ ∀ e ∈ set.toList, ∃ a, e = Endpoint.new a v.settings w.now :=
  let ⟨set, same, found⟩ := exists_result_of_resolve h
  ⟨set, same, resolveEndpoints_spec found⟩

/-- A resolution keeps a manager sound. -/
theorem Sound.resolve {v : Service σ} {m : Manager} (h : m.Sound v.settings) (w : World σ) :
    (m.resolve v w).1.Sound v.settings := by
  intro s hs
  cases m with
  | failed f => cases hs
  | ready s' => exact h s hs
  | unresolved =>
    obtain ⟨set, rfl, distinct, fresh⟩ := exists_ofSet_of_resolve hs
    exact Selection.sound_ofSet distinct fresh

/-- So does a resolution by another service, with the settings of the one that
found the endpoints. -/
theorem Sound.exists_resolve {settings : CommunicationSettings} {m : Manager}
    (h : m.Sound settings) (v : Service σ) (w : World σ) :
    ∃ settings', (m.resolve v w).1.Sound settings' := by
  cases m with
  | unresolved => exact ⟨v.settings, (sound_unresolved v.settings).resolve w⟩
  | failed f => exact ⟨settings, h⟩
  | ready s => exact ⟨settings, h⟩

/-- **A call keeps a manager sound.** -/
theorem Sound.sendIn {v : Service σ} {m : Manager} (h : m.Sound v.settings) (mode : Mode)
    (q : Request) (w : World σ) : (m.sendIn v mode q w).state.Sound v.settings := by
  cases hm : (m.resolve v w).1 with
  | unresolved => exact absurd hm (resolve_ne_unresolved v m w)
  | failed f =>
    rw [sendIn_of_failed q hm]
    exact nofun
  | ready s =>
    rw [sendIn_of_ready q hm]
    intro s' hs'
    obtain rfl := Manager.ready.inj hs'
    exact (h.resolve w s hm).sendIn mode v.transport q (m.resolve v w).2.2

/-- The clock does not go back during a call. -/
theorem now_le_sendIn (v : Service σ) (mode : Mode) (q : Request) (m : Manager)
    (w : World σ) : w.now ≤ (m.sendIn v mode q w).world.now := by
  have resolved : (m.resolve v w).2.2.now = w.now := now_resolve v m w
  cases hm : (m.resolve v w).1 with
  | unresolved => exact absurd hm (resolve_ne_unresolved v m w)
  | failed f =>
    rw [sendIn_of_failed q hm]
    exact Nat.le_of_eq resolved.symm
  | ready s =>
    rw [sendIn_of_ready q hm, ← resolved]
    exact Selection.now_le_sendIn mode v.transport q s (m.resolve v w).2.2

end Manager

/-! ## Runs -/

/-- **What can happen to a manager**: a call in one of the modes, a question
about its state or its exhaustive order, and the passing of time. -/
inductive Operation where
  | call (mode : Mode) (q : Request)
  | status
  | order
  | wait (ms : Nat)

/-- Whether an operation is a request with affinity. -/
def Operation.isSend : Operation → Bool
  | call .affinity _ => true
  | _ => false

/-- **A manager and the world around it.** -/
structure Scene (σ : Type) where
  manager : Manager
  world : World σ

namespace Scene

variable {σ : Type}

/-- The scene before anything is asked for. -/
def start (w : World σ) : Scene σ :=
  ⟨.unresolved, w⟩

/-- A call in a scene. -/
def call (v : Service σ) (mode : Mode) (q : Request) (s : Scene σ) : Reply σ Manager :=
  s.manager.sendIn v mode q s.world

/-- The scene that a call leaves. -/
def after (r : Reply σ Manager) : Scene σ :=
  ⟨r.state, r.world⟩

/-- **One operation.** The questions are answered from the state and leave it as
it is. -/
def perform (v : Service σ) (s : Scene σ) : Operation → Scene σ
  | .call mode q => after (s.call v mode q)
  | .status | .order => s
  | .wait ms => { s with world := s.world.wait ms }

/-- **A run of operations.** -/
def run (v : Service σ) : List Operation → Scene σ → Scene σ
  | [], s => s
  | op :: ops, s => run v ops (s.perform v op)

/-- The scene after a history. -/
def history (v : Service σ) (ops : List Operation) (w : World σ) : Scene σ :=
  run v ops (start w)

/-- Operations are performed one after the other. -/
theorem run_append (v : Service σ) (ops ops' : List Operation) (s : Scene σ) :
    run v (ops ++ ops') s = run v ops' (run v ops s) := by
  induction ops generalizing s with
  | nil => rfl
  | cons op ops ih => exact ih (s.perform v op)

/-- A history with one more operation. -/
theorem history_concat (v : Service σ) (ops : List Operation) (op : Operation) (w : World σ) :
    history v (ops ++ [op]) w = (history v ops w).perform v op :=
  run_append v ops [op] (start w)

/-- **What every operation keeps a run keeps.** -/
theorem run_keeps {v : Service σ} {I : Scene σ → Prop}
    (step : ∀ {s}, I s → ∀ op, I (s.perform v op)) (ops : List Operation) {s : Scene σ}
    (h : I s) : I (run v ops s) := by
  induction ops generalizing s with
  | nil => exact h
  | cons op ops ih => exact ih (step h op)

/-- The clock does not go back during an operation. -/
theorem now_le_perform (v : Service σ) (s : Scene σ) (op : Operation) :
    s.world.now ≤ (s.perform v op).world.now := by
  cases op with
  | call mode q => exact Manager.now_le_sendIn v mode q s.manager s.world
  | status => exact Nat.le_refl _
  | order => exact Nat.le_refl _
  | wait ms => exact Nat.le_add_right s.world.now ms

theorem now_le_run (v : Service σ) (ops : List Operation) (s : Scene σ) :
    s.world.now ≤ (run v ops s).world.now := by
  induction ops generalizing s with
  | nil => exact Nat.le_refl _
  | cons op ops ih => exact Nat.le_trans (now_le_perform v s op) (ih _)

/-- **An operation keeps a manager sound.** -/
theorem sound_perform {v : Service σ} {s : Scene σ} (h : s.manager.Sound v.settings)
    (op : Operation) : (s.perform v op).manager.Sound v.settings := by
  cases op with
  | call mode q => exact h.sendIn mode q s.world
  | status => exact h
  | order => exact h
  | wait ms => exact h

/-- **A run keeps a manager sound.** -/
theorem sound_run {v : Service σ} (ops : List Operation) {s : Scene σ}
    (h : s.manager.Sound v.settings) : (run v ops s).manager.Sound v.settings :=
  run_keeps (I := fun s => s.manager.Sound v.settings) sound_perform ops h

/-- **After every history a manager is sound.** -/
theorem sound_history (v : Service σ) (ops : List Operation) (w : World σ) :
    (history v ops w).manager.Sound v.settings :=
  sound_run ops (Manager.sound_unresolved v.settings)

end Scene

/-! ## A service to rehearse with -/

/-- The outcomes of a rehearsal can be compared. -/
instance decidableEqExcept {ε α : Type} [DecidableEq ε] [DecidableEq α] :
    DecidableEq (Except ε α)
  | .ok a, .ok b => decidable_of_iff (a = b) ⟨congrArg Except.ok, Except.ok.inj⟩
  | .error e, .error f => decidable_of_iff (e = f) ⟨congrArg Except.error, Except.error.inj⟩
  | .ok _, .error _ => isFalse nofun
  | .error _, .ok _ => isFalse nofun

/-- **A server with two addresses**, whose answers are scripted. Its down periods
have no random part. -/
def Service.rehearsed : Service Script where
  url :=
    { scheme := "http".toList
      authority := some ⟨[], [], .domain "server".toList, none⟩
      path := .rooted [[]]
      query := none
      fragment := none }
  settings := { supportsMultiEndpoint := true, downPeriodIntervalMinutes := 0 }
  resolver := ⟨fun _ _ => .ok [.v4 ⟨10, 0, 0, 1⟩, .v4 ⟨10, 0, 0, 2⟩]⟩
  transport := Script.transport

/-- A request to it. -/
def Request.rehearsed : Request where
  method := .get
  url := Service.rehearsed.url

/-- The world at the start of a rehearsal. -/
def World.rehearsed (script : Script) : World Script :=
  ⟨0, .cycle [], script⟩

end Uplink
