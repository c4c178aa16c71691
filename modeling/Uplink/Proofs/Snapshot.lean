import Uplink.Proofs.Window

/-!
# What the status shows of the breaker

Two computations say whether the breaker stops requests. The gate asks how much
time has passed since it opened, and lets a request through once that is more than
the period. The status asks how much of the window is left, and shows the breaker
open while that is more than nothing. A window that includes its end has nothing
left at its last instant, so there the gate still stops a request and the status
shows a closed breaker. A window without length is nothing but its last instant.
At every other instant the two agree, also when the window is over and no request
has closed the breaker yet.

The status reports instants that may lie beyond the clock: the end of the window,
and the ends of the endpoints' down periods. If one of them does, there is no
status at all.
-/

namespace Uplink

/-! ## The window, read off the breaker -/

namespace Breaker

/-- How much of the window is left, read off without asking the clock for its
end. -/
def left (b : Breaker) (now : Instant) : Option Nat :=
  match b with
  | closed => none
  | .open since period => some (since + 1000 * period - now)

/-- **The window ends at an instant**: its last one. -/
def EndsAt (b : Breaker) (now : Instant) : Prop :=
  match b with
  | closed => False
  | .open since period => now = since + 1000 * period

/-- The clock can show the end of the window. -/
def InClock (b : Breaker) : Prop :=
  ∀ since period, b = .open since period → (since + 1000 * period) / 1000 < Instant.limit

theorem inClock_closed : closed.InClock := nofun

theorem inClock_open (since : Instant) (period : Seconds) :
    (Breaker.open since period).InClock ↔ (since + 1000 * period) / 1000 < Instant.limit := by
  simp [InClock]

/-- **What is left of the window** is told if the clock can show its end. -/
theorem remaining_eq (b : Breaker) (now : Instant) :
    b.InClock ∧ b.remaining now = .ok (b.left now)
      ∨ ¬ b.InClock ∧ b.remaining now = .error .beyondRange := by
  cases b with
  | closed => exact .inl ⟨inClock_closed, rfl⟩
  | «open» since period =>
    rw [inClock_open]
    show _ ∧ (since.later period >>= _) = _ ∨ _ ∧ (since.later period >>= _) = _
    by_cases inside : (since + 1000 * period) / 1000 < Instant.limit
    · rw [Instant.later_of_lt inside]
      exact .inl ⟨inside, rfl⟩
    · rw [show since.later period = .error .beyondRange from if_neg inside]
      exact .inr ⟨inside, rfl⟩

/-- **Something is left of the window while it stops requests, but for its
end.** -/
theorem left_ne_zero_iff (b : Breaker) (now : Instant) :
    (b.left now).any (· ≠ 0) = true ↔ b.blocks now = true ∧ ¬ b.EndsAt now := by
  cases b with
  | closed => simp [left]
  | «open» since period =>
    rw [blocks_open_iff]
    show decide (since + 1000 * period - now ≠ 0) = true
      ↔ now ≤ since + 1000 * period ∧ ¬ now = since + 1000 * period
    rw [decide_eq_true_iff, Nat.sub_ne_zero_iff_lt]
    exact Nat.lt_iff_le_and_ne

/-- The last instant of the window is part of it. -/
theorem blocks_of_endsAt {b : Breaker} {now : Instant} (h : b.EndsAt now) :
    b.blocks now = true := by
  cases b with
  | closed => cases h
  | «open» since period => exact (blocks_open_iff since now period).2 (Nat.le_of_eq h)

end Breaker

/-! ## Reporting the endpoints -/

/-- Going through a list comes to an end exactly if nothing in it fails. -/
theorem exists_mapM_eq_ok_iff {ε α β : Type} {f : α → Except ε β} {l : List α} :
    (∃ bs, l.mapM f = .ok bs) ↔ ∀ a ∈ l, ∃ b, f a = .ok b := by
  induction l with
  | nil => exact ⟨fun _ => nofun, fun _ => ⟨[], rfl⟩⟩
  | cons a l ih =>
    rw [List.forall_mem_cons, ← ih, List.mapM_cons]
    cases f a with
    | error e => exact ⟨nofun, nofun⟩
    | ok b =>
      cases l.mapM f with
      | error e => exact ⟨nofun, nofun⟩
      | ok bs => exact ⟨fun _ => ⟨⟨b, rfl⟩, bs, rfl⟩, fun _ => ⟨b :: bs, rfl⟩⟩

namespace Endpoint

/-- The clock can show the end of the down period, if the endpoint is down. -/
def RestInClock (e : Endpoint) : Prop :=
  ∀ since, e.liveness = .down since → (since + 1000 * e.downPeriod) / 1000 < Instant.limit

/-- **An endpoint is reported exactly if the clock can show the end of its down
period.** -/
theorem exists_status_iff (e : Endpoint) (role : Role) (now : Instant) :
    (∃ st, e.status role now = .ok st) ↔ e.RestInClock := by
  unfold status RestInClock
  cases e.liveness with
  | up => exact ⟨fun _ => nofun, fun _ => ⟨_, rfl⟩⟩
  | down since =>
    dsimp only
    by_cases inside : (since + 1000 * e.downPeriod) / 1000 < Instant.limit
    · rw [Instant.later_of_lt inside]
      exact ⟨fun _ _ h => Liveness.down.inj h ▸ inside, fun _ => ⟨_, rfl⟩⟩
    · rw [show since.later e.downPeriod = .error .beyondRange from if_neg inside]
      exact ⟨nofun, fun h => absurd (h since rfl) inside⟩

end Endpoint

/-- **The endpoints are reported exactly if every one of them is.** -/
theorem EndpointSet.exists_statuses_iff (s : EndpointSet) (now : Instant) :
    (∃ l, s.statuses now = .ok l) ↔ ∀ e ∈ s.toList, e.RestInClock := by
  have alternates := exists_mapM_eq_ok_iff (f := fun e => e.status .alternate now)
    (l := s.alternates)
  simp only [Endpoint.exists_status_iff] at alternates
  show _ ↔ ∀ e ∈ s.preferred :: s.alternates, e.RestInClock
  rw [List.forall_mem_cons, ← alternates, ← s.preferred.exists_status_iff .preferred now]
  unfold statuses
  cases s.preferred.status .preferred now with
  | error o => exact ⟨nofun, nofun⟩
  | ok st =>
    cases s.alternates.mapM fun e => e.status .alternate now with
    | error o => exact ⟨nofun, nofun⟩
    | ok l => exact ⟨fun _ => ⟨⟨st, rfl⟩, l, rfl⟩, fun _ => ⟨_, rfl⟩⟩

/-! ## The status of a manager -/

namespace Manager

variable {σ : Type} {v : Service σ} {m : Manager} {q : Request} {w : World σ}

/-- **The clock can show every end that a status reports.** -/
def EndsInClock : Manager → Prop
  | ready s => s.breaker.InClock ∧ ∀ e ∈ s.endpoints.toList, e.RestInClock
  | _ => True

/-- **There is a status exactly if the clock can show every end in it**, and it
shows the breaker open while something is left of the window. -/
theorem status_cases (v : Service σ) (m : Manager) (now : Instant) :
    (m.EndsInClock ∧ ∃ st, m.status v now = .ok st
        ∧ st.breakerOpen = (m.breaker.left now).any (· ≠ 0))
      ∨ ¬ m.EndsInClock ∧ m.status v now = .error .beyondRange := by
  cases m with
  | unresolved | failed => exact .inl ⟨trivial, _, rfl, rfl⟩
  | ready s =>
    have endpoints := s.endpoints.exists_statuses_iff now
    show (_ ∧ _) ∧ (∃ st, (s.breaker.remaining now >>= _) = .ok st ∧ _)
      ∨ ¬ (_ ∧ _) ∧ (s.breaker.remaining now >>= _) = _
    obtain ⟨inside, remaining⟩ | ⟨outside, remaining⟩ := s.breaker.remaining_eq now
    · rw [remaining, ← endpoints]
      cases s.endpoints.statuses now with
      | ok l => exact .inl ⟨⟨inside, l, rfl⟩, _, rfl, rfl⟩
      | error o =>
        refine .inr ⟨?_, rfl⟩
        rintro ⟨_, _, found⟩
        cases found
    · rw [remaining]
      exact .inr ⟨fun h => outside h.1, rfl⟩

/-- **The breaker stops a request**: it is open, and the request finds the
service unavailable, contacts nobody, and leaves manager and world as they
were. -/
def StoppedByBreaker (v : Service σ) (q : Request) (m : Manager) (w : World σ) : Prop :=
  m.breaker ≠ .closed ∧ m.send v q w = ⟨.ok (.error .unavailable), [], m, w⟩

/-- **The breaker stops a request exactly while its window lasts.** A request
that comes later closes the breaker, and if that opens again, it opens later. -/
theorem stoppedByBreaker_iff :
    m.StoppedByBreaker v q w ↔ m.breaker.blocks w.now = true := by
  constructor
  · rintro ⟨open_, stopped⟩
    cases hb : m.breaker with
    | closed => exact absurd hb open_
    | «open» since period =>
      obtain ⟨s, rfl, hs⟩ := exists_ready_of_breaker hb
      rw [Breaker.blocks_open_iff, ← Nat.not_lt]
      intro elapsed
      have reply : (ready s).send v q w
          = ((s.recovered w.now).send v.transport q w).map ready := by
        show (s.send v.transport q w).map ready = _
        rw [Selection.send_of_elapsed v.transport q hs elapsed]
      rw [reply] at stopped
      have world : ((s.recovered w.now).send v.transport q w).world = w :=
        congrArg Reply.world stopped
      have same : ((s.recovered w.now).send v.transport q w).state = s :=
        Manager.ready.inj (congrArg Reply.state stopped)
      obtain closed | ⟨period', anew⟩ := Selection.breaker_send_recovered v.transport q s w
      · rw [same, hs] at closed
        cases closed
      · rw [same, hs, world] at anew
        obtain ⟨rfl, _⟩ := Breaker.open.inj anew
        exact absurd elapsed (Nat.not_lt_of_le (Nat.le_add_right _ _))
  · intro blocks
    cases hb : m.breaker with
    | closed =>
      rw [hb] at blocks
      cases blocks
    | «open» since period =>
      refine ⟨by rw [hb]; exact nofun, send_of_inside q hb ?_⟩
      rw [hb] at blocks
      exact (Breaker.blocks_open_iff since w.now period).1 blocks

/-- **The status shows the breaker open while it stops requests, but for the last
instant of its window.** There is a status exactly if the clock can show every end
in it. A request with affinity at the same instant is stopped by the breaker
exactly if the status shows the breaker open or the instant is the last one of the
window, and at the last one the status does not show it open. -/
theorem breaker_shown_open_iff (v : Service σ) (m : Manager) (q : Request) (w : World σ) :
    (m.EndsInClock ∧ ∃ st, m.status v w.now = .ok st
        ∧ (st.breakerOpen = true ↔ m.StoppedByBreaker v q w ∧ ¬ m.breaker.EndsAt w.now)
        ∧ (m.StoppedByBreaker v q w ↔ st.breakerOpen = true ∨ m.breaker.EndsAt w.now))
      ∨ ¬ m.EndsInClock ∧ m.status v w.now = .error .beyondRange := by
  obtain ⟨inside, st, status, shown⟩ | outside := m.status_cases v w.now
  · have agree : st.breakerOpen = true
        ↔ m.StoppedByBreaker v q w ∧ ¬ m.breaker.EndsAt w.now := by
      rw [shown, Breaker.left_ne_zero_iff, stoppedByBreaker_iff]
    refine .inl ⟨inside, st, status, agree, fun stopped => ?_, ?_⟩
    · by_cases ends : m.breaker.EndsAt w.now
      · exact .inr ends
      · exact .inl (agree.2 ⟨stopped, ends⟩)
    · rintro (shown | ends)
      · exact (agree.1 shown).1
      · exact stoppedByBreaker_iff.2 (Breaker.blocks_of_endsAt ends)
  · exact .inr outside

/-- **At the last instant of the window the status shows a closed breaker.** Two
endpoints that refuse open the breaker for five minutes. Five minutes later a
request is still stopped, and the status does not show the breaker open. -/
theorem breaker_shown_closed_at_end :
    let v := Service.rehearsed
    let q := Request.rehearsed
    let s := Scene.history v [.call .affinity q, .wait 300000] (.rehearsed [])
    s.manager.StoppedByBreaker v q s.world
      ∧ ∃ st, s.manager.status v s.world.now = .ok st
        ∧ ¬ (st.breakerOpen = true ↔ s.manager.StoppedByBreaker v q s.world) := by
  intro v q s
  have stopped : s.manager.StoppedByBreaker v q s.world := stoppedByBreaker_iff.2 (by decide)
  have shown : (s.manager.status v s.world.now).map ManagerStatus.breakerOpen = .ok false := by
    decide
  cases status : s.manager.status v s.world.now with
  | error o =>
    rw [status] at shown
    cases shown
  | ok st =>
    rw [status] at shown
    refine ⟨stopped, st, rfl, fun agree => ?_⟩
    exact absurd ((agree.2 stopped).symm.trans (Except.ok.inj shown)) nofun

end Manager

end Uplink
