import Uplink.Manager
import Uplink.Proofs.Ending
import Uplink.Proofs.Exhaustive
import Uplink.Proofs.Resolution

/-!
# One call of a manager

A call of a manager looks for the endpoints, if nobody has, and the rest of it
is a call of the selection, if there is one. Looking for endpoints takes no
time and contacts nobody, so what a call reports about contacts is what the
selection reports.

A call of the selection with affinity asks the breaker first. Either the breaker
stops it before it does anything, or it runs its course from the state it is
admitted to, in which the breaker is closed.
-/

namespace Uplink

/-- **A reply about a manager that tells what a reply about its selection
tells.** Only what the resolution did outside may come on top. -/
structure Reply.Tells {σ : Type} (r : Reply σ Manager) (r' : Reply σ Selection) : Prop where
  result : r.result = r'.result
  contacts : r.contacts = r'.contacts
  state : r.state = .ready r'.state
  world : r.world = r'.world

namespace Manager

variable {σ : Type} (v : Service σ) (q : Request) (m : Manager) (w : World σ)

/-- A manager's breaker, closed while there are no endpoints. -/
def breaker : Manager → Breaker
  | ready s => s.breaker
  | _ => .closed

/-- A resolution contacts nobody. -/
theorem told_resolve : (m.resolve v w).2.1.filterMap Event.told? = [] := by
  cases m with
  | unresolved => exact told_resolveEndpoints v.url v.settings v.resolver w.now w.random
  | failed f => rfl
  | ready s => rfl

/-- A resolution takes no time. -/
theorem now_resolve : (m.resolve v w).2.2.now = w.now := by
  cases m <;> rfl

/-- After a resolution the manager knows its endpoints or why it has none. -/
theorem resolve_ne_unresolved : (m.resolve v w).1 ≠ unresolved := by
  cases m with
  | unresolved =>
    unfold resolve
    dsimp only
    split <;> exact nofun
  | failed f => exact nofun
  | ready s => exact nofun

/-- A manager whose resolution found endpoints has no open breaker yet, or they
are the ones it has. -/
theorem breaker_resolve : (m.resolve v w).1.breaker = m.breaker := by
  cases m with
  | unresolved =>
    unfold resolve
    dsimp only
    split <;> rfl
  | failed f => rfl
  | ready s => rfl

variable {v m w}

/-- A call looks for the endpoints and then goes by what it knows. -/
theorem sendIn_eq (mode : Mode) : m.sendIn v mode q w
    = ⟨((m.resolve v w).1.sendResolved v mode q (m.resolve v w).2.2).result,
        (m.resolve v w).2.1
          ++ ((m.resolve v w).1.sendResolved v mode q (m.resolve v w).2.2).events,
        ((m.resolve v w).1.sendResolved v mode q (m.resolve v w).2.2).state,
        ((m.resolve v w).1.sendResolved v mode q (m.resolve v w).2.2).world⟩ := rfl

/-- The reply of a call whose endpoints are known: that of the selection, after
what the resolution did. -/
theorem sendIn_of_ready {mode : Mode} {s : Selection} (h : (m.resolve v w).1 = .ready s) :
    m.sendIn v mode q w
      = ⟨(s.sendIn mode v.transport q (m.resolve v w).2.2).result,
          (m.resolve v w).2.1 ++ (s.sendIn mode v.transport q (m.resolve v w).2.2).events,
          ready (s.sendIn mode v.transport q (m.resolve v w).2.2).state,
          (s.sendIn mode v.transport q (m.resolve v w).2.2).world⟩ := by
  rw [sendIn_eq, h]
  rfl

/-- Endpoints that are known are not looked for again. -/
theorem sendIn_ready (mode : Mode) (s : Selection) (w : World σ) :
    (ready s).sendIn v mode q w = (s.sendIn mode v.transport q w).map ready := rfl

/-- The reply of a call without endpoints: the failure to find them. -/
theorem sendIn_of_failed {mode : Mode} {f : Failure} (h : (m.resolve v w).1 = .failed f) :
    m.sendIn v mode q w
      = ⟨.ok (.error f), (m.resolve v w).2.1, failed f, (m.resolve v w).2.2⟩ := by
  rw [sendIn_eq, h]
  show Reply.mk _ (_ ++ []) _ _ = _
  rw [List.append_nil]
  rfl

/-- **A call of a manager tells what the call of its selection tells.** -/
theorem tells_sendIn {mode : Mode} {s : Selection} (h : (m.resolve v w).1 = .ready s) :
    (m.sendIn v mode q w).Tells (s.sendIn mode v.transport q (m.resolve v w).2.2) where
  result := congrArg Reply.result (sendIn_of_ready q h)
  contacts := by
    rw [sendIn_of_ready q h, Reply.contacts, List.filterMap_append, told_resolve,
      List.nil_append]
    rfl
  state := congrArg Reply.state (sendIn_of_ready q h)
  world := congrArg Reply.world (sendIn_of_ready q h)

/-- Without endpoints nobody is contacted. -/
theorem contacts_sendIn_of_failed {mode : Mode} {f : Failure}
    (h : (m.resolve v w).1 = .failed f) : (m.sendIn v mode q w).contacts = [] := by
  rw [sendIn_of_failed q h]
  exact told_resolve v m w

end Manager

/-! ## Being let through -/

namespace Selection

variable {σ : Type} (t : Transport σ) (q : Request)

/-- **An open breaker stops a call** before it does anything. -/
theorem send_of_blocks {s : Selection} {w : World σ} (h : s.breaker.blocks w.now = true) :
    s.send t q w = ⟨.ok (.error .unavailable), [], s, w⟩ :=
  if_pos h

/-- **A call that is let through runs its course** from the state it is
admitted to. -/
theorem ending_send {s : Selection} {w : World σ} (h : s.breaker.blocks w.now = false) :
    ∃ trail, Search.Ending t q (s.admitted w.now) w trail (s.send t q w) := by
  have : s.send t q w
      = (Search.start (s.admitted w.now) w).visits t q (s.admitted w.now).plan :=
    if_neg (by rw [h]; exact Bool.false_ne_true)
  rw [this]
  exact Search.ending_visits t q (s.admitted w.now) w

@[simp] theorem breaker_admitted (s : Selection) (now : Instant) :
    (s.admitted now).breaker = .closed := by
  unfold admitted
  cases h : s.breaker with
  | closed => exact h
  | «open» since period => rfl

@[simp] theorem affinity_admitted (s : Selection) (now : Instant) :
    (s.admitted now).affinity = s.affinity := by
  unfold admitted
  split <;> rfl

@[simp] theorem bare_admitted (s : Selection) (now : Instant) :
    (s.admitted now).endpoints.bare = s.endpoints.bare := by
  unfold admitted
  split
  · rfl
  · exact EndpointSet.bare_rearm s.endpoints now

end Selection

end Uplink
