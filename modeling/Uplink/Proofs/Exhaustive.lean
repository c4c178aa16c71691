import Uplink.Proofs.Contact

/-!
# The course of an exhaustive call

An exhaustive call takes no notice of health, and selection takes little notice
of it in return. The endpoint that answers has answered, and it moves to the
front of the order of exhaustive calls. Affinity, the breaker and everything
that never changes about the endpoints are as they were.
-/

namespace Uplink

/-- **Nothing but health and the order of exhaustive calls differs.** -/
structure Selection.Kept (s s' : Selection) : Prop where
  bare : s'.endpoints.bare = s.endpoints.bare
  affinity : s'.affinity = s.affinity
  breaker : s'.breaker = s.breaker

theorem Selection.Kept.trans {s s' s'' : Selection} (h : s.Kept s') (h' : s'.Kept s'') :
    s.Kept s'' where
  bare := h'.bare.trans h.bare
  affinity := h'.affinity.trans h.affinity
  breaker := h'.breaker.trans h.breaker

namespace Search

variable {σ : Type} (t : Transport σ) (q : Request)

/-- A contact changes nothing but health. -/
theorem kept_contact {i : Nat} {e : Endpoint} {s : Search σ}
    (found : s.selection.endpoints.get? i = some e) :
    s.selection.Kept (s.contact t q i e).2.selection where
  bare := by
    rw [endpoints_contact]
    exact EndpointSet.bare_set found (Endpoint.bare_send t q e s.world)
  affinity := affinity_contact t q i e s
  breaker := breaker_contact t q i e s

/-- **Attempts change nothing but health and the order**, and the clock does not
go back while they last. -/
theorem kept_attempts (positions : List Nat) (s : Search σ) :
    s.selection.Kept (s.attempts t q positions).state
      ∧ s.world.now ≤ (s.attempts t q positions).world.now := by
  induction positions generalizing s with
  | nil => exact ⟨⟨rfl, rfl, rfl⟩, Nat.le_refl _⟩
  | cons i rest ih =>
    unfold attempts
    cases found : s.selection.endpoints.get? i with
    | none => exact ih s
    | some e =>
      have kept := kept_contact t q found
      have later : s.world.now ≤ (s.contact t q i e).2.world.now := by
        rw [world_contact]
        exact Transport.now_le_run t q e.address s.world
      dsimp only
      cases (s.contact t q i e).1 with
      | ok r => exact ⟨⟨kept.bare, kept.affinity, kept.breaker⟩, later⟩
      | error f =>
        by_cases hf : f.isConnectivity = true
        · obtain ⟨kept', later'⟩ := ih { (s.contact t q i e).2 with failure := some f }
          dsimp only
          rw [if_pos hf]
          exact ⟨kept.trans kept', Nat.le_trans later later'⟩
        · dsimp only
          rw [if_neg hf]
          exact ⟨kept, later⟩

/-- **Attempts keep what lasts**, of all endpoints. -/
theorem lasting_attempts {start : Instant} {P : Endpoint → Prop} (hP : Endpoint.Lasting start P)
    (positions : List Nat) {s : Search σ} (now : start ≤ s.world.now)
    (all : ∀ d ∈ s.selection.endpoints.toList, P d) :
    ∀ d ∈ (s.attempts t q positions).state.endpoints.toList, P d := by
  induction positions generalizing s with
  | nil => exact all
  | cons i rest ih =>
    unfold attempts
    cases found : s.selection.endpoints.get? i with
    | none => exact ih now all
    | some e =>
      have all' : ∀ d ∈ (s.contact t q i e).2.selection.endpoints.toList, P d := by
        intro d hd
        obtain hd | rfl := EndpointSet.mem_toList_set hd
        · exact all d hd
        · exact hP.send t q now (all e (EndpointSet.mem_toList_of_get? found))
      have later : start ≤ (s.contact t q i e).2.world.now := by
        rw [world_contact]
        exact Nat.le_trans now (Transport.now_le_run t q e.address s.world)
      dsimp only
      cases (s.contact t q i e).1 with
      | ok r => exact all'
      | error f =>
        dsimp only
        split
        · exact ih (s := { (s.contact t q i e).2 with failure := some f }) later all'
        · exact all'

end Search

namespace Selection

variable {σ : Type} (t : Transport σ) (q : Request)

/-- **An exhaustive call changes nothing but health and the order.** -/
theorem kept_sendAll (s : Selection) (w : World σ) :
    s.Kept (s.sendAll t q w).state ∧ w.now ≤ (s.sendAll t q w).world.now := by
  have ordered : s.Kept s.ordered := by
    unfold ordered
    split <;> exact ⟨rfl, rfl, rfl⟩
  obtain ⟨kept, later⟩ := Search.kept_attempts t q s.ordered.order (.start s.ordered w)
  exact ⟨ordered.trans kept, later⟩

end Selection

end Uplink
