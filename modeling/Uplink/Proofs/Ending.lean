import Uplink.Proofs.Course

/-!
# How a call with affinity ends

A call has three ends (`Search.Ending`). The clock cuts it off, a contact
decides it, or it is exhausted. Each end carries the contacts that led to it,
so what a call reports is read off its end: the contacts follow the plan, all
of them but the last failed for want of connectivity, and the outcome of the
last one is the result.

The breaker opens at one end only, and the alternate with affinity changes by
the visits that were contacted. These two facts are all that a history of calls
has to know about a call.
-/

namespace Uplink

namespace Search

variable {σ : Type} {t : Transport σ} {q : Request} {s₀ : Selection} {trail : List Contact}
  {s : Search σ}

/-! ## An exhausted call -/

section Exhausted

variable (s : Search σ)

theorem endpoints_exhausted : s.exhausted.state.endpoints = s.selection.endpoints := by
  unfold exhausted
  split <;> rfl

theorem affinity_exhausted : s.exhausted.state.affinity = s.selection.affinity := by
  unfold exhausted
  split <;> rfl

theorem events_exhausted : s.exhausted.events = s.events := by
  unfold exhausted
  split <;> rfl

theorem result_exhausted : s.exhausted.result = .ok (.error s.lastFailure) := by
  unfold exhausted
  split <;> rfl

theorem now_exhausted : s.exhausted.world.now = s.world.now := by
  unfold exhausted
  split <;> rfl

variable {s}

/-- Without alternates the breaker stays as it is. -/
theorem exhausted_of_nil (h : s.selection.endpoints.alternates = []) :
    s.exhausted = s.finish (.ok (.error s.lastFailure)) :=
  if_pos h

/-- **With alternates the breaker opens now.** -/
theorem breaker_exhausted (h : s.selection.endpoints.alternates ≠ []) :
    ∃ period, s.exhausted.state.breaker = .open s.world.now period := by
  unfold exhausted
  rw [if_neg h]
  exact ⟨_, rfl⟩

end Exhausted

/-! ## The ends of a call -/

/-- **A point in the course of a call**: the visits `pre` of its plan are
behind it, and it is under way. -/
structure Reached (t : Transport σ) (q : Request) (s₀ : Selection) (w : World σ)
    (pre made : List Visit) (trail : List Contact) (s : Search σ) : Prop
    extends Underway s₀ made trail s where
  passes : Passes t q pre (start s₀ w) s
  along : made.Sublist pre

theorem reached_of_passes {w : World σ} {pre : List Visit}
    (h : Passes t q pre (start s₀ w) s) :
    ∃ made trail, Reached t q s₀ w pre made trail s := by
  obtain ⟨made, trail, along, underway⟩ := (underway_start s₀ w).run h
  exact ⟨made, trail, { toUnderway := underway, passes := h, along := along }⟩

/-- **The ends of a call**, each with the contacts that led to it. -/
inductive Ending (t : Transport σ) (q : Request) (s₀ : Selection) (w : World σ)
    (trail : List Contact) (r : Reply σ Selection) : Prop
  /-- A check needs an instant beyond the clock. -/
  | cut {pre post made : List Visit} {v : Visit} {s : Search σ} {e : Endpoint}
      (reached : Reached t q s₀ w pre made trail s) (split : s₀.plan = pre ++ v :: post)
      (new : v.position ∉ s.contacted)
      (found : s.selection.endpoints.get? v.position = some e) (outside : ¬ e.InClock)
      (reply : r = s.finish (.error .beyondRange))
  /-- A contact decides the call. -/
  | decided {pre post made : List Visit} {before : List Contact} {v : Visit} {s : Search σ}
      {e e' : Endpoint} {random : Random} {o : Outcome}
      (reached : Reached t q s₀ w pre made before s) (split : s₀.plan = pre ++ v :: post)
      (new : v.position ∉ s.contacted)
      (found : s.selection.endpoints.get? v.position = some e)
      (check : e.check s.world.now s.world.random = .ok (true, e', random))
      (outcome : (s.attempt t q v.position e' random).1 = o)
      (final : o.isConnectivity = false)
      (last : trail = before ++ [⟨v.position, e'.address, o⟩])
      (reply : r = ((s.attempt t q v.position e' random).2.withAffinity
        (v.decided s.selection.affinity o)).finish (.ok o))
  /-- All visits let the call go on. -/
  | exhausted {made : List Visit} {s : Search σ}
      (reached : Reached t q s₀ w s₀.plan made trail s) (reply : r = s.exhausted)

/-- **A call ends in one of these ways.** -/
theorem ending_visits (t : Transport σ) (q : Request) (s₀ : Selection) (w : World σ) :
    ∃ trail, Ending t q s₀ w trail ((start s₀ w).visits t q s₀.plan) := by
  cases course_visits t q s₀.plan (start s₀ w) with
  | exhausted passes reply =>
    obtain ⟨made, trail, reached⟩ := reached_of_passes passes
    exact ⟨trail, .exhausted reached reply⟩
  | @ended pre post v s' split passes last =>
    obtain ⟨made, trail, reached⟩ := reached_of_passes passes
    generalize (start s₀ w).visits t q s₀.plan = r at last
    cases visited_of_visit last with
    | cut new found outside =>
      exact ⟨trail, .cut reached split new found outside rfl⟩
    | decided new found check outcome final =>
      exact ⟨_, .decided reached split new found check outcome final rfl rfl⟩

/-! ## What an end tells -/

namespace Ending

variable {w : World σ} {r : Reply σ Selection}

/-- The search that made the last contact records it. -/
theorem recorded (h : Ending t q s₀ w trail r) :
    ∃ s : Search σ, Recorded s₀ trail s ∧ r.events = s.events
      ∧ r.state.endpoints = s.selection.endpoints := by
  cases h with
  | @cut _ _ _ _ s _ reached _ _ _ _ reply =>
    rw [reply]
    exact ⟨s, reached.toRecorded, rfl, rfl⟩
  | @decided _ _ _ _ v s _ e' random o reached _ _ found check outcome _ last reply =>
    rw [reply, last, ← outcome]
    exact ⟨_, reached.toRecorded.attempt found check, rfl, rfl⟩
  | @exhausted _ s reached reply =>
    rw [reply]
    exact ⟨s, reached.toRecorded, events_exhausted s, endpoints_exhausted s⟩

/-- **The contacts of the reply are those of the trail.** -/
theorem contacts (h : Ending t q s₀ w trail r) : r.contacts = trail.map Contact.told := by
  obtain ⟨s, recorded, events, _⟩ := h.recorded
  unfold Reply.contacts
  rw [events, recorded.told]

theorem located (h : Ending t q s₀ w trail r) :
    ∀ c ∈ trail, s₀.endpoints.addresses[c.position]? = some c.address := by
  obtain ⟨s, recorded, _, _⟩ := h.recorded
  exact recorded.located

theorem bare (h : Ending t q s₀ w trail r) :
    r.state.endpoints.bare = s₀.endpoints.bare := by
  obtain ⟨s, recorded, _, endpoints⟩ := h.recorded
  rw [endpoints, recorded.bare]

/-- **The contacts are made in the order of the plan**, none of them twice. -/
theorem along (h : Ending t q s₀ w trail r) :
    (trail.map Contact.position).Sublist (s₀.plan.map Visit.position)
      ∧ (trail.map Contact.position).Nodup := by
  cases h with
  | cut reached split _ _ _ _ =>
    rw [reached.positions, split]
    exact ⟨(reached.along.trans (List.sublist_append_left _ _)).map _,
      reached.positions ▸ reached.nodup⟩
  | @decided _ post _ _ v _ _ _ _ _ reached split new _ _ _ _ last _ =>
    rw [last, List.map_append, split, List.map_append, List.map_cons]
    refine ⟨List.Sublist.append ?_ ((List.nil_sublist _).cons_cons _), ?_⟩
    · rw [reached.positions]
      exact reached.along.map _
    · refine List.nodup_append.2 ⟨reached.nodup, List.pairwise_singleton _ _, ?_⟩
      rintro i hi j hj rfl
      rw [List.mem_singleton.1 hj] at hi
      exact new ((reached.mem_contacted _).2 hi)
  | exhausted reached _ =>
    rw [reached.positions]
    exact ⟨reached.along.map _, reached.positions ▸ reached.nodup⟩

/-- **All contacts but the last fail for want of connectivity.** -/
theorem failed_dropLast (h : Ending t q s₀ w trail r) :
    ∀ c ∈ trail.dropLast, c.outcome.isConnectivity = true := by
  intro c hc
  cases h with
  | cut reached => exact reached.failed c (List.dropLast_subset _ hc)
  | decided reached _ _ _ _ _ _ last _ =>
    rw [last, List.dropLast_concat] at hc
    exact reached.failed c hc
  | exhausted reached => exact reached.failed c (List.dropLast_subset _ hc)

/-- **The result is the outcome of the last contact**, unless the clock cuts
the call off. -/
theorem result (h : Ending t q s₀ w trail r) :
    r.result = .ok (verdict trail) ∨ r.CutOff ∧ ¬ s₀.endpoints.InClock := by
  cases h with
  | @cut _ _ _ v s e reached _ new found outside reply =>
    refine .inr ⟨by rw [reply]; rfl, fun inside => ?_⟩
    -- only an endpoint that is up is asked for the end of its fail period, and
    -- an endpoint that is up has not been touched by the call
    obtain same | down := reached.untouched v.position new e found
    · exact outside (inside e (EndpointSet.mem_toList_of_get? same))
    · refine outside fun up => ?_
      rw [Endpoint.isDown, up] at down
      cases down
  | decided _ _ _ _ _ _ _ last reply =>
    refine .inl ?_
    rw [reply, last, verdict_concat]
    rfl
  | exhausted reached reply =>
    refine .inl ?_
    rw [← reached.failure, reply, result_exhausted]

/-- The alternate with affinity after visits that failed is gone or the one
before. -/
theorem foldl_failed (made : List Visit) (affinity : Option Nat) :
    made.foldl Visit.failed affinity = affinity ∨ made.foldl Visit.failed affinity = none := by
  induction made generalizing affinity with
  | nil => exact .inl rfl
  | cons v made ih =>
    cases v with
    | affine i => exact .inr ((ih none).elim id id)
    | preferred => exact ih affinity
    | scan i => exact ih affinity

/-- **A call leaves no affinity, the affinity it found, or affinity to an
alternate of its scan.** -/
theorem affinity (h : Ending t q s₀ w trail r) :
    r.state.affinity = none ∨ r.state.affinity = s₀.affinity
      ∨ ∃ i, Visit.scan i ∈ s₀.plan ∧ r.state.affinity = some i := by
  cases h with
  | @cut _ _ made _ s _ reached _ _ _ _ reply =>
    have hs : r.state.affinity = made.foldl Visit.failed s₀.affinity := by
      rw [reply, ← reached.affinity]
      rfl
    rw [hs]
    exact (foldl_failed made s₀.affinity).symm.imp id .inl
  | @decided _ _ made _ v s _ _ _ o reached split _ _ _ _ _ _ reply =>
    have hs : r.state.affinity = v.decided (made.foldl Visit.failed s₀.affinity) o := by
      rw [reply, ← reached.affinity]
      rfl
    rw [hs]
    cases o with
    | error f => exact (foldl_failed made s₀.affinity).symm.imp id .inl
    | ok a =>
      cases v with
      | preferred => exact .inl rfl
      | affine i => exact (foldl_failed made s₀.affinity).symm.imp id .inl
      | scan i =>
        exact .inr (.inr ⟨i, split ▸ List.mem_append_right _ List.mem_cons_self, rfl⟩)
  | @exhausted made s reached reply =>
    rw [reply, affinity_exhausted, reached.affinity]
    exact (foldl_failed made s₀.affinity).symm.imp id .inl

/-- The clock does not go back during a call. -/
theorem now_le (h : Ending t q s₀ w trail r) : w.now ≤ r.world.now := by
  cases h with
  | cut reached _ _ _ _ reply => exact reply ▸ reached.passes.now_le
  | @decided _ _ _ _ v s _ e' random _ reached _ _ _ _ _ _ _ reply =>
    refine Nat.le_trans reached.passes.now_le ?_
    rw [reply]
    exact now_le_attempt v.position e' random s
  | exhausted reached reply =>
    rw [reply, now_exhausted]
    exact reached.passes.now_le

/-- **What lasts of all endpoints at the start lasts to the end of the call.** -/
theorem lasting {start : Instant} {P : Endpoint → Prop} (hP : Endpoint.Lasting start P)
    (h : Ending t q s₀ w trail r) (now : start ≤ w.now) (all : ∀ d ∈ s₀.endpoints.toList, P d) :
    ∀ d ∈ r.state.endpoints.toList, P d := by
  cases h with
  | cut reached _ _ _ _ reply =>
    rw [reply]
    exact reached.passes.lasting hP now all
  | @decided _ _ _ _ v s _ e' random _ reached _ _ found check _ _ _ reply =>
    rw [reply]
    have now' : start ≤ s.world.now := Nat.le_trans now reached.passes.now_le
    exact lasting_attempt hP now' (reached.passes.lasting hP now all) found check
  | exhausted reached reply =>
    rw [reply, endpoints_exhausted]
    exact reached.passes.lasting hP now all

/-! ## The breaker -/

/-- **A call that opens the breaker**: there are alternates, all contacts failed
for want of connectivity, the clock has not cut the call off, and every endpoint
was contacted or is down. -/
structure Opened (s₀ : Selection) (trail : List Contact) (r : Reply σ Selection) : Prop where
  alternates : s₀.endpoints.alternates ≠ []
  failed : ∀ c ∈ trail, c.outcome.isConnectivity = true
  completes : ¬ r.CutOff
  breaker : ∃ period, r.state.breaker = .open r.world.now period
  settled : ∀ i e, r.state.endpoints.get? i = some e →
    i ∈ trail.map Contact.position ∨ e.isDown = true

/-- **A call opens the breaker or leaves it as it was**, and it leaves it for
one of three reasons. -/
theorem opened_or (h : Ending t q s₀ w trail r) :
    Opened s₀ trail r ∨ r.state.breaker = s₀.breaker ∧
      (r.CutOff ∨ s₀.endpoints.alternates = []
        ∨ ∃ c ∈ trail, c.outcome.isConnectivity = false) := by
  cases h with
  | cut reached _ _ _ _ reply =>
    refine .inr ⟨?_, .inl ?_⟩ <;> rw [reply]
    · exact reached.breaker
    · rfl
  | @decided _ _ _ _ v s _ e' _ o reached _ _ _ _ _ final last reply =>
    refine .inr ⟨?_, .inr (.inr ⟨⟨v.position, e'.address, o⟩, ?_, final⟩)⟩
    · rw [reply]
      exact reached.breaker
    · rw [last]
      exact List.mem_append_right _ List.mem_cons_self
  | @exhausted _ s reached reply =>
    by_cases ha : s.selection.endpoints.alternates = []
    · refine .inr ⟨?_, .inr (.inl ?_)⟩
      · rw [reply, exhausted_of_nil ha]
        exact reached.breaker
      · exact (EndpointSet.alternates_eq_nil_iff_of_bare reached.bare).1 ha
    · refine .inl
        { alternates := fun h₀ =>
            ha ((EndpointSet.alternates_eq_nil_iff_of_bare reached.bare).2 h₀)
          failed := reached.failed
          completes := fun cut => ?_
          breaker := ?_
          settled := fun i e found => ?_ }
      · have completes := result_exhausted s
        rw [← reply, show r.result = .error .beyondRange from cut] at completes
        cases completes
      · rw [reply, now_exhausted]
        exact breaker_exhausted ha
      · rw [reply, endpoints_exhausted] at found
        obtain ⟨v, hv, rfl⟩ := exists_visit_of_get?
          (EndpointSet.size_eq_of_bare reached.bare) found
        exact (reached.passes.settled v hv).imp (reached.mem_contacted _).1
          fun down => down e found

end Ending

end Search

end Uplink
