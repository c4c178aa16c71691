import Uplink.Proofs.Contact

/-!
# The course of a call with affinity

A call goes through its visits until one of them ends it, and when none does
the call is exhausted. This module tells the course of a call once, so that
nothing else has to open the visits.

One visit can come to five things (`Search.Visited`). Three of them let the call
go on; `Search.Passes` is a run of such visits, and `Search.Underway` is what
such a run keeps: the search is the state it started from, changed by contacts
that all failed. A run settles every position it visits (`Search.SettledBy`): the
position has been contacted, or its endpoint has what a refusal brings about
when the run is over, for instance it is down (`Search.Settled`). It takes the
last visit of a position to say so, because a visit may find an endpoint down
that comes up again while the call goes on.
-/

namespace Uplink

/-- The alternate with affinity after a visit whose contact decided the call. -/
def Visit.decided (affinity : Option Nat) (v : Visit) : Outcome → Option Nat
  | .ok _ => v.answered affinity
  | .error _ => affinity

/-- The positions of the plan. -/
theorem Selection.position_plan (s : Selection) : s.plan.map Visit.position
    = 0 :: (s.affinity.toList ++ s.alternatePositions) := by
  unfold plan
  rw [List.cons_append, List.map_cons, List.map_append, List.map_map, List.map_map]
  show 0 :: (s.affinity.toList.map id ++ s.alternatePositions.map id) = _
  rw [List.map_id, List.map_id]

namespace Search

variable {σ : Type} {t : Transport σ} {q : Request}

/-! ## One visit -/

/-- The search after a check of the endpoint at a position. -/
def checked (s : Search σ) (i : Nat) (e : Endpoint) (random : Random) : Search σ :=
  { s.withEndpoint i e with world := { s.world with random } }

/-- A contact right after a check. -/
def attempt (t : Transport σ) (q : Request) (i : Nat) (e : Endpoint) (random : Random)
    (s : Search σ) : Outcome × Search σ :=
  (s.checked i e random).contact t q i e

/-- **A visit to an endpoint that may be tried** is an attempt, and its outcome
settles the rest. -/
theorem visit_of_check {v : Visit} {s : Search σ} {e e' : Endpoint} {random : Random}
    (new : v.position ∉ s.contacted)
    (found : s.selection.endpoints.get? v.position = some e)
    (check : e.check s.world.now s.world.random = .ok (true, e', random)) :
    s.visit t q v = (s.attempt t q v.position e' random).2.settle
      (s.attempt t q v.position e' random).1 (v.answered s.selection.affinity)
      (v.failed s.selection.affinity) := by
  unfold visit
  rw [if_neg new, found]
  dsimp only
  rw [check]
  rfl

/-- A visit whose check fails ends the call. -/
theorem visit_of_beyond {v : Visit} {s : Search σ} {e : Endpoint} {o : ClockOverflow}
    (new : v.position ∉ s.contacted)
    (found : s.selection.endpoints.get? v.position = some e)
    (check : e.check s.world.now s.world.random = .error o) :
    s.visit t q v = .inl (s.finish (.error o)) := by
  unfold visit
  rw [if_neg new, found]
  dsimp only
  rw [check]

/-- **What a visit can come to.** -/
inductive Visited (t : Transport σ) (q : Request) (v : Visit) (s : Search σ) :
    Reply σ Selection ⊕ Search σ → Prop
  /-- The call has been there, or there is no endpoint. -/
  | passed (known : v.position ∈ s.contacted
      ∨ s.selection.endpoints.get? v.position = none) :
      Visited t q v s (.inr s)
  /-- The check needs an instant beyond the clock. -/
  | cut {e : Endpoint} (new : v.position ∉ s.contacted)
      (found : s.selection.endpoints.get? v.position = some e) (outside : ¬ e.InClock) :
      Visited t q v s (.inl (s.finish (.error .beyondRange)))
  /-- The endpoint may not be tried. -/
  | refused {e e' : Endpoint} {random : Random} (new : v.position ∉ s.contacted)
      (found : s.selection.endpoints.get? v.position = some e)
      (check : e.check s.world.now s.world.random = .ok (false, e', random)) :
      Visited t q v s (.inr (s.checked v.position e' random))
  /-- The contact decides the call. -/
  | decided {e e' : Endpoint} {random : Random} {o : Outcome}
      (new : v.position ∉ s.contacted)
      (found : s.selection.endpoints.get? v.position = some e)
      (check : e.check s.world.now s.world.random = .ok (true, e', random))
      (outcome : (s.attempt t q v.position e' random).1 = o)
      (final : o.isConnectivity = false) :
      Visited t q v s (.inl (((s.attempt t q v.position e' random).2.withAffinity
        (v.decided s.selection.affinity o)).finish (.ok o)))
  /-- The contact fails, and another endpoint may answer. -/
  | failed {e e' : Endpoint} {random : Random} {f : Failure}
      (new : v.position ∉ s.contacted)
      (found : s.selection.endpoints.get? v.position = some e)
      (check : e.check s.world.now s.world.random = .ok (true, e', random))
      (outcome : (s.attempt t q v.position e' random).1 = .error f)
      (more : f.isConnectivity = true) :
      Visited t q v s (.inr
        { (s.attempt t q v.position e' random).2.withAffinity
            (v.failed s.selection.affinity) with failure := some f })

/-- **A visit comes to one of these.** -/
theorem visited_visit (t : Transport σ) (q : Request) (v : Visit) (s : Search σ) :
    Visited t q v s (s.visit t q v) := by
  by_cases new : v.position ∈ s.contacted
  · have passed : s.visit t q v = .inr s := if_pos new
    rw [passed]
    exact .passed (.inl new)
  cases found : s.selection.endpoints.get? v.position with
  | none =>
    have passed : s.visit t q v = .inr s := by
      unfold visit
      rw [if_neg new, found]
    rw [passed]
    exact .passed (.inr found)
  | some e =>
    cases check : e.check s.world.now s.world.random with
    | error o =>
      rw [visit_of_beyond new found check]
      cases o
      exact .cut new found (Endpoint.not_inClock_of_check check)
    | ok verdict =>
      obtain ⟨yes, e', random⟩ := verdict
      cases yes with
      | false =>
        have refused : s.visit t q v = .inr (s.checked v.position e' random) := by
          unfold visit
          rw [if_neg new, found]
          dsimp only
          rw [check]
          rfl
        rw [refused]
        exact .refused new found check
      | true =>
        rw [visit_of_check new found check]
        cases outcome : (s.attempt t q v.position e' random).1 with
        | ok a => exact .decided new found check outcome rfl
        | error f =>
          cases more : f.isConnectivity with
          | true =>
            rw [settle, if_pos more]
            exact .failed new found check outcome more
          | false =>
            rw [settle, if_neg (by rw [more]; exact Bool.false_ne_true)]
            exact .decided new found check outcome more

theorem visited_of_visit {v : Visit} {s : Search σ} {r : Reply σ Selection ⊕ Search σ}
    (h : s.visit t q v = r) : Visited t q v s r :=
  h ▸ visited_visit t q v s

/-- **Every endpoint is visited**: a call plans a visit to every position. -/
theorem exists_visit_of_get? {s₀ : Selection} {set : EndpointSet} {i : Nat} {e : Endpoint}
    (same : set.size = s₀.endpoints.size) (found : set.get? i = some e) :
    ∃ v ∈ s₀.plan, v.position = i := by
  cases i with
  | zero => exact ⟨.preferred, List.mem_cons_self, rfl⟩
  | succ i =>
    refine ⟨.scan (i + 1), List.mem_append_right _ (List.mem_map_of_mem ?_), rfl⟩
    refine List.mem_map.2 ⟨i, List.mem_range.2 ?_, rfl⟩
    have hi : i < set.alternates.length := (List.getElem?_eq_some_iff.1 found).1
    have : set.alternates.length = s₀.endpoints.alternates.length := Nat.add_right_cancel same
    omega

/-! ## Runs of visits -/

/-- **Visits that let the call go on**, one after the other. -/
inductive Passes (t : Transport σ) (q : Request) : List Visit → Search σ → Search σ → Prop
  | nil (s : Search σ) : Passes t q [] s s
  | cons {v : Visit} {vs : List Visit} {s s' s'' : Search σ}
      (step : s.visit t q v = .inr s') (rest : Passes t q vs s' s'') :
      Passes t q (v :: vs) s s''

/-- **How visits end**: all of them let the call go on, or the last one that is
made ends it. -/
inductive Course (t : Transport σ) (q : Request) (vs : List Visit) (s : Search σ)
    (r : Reply σ Selection) : Prop
  | exhausted {s' : Search σ} (passes : Passes t q vs s s') (reply : r = s'.exhausted)
  | ended {pre post : List Visit} {v : Visit} {s' : Search σ}
      (split : vs = pre ++ v :: post) (passes : Passes t q pre s s')
      (last : s'.visit t q v = .inl r)

/-- **Visits end in one of these ways.** -/
theorem course_visits (t : Transport σ) (q : Request) (vs : List Visit) (s : Search σ) :
    Course t q vs s (s.visits t q vs) := by
  induction vs generalizing s with
  | nil => exact .exhausted (.nil s) rfl
  | cons v vs ih =>
    unfold visits
    cases step : s.visit t q v with
    | inl r => exact .ended (List.nil_append (v :: vs)).symm (.nil s) step
    | inr s' =>
      show Course t q (v :: vs) s (s'.visits t q vs)
      cases ih s' with
      | exhausted passes reply => exact .exhausted (.cons step passes) reply
      | ended split passes last =>
        exact .ended (congrArg (v :: ·) split) (.cons step passes) last

/-- Whatever every visit keeps that lets the call go on, a run of them
keeps. -/
theorem Passes.keeps {P : Search σ → Prop}
    (step : ∀ v s s', s.visit t q v = .inr s' → P s → P s') {vs : List Visit}
    {s s' : Search σ} (h : Passes t q vs s s') (hs : P s) : P s' := by
  induction h with
  | nil => exact hs
  | cons first _ ih => exact ih (step _ _ _ first hs)

/-! ## What a run of visits keeps -/

/-- **A call under way**, told from the state it found: its contacts, made on
the visits `made`, all failed, no position was contacted twice, and an endpoint
it has not contacted is the one it found or was refused and is down. -/
structure Underway (s₀ : Selection) (made : List Visit) (trail : List Contact)
    (s : Search σ) : Prop extends Recorded s₀ trail s where
  positions : trail.map Contact.position = made.map Visit.position
  nodup : (trail.map Contact.position).Nodup
  affinity : s.selection.affinity = made.foldl Visit.failed s₀.affinity
  failed : ∀ c ∈ trail, c.outcome.isConnectivity = true
  failure : .error s.lastFailure = verdict trail
  untouched : ∀ i ∉ s.contacted, ∀ e, s.selection.endpoints.get? i = some e →
    s₀.endpoints.get? i = some e ∨ e.isDown = true

variable {s₀ : Selection} {made : List Visit} {trail : List Contact} {s s' : Search σ}

theorem underway_start (s₀ : Selection) (w : World σ) : Underway s₀ [] [] (start s₀ w) where
  toRecorded := recorded_start s₀ w
  positions := rfl
  nodup := List.nodup_nil
  affinity := rfl
  failed := fun _ hc => absurd hc List.not_mem_nil
  failure := rfl
  untouched := fun _ _ _ found => .inl found

theorem Recorded.checked (h : Recorded s₀ trail s) {i : Nat} {e e' : Endpoint}
    {random : Random} (found : s.selection.endpoints.get? i = some e)
    (same : e'.bare = e.bare) : Recorded s₀ trail (s.checked i e' random) where
  bare := (EndpointSet.bare_set found same).trans h.bare
  breaker := h.breaker
  contacted := h.contacted
  told := h.told
  located := h.located

theorem get?_checked (s : Search σ) {i : Nat} {e e' : Endpoint} (random : Random)
    (found : s.selection.endpoints.get? i = some e) (j : Nat) :
    (s.checked i e' random).selection.endpoints.get? j
      = if j = i then some e' else s.selection.endpoints.get? j := by
  show (s.selection.endpoints.set i e').get? j = _
  rw [EndpointSet.get?_set, found]
  rfl

/-- **An attempt is recorded.** -/
theorem Recorded.attempt (h : Recorded s₀ trail s) {i : Nat} {e e' : Endpoint}
    {random : Random} (found : s.selection.endpoints.get? i = some e)
    (check : e.check s.world.now s.world.random = .ok (true, e', random)) :
    Recorded s₀ (trail ++ [⟨i, e'.address, (s.attempt t q i e' random).1⟩])
      (s.attempt t q i e' random).2 :=
  (h.checked found (Endpoint.bare_check check)).contact
    ((get?_checked s random found i).trans (if_pos rfl))

/-- An attempt changes no endpoint but the one it is made with. -/
theorem get?_attempt_of_ne (s : Search σ) {i j : Nat} (e : Endpoint) (random : Random)
    (h : j ≠ i) : (s.attempt t q i e random).2.selection.endpoints.get? j
      = s.selection.endpoints.get? j := by
  unfold Search.attempt
  rw [get?_contact_of_ne t q i e _ h]
  show (s.selection.endpoints.set i e).get? j = _
  rw [EndpointSet.get?_set, if_neg h]

/-- The contacts are recorded in their order, by position. -/
theorem Recorded.position (h : Recorded s₀ trail s) :
    trail.map Contact.position = s.contacted.reverse := by
  rw [h.contacted, List.reverse_reverse]

/-- The positions contacted are those of the trail. -/
theorem Recorded.mem_contacted (h : Recorded s₀ trail s) (i : Nat) :
    i ∈ s.contacted ↔ i ∈ trail.map Contact.position := by
  rw [h.contacted, List.mem_reverse]

/-- **One visit keeps a call under way**, with one contact more or none. -/
theorem Underway.step (h : Underway s₀ made trail s) {v : Visit}
    (hv : s.visit t q v = .inr s') :
    ∃ more trail', (more = [] ∨ more = [v]) ∧ Underway s₀ (made ++ more) trail' s' := by
  cases visited_of_visit hv with
  | passed => exact ⟨[], trail, .inl rfl, by rw [List.append_nil]; exact h⟩
  | @refused e e' random new found check =>
    refine ⟨[], trail, .inl rfl, ?_⟩
    rw [List.append_nil]
    exact
      { toRecorded := h.toRecorded.checked found (Endpoint.bare_check check)
        positions := h.positions
        nodup := h.nodup
        affinity := h.affinity
        failed := h.failed
        failure := h.failure
        untouched := by
          intro j hj d hd
          rw [get?_checked s random found j] at hd
          by_cases hji : j = v.position
          · rw [if_pos hji] at hd
            exact .inr (Option.some.inj hd ▸ Endpoint.isDown_of_check check)
          · rw [if_neg hji] at hd
            exact h.untouched j hj d hd }
  | @failed e e' random f new found check outcome more =>
    refine ⟨[v], trail ++ [⟨v.position, e'.address, .error f⟩], .inr rfl, ?_⟩
    have now := h.toRecorded.attempt (t := t) (q := q) found check
    rw [outcome] at now
    exact
      { bare := now.bare
        breaker := now.breaker
        contacted := now.contacted
        told := now.told
        located := now.located
        positions := by
          rw [List.map_append, List.map_append, h.positions]
          rfl
        nodup := by
          rw [List.map_append]
          refine List.nodup_append.2 ⟨h.nodup, List.pairwise_singleton _ _, ?_⟩
          rintro i hi j hj rfl
          refine new ((h.mem_contacted _).2 ?_)
          rw [List.mem_singleton.1 hj] at hi
          exact hi
        affinity := by
          rw [List.foldl_append, ← h.affinity]
          rfl
        failed := by
          intro c hc
          obtain hc | hc := List.mem_append.1 hc
          · exact h.failed c hc
          · rw [List.mem_singleton.1 hc]
            exact more
        failure := (verdict_concat trail ⟨v.position, e'.address, .error f⟩).symm
        untouched := by
          intro j hj d hd
          have hne : j ≠ v.position := List.ne_of_not_mem_cons hj
          exact h.untouched j (List.not_mem_of_not_mem_cons hj) d
            ((get?_attempt_of_ne s e' random hne).symm.trans hd) }

/-- **A run of visits keeps a call under way**, with contacts on some of the
visits. -/
theorem Underway.run (h : Underway s₀ made trail s) {vs : List Visit}
    (hp : Passes t q vs s s') :
    ∃ more trail', more.Sublist vs ∧ Underway s₀ (made ++ more) trail' s' := by
  induction hp generalizing made trail with
  | nil => exact ⟨[], trail, List.Sublist.slnil, by rw [List.append_nil]; exact h⟩
  | cons first _ ih =>
    obtain ⟨one, trail₁, hone, h₁⟩ := h.step first
    obtain ⟨rest, trail₂, hrest, h₂⟩ := ih h₁
    refine ⟨one ++ rest, trail₂, ?_, by rw [← List.append_assoc]; exact h₂⟩
    obtain rfl | rfl := hone
    · exact hrest.cons _
    · exact hrest.cons_cons _

/-! ## Time -/

/-- An attempt takes its time. -/
theorem now_le_attempt (i : Nat) (e : Endpoint) (random : Random) (s : Search σ) :
    s.world.now ≤ (s.attempt t q i e random).2.world.now := by
  unfold attempt
  rw [world_contact]
  exact Transport.now_le_run t q e.address (s.checked i e random).world

/-- The clock does not go back during a visit. -/
theorem now_le_visit {v : Visit} (hv : s.visit t q v = .inr s') :
    s.world.now ≤ s'.world.now := by
  cases visited_of_visit hv with
  | passed => exact Nat.le_refl _
  | refused => exact Nat.le_refl _
  | @failed e e' random f new found check outcome more =>
    exact now_le_attempt v.position e' random s

theorem Passes.now_le {vs : List Visit} (h : Passes t q vs s s') :
    s.world.now ≤ s'.world.now := by
  induction h with
  | nil => exact Nat.le_refl _
  | cons first _ ih => exact Nat.le_trans (now_le_visit first) ih

/-! ## Settled positions -/

/-- **A property that a refusal brings about** from an instant on, and that time
does not take away. -/
structure Refusing (start : Instant) (P : Instant → Endpoint → Prop) : Prop where
  refused : ∀ {e e' : Endpoint} {now : Instant} {r r' : Random}, start ≤ now →
    e.check now r = .ok (false, e', r') → P now e'
  later : ∀ {e : Endpoint} {now now' : Instant}, now ≤ now' → P now e → P now' e

/-- **A position is settled** for a property: the call has contacted it, or its
endpoint has the property. -/
def SettledBy (P : Instant → Endpoint → Prop) (i : Nat) (s : Search σ) : Prop :=
  i ∈ s.contacted ∨ ∀ e, s.selection.endpoints.get? i = some e → P s.world.now e

section Settled

variable {start : Instant} {P : Instant → Endpoint → Prop} {i : Nat}

/-- A visit that lets the call go on leaves no position less settled. -/
theorem SettledBy.step (hP : Refusing start P) (now : start ≤ s.world.now)
    (h : SettledBy P i s) {v : Visit} (hv : s.visit t q v = .inr s') : SettledBy P i s' := by
  cases visited_of_visit hv with
  | passed => exact h
  | @refused e e' random new found check =>
    refine h.imp id fun settled d hd => ?_
    rw [get?_checked s random found i] at hd
    by_cases hi : i = v.position
    · rw [if_pos hi] at hd
      exact Option.some.inj hd ▸ hP.refused now check
    · rw [if_neg hi] at hd
      exact settled d hd
  | @failed e e' random f new found check outcome more =>
    by_cases hi : i = v.position
    · exact .inl (hi ▸ List.mem_cons_self)
    · exact h.imp (List.mem_cons_of_mem _) fun settled d hd =>
        hP.later (now_le_attempt v.position e' random s)
          (settled d ((get?_attempt_of_ne s e' random hi).symm.trans hd))

/-- **The position of a visit that lets the call go on is settled.** -/
theorem settledBy_visit (hP : Refusing start P) (now : start ≤ s.world.now) {v : Visit}
    (hv : s.visit t q v = .inr s') : SettledBy P v.position s' := by
  cases visited_of_visit hv with
  | passed known =>
    refine known.imp id fun none d hd => ?_
    rw [none] at hd
    cases hd
  | @refused e e' random new found check =>
    refine .inr fun d hd => ?_
    rw [get?_checked s random found, if_pos rfl] at hd
    exact Option.some.inj hd ▸ hP.refused now check
  | failed => exact .inl List.mem_cons_self

/-- **A run of visits settles all their positions.** -/
theorem Passes.settledBy (hP : Refusing start P) {vs : List Visit} (h : Passes t q vs s s')
    (now : start ≤ s.world.now) : ∀ v ∈ vs, SettledBy P v.position s' := by
  induction h with
  | nil => exact fun v hv => absurd hv List.not_mem_nil
  | @cons v vs s s₁ s' first rest ih =>
    have now₁ : start ≤ s₁.world.now := Nat.le_trans now (now_le_visit first)
    intro v' hv
    obtain rfl | hv := List.mem_cons.1 hv
    · -- this may be the last visit of the position, so what it settles is kept
      refine (rest.keeps (P := fun s => start ≤ s.world.now ∧ SettledBy P v'.position s)
        (fun _ _ _ hv h => ?_) ⟨now₁, settledBy_visit hP now first⟩).2
      exact ⟨Nat.le_trans h.1 (now_le_visit hv), h.2.step hP h.1 hv⟩
    · exact ih now₁ v' hv

/-- **A position is settled**: the call has contacted it, or its endpoint is
down. -/
def Settled (i : Nat) (s : Search σ) : Prop :=
  i ∈ s.contacted ∨ ∀ e, s.selection.endpoints.get? i = some e → e.isDown = true

/-- **A run of visits leaves nobody up whom it has not contacted.** -/
theorem Passes.settled {vs : List Visit} (h : Passes t q vs s s') :
    ∀ v ∈ vs, Settled v.position s' :=
  h.settledBy (P := fun _ e => e.isDown = true)
    ⟨fun _ => Endpoint.isDown_of_check, fun _ down => down⟩ (Nat.zero_le _)

end Settled

/-! ## Properties of all endpoints -/

section Lasting

variable {start : Instant} {P : Endpoint → Prop}

/-- A check keeps what lasts. -/
theorem lasting_checked (hP : Endpoint.Lasting start P) (now : start ≤ s.world.now)
    (all : ∀ d ∈ s.selection.endpoints.toList, P d) {i : Nat} {e e' : Endpoint}
    {random : Random} {yes : Bool} (found : s.selection.endpoints.get? i = some e)
    (check : e.check s.world.now s.world.random = .ok (yes, e', random)) :
    ∀ d ∈ (s.checked i e' random).selection.endpoints.toList, P d := by
  intro d hd
  obtain hd | rfl := EndpointSet.mem_toList_set hd
  · exact all d hd
  · exact hP.check now (all e (EndpointSet.mem_toList_of_get? found)) check

/-- An attempt keeps what lasts. -/
theorem lasting_attempt (hP : Endpoint.Lasting start P) (now : start ≤ s.world.now)
    (all : ∀ d ∈ s.selection.endpoints.toList, P d) {i : Nat} {e e' : Endpoint}
    {random : Random} (found : s.selection.endpoints.get? i = some e)
    (check : e.check s.world.now s.world.random = .ok (true, e', random)) :
    ∀ d ∈ (s.attempt t q i e' random).2.selection.endpoints.toList, P d := by
  have all' := lasting_checked hP now all found check
  intro d hd
  obtain hd | rfl := EndpointSet.mem_toList_set hd
  · exact all' d hd
  · refine hP.send t q now (all' e' (EndpointSet.mem_toList_of_get? (i := i) ?_))
    rw [get?_checked s random found, if_pos rfl]

/-- **A run of visits keeps what lasts**, of all endpoints. -/
theorem Passes.lasting (hP : Endpoint.Lasting start P) {vs : List Visit}
    (h : Passes t q vs s s') (now : start ≤ s.world.now)
    (all : ∀ d ∈ s.selection.endpoints.toList, P d) :
    ∀ d ∈ s'.selection.endpoints.toList, P d := by
  induction h with
  | nil => exact all
  | cons step _ ih =>
    refine ih (Nat.le_trans now (now_le_visit step)) ?_
    cases visited_of_visit step with
    | passed => exact all
    | refused new found check => exact lasting_checked hP now all found check
    | failed new found check => exact lasting_attempt hP now all found check

end Lasting

/-! ## The first contact -/

end Search

end Uplink
