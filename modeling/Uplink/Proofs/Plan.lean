import Uplink.Proofs.Opening

/-!
# Calls that take no time

A call with affinity looks at its endpoints one at a time, and every look may
change what it looks at. If attempts take no time, all looks happen at one
instant, and then the call does what somebody would do who looked at all
endpoints once and wrote a list (`Selection.worklist`): the preferred endpoint,
then the alternate with affinity, then the other alternates in order, each of
them only if it is available. The call works its way down that list to the first
contact that decides.

What carries this is that a refused endpoint would be refused again at the same
instant, so the second visit of the alternate with affinity changes nothing
(`Search.Steady`).
-/

namespace Uplink

/-! ## Picking positions -/

/-- **The positions picked from a list**: those that are available and have not
come up before. -/
def picks (available : Nat → Bool) : List Nat → List Nat → List Nat
  | _, [] => []
  | seen, i :: rest =>
    if i ∉ seen ∧ available i = true then i :: picks available (i :: seen) rest
    else picks available seen rest

section Picks

variable (available : Nat → Bool) {seen : List Nat} {i : Nat}

theorem picks_cons_of_pos (rest : List Nat) (h : i ∉ seen ∧ available i = true) :
    picks available seen (i :: rest) = i :: picks available (i :: seen) rest :=
  if_pos h

theorem picks_cons_of_neg (rest : List Nat) (h : ¬ (i ∉ seen ∧ available i = true)) :
    picks available seen (i :: rest) = picks available seen rest :=
  if_neg h

theorem picks_append (seen xs ys : List Nat) : picks available seen (xs ++ ys)
    = picks available seen xs
      ++ picks available ((picks available seen xs).reverse ++ seen) ys := by
  induction xs generalizing seen with
  | nil => rfl
  | cons i xs ih =>
    rw [List.cons_append]
    by_cases h : i ∉ seen ∧ available i = true
    · rw [picks_cons_of_pos available _ h, picks_cons_of_pos available _ h, ih, List.cons_append,
        List.reverse_cons, List.append_assoc]
      rfl
    · rw [picks_cons_of_neg available _ h, picks_cons_of_neg available _ h, ih]

/-- An available position of the list is picked, unless it came up before. -/
theorem mem_picks {seen xs : List Nat} {i : Nat} (mem : i ∈ xs) (h : available i = true) :
    i ∈ seen ∨ i ∈ picks available seen xs := by
  induction xs generalizing seen with
  | nil => cases mem
  | cons j xs ih =>
    by_cases hj : j ∉ seen ∧ available j = true
    · rw [picks_cons_of_pos available xs hj]
      obtain rfl | mem := List.mem_cons.1 mem
      · exact .inr List.mem_cons_self
      · obtain earlier | picked : i ∈ j :: seen ∨ i ∈ picks available (j :: seen) xs := ih mem
        · obtain rfl | earlier := List.mem_cons.1 earlier
          · exact .inr List.mem_cons_self
          · exact .inl earlier
        · exact .inr (List.mem_cons_of_mem j picked)
    · rw [picks_cons_of_neg available xs hj]
      obtain rfl | mem := List.mem_cons.1 mem
      · refine .inl ?_
        by_cases earlier : i ∈ seen
        · exact earlier
        · exact absurd ⟨earlier, h⟩ hj
      · exact ih mem

/-- From a list without repetitions, picking is filtering. -/
theorem picks_of_nodup {xs : List Nat} (seen : List Nat) (h : xs.Nodup) :
    picks available seen xs = xs.filter fun i => decide (i ∉ seen ∧ available i = true) := by
  induction xs generalizing seen with
  | nil => rfl
  | cons i xs ih =>
    obtain ⟨new, h⟩ := List.nodup_cons.1 h
    rw [List.filter_cons]
    by_cases hi : i ∉ seen ∧ available i = true
    · rw [picks_cons_of_pos available xs hi, if_pos (decide_eq_true hi), ih (i :: seen) h]
      refine congrArg (i :: ·) (List.filter_congr fun j hj => ?_)
      have differ : j ≠ i := fun same => new (same ▸ hj)
      simp only [List.mem_cons, differ, false_or]
    · rw [picks_cons_of_neg available xs hi, ih seen h,
        if_neg (by rw [decide_eq_false hi]; exact Bool.false_ne_true)]

end Picks

/-! ## The plan on paper -/

namespace Selection

/-- Whether the endpoint at a position may be tried at an instant. -/
def availableAt (s : Selection) (now : Instant) (i : Nat) : Bool :=
  (s.endpoints.get? i).any (·.availableAt now)

theorem availableAt_of_get? {s : Selection} {i : Nat} {e : Endpoint}
    (found : s.endpoints.get? i = some e) (now : Instant) :
    s.availableAt now i = e.availableAt now := by
  unfold availableAt
  rw [found]
  rfl

/-- **The worklist**: the preferred endpoint, the alternate with affinity and the
other alternates in order, those of them that are available. -/
def worklist (s : Selection) (now : Instant) : List Nat :=
  (0 :: (s.affinity.toList ++ s.alternatePositions.filter fun i => s.affinity ≠ some i)).filter
    (s.availableAt now)

theorem mem_alternatePositions {s : Selection} {i : Nat} (h : i ∈ s.alternatePositions) :
    1 ≤ i := by
  obtain ⟨j, _, rfl⟩ := List.mem_map.1 h
  exact Nat.le_add_left 1 j

theorem nodup_alternatePositions (s : Selection) : s.alternatePositions.Nodup := by
  unfold alternatePositions
  refine List.pairwise_map.2 (List.nodup_range.imp ?_)
  intro i j differ same
  exact differ (Nat.succ.inj same)

/-- **The worklist is what is picked from the visits.** -/
theorem worklist_eq {s : Selection} (affine : ∀ i, s.affinity = some i → 1 ≤ i) (now : Instant) :
    s.worklist now = picks (s.availableAt now) [] (s.plan.map Visit.position) := by
  have nodup : (0 :: s.affinity.toList).Nodup := by
    refine List.nodup_cons.2 ⟨fun mem => ?_, ?_⟩
    · exact absurd (affine 0 (Option.mem_toList.1 mem)) (Nat.not_succ_le_zero 0)
    · cases s.affinity with
      | none => exact List.nodup_nil
      | some i => exact List.pairwise_singleton _ i
  unfold worklist
  rw [position_plan, ← List.cons_append, ← List.cons_append, picks_append,
    picks_of_nodup _ _ nodup, picks_of_nodup _ _ s.nodup_alternatePositions, List.filter_append,
    List.filter_filter]
  refine congr (congrArg _ (List.filter_congr fun i _ => ?_)) (List.filter_congr fun i hi => ?_)
  · simp only [List.not_mem_nil, not_false_eq_true, true_and, Bool.decide_eq_true]
  · -- an alternate has come up before only if it is the one with affinity
    have positive : i ≠ 0 := Nat.ne_of_gt (mem_alternatePositions hi)
    cases available : s.availableAt now i with
    | false =>
      rw [Bool.false_and, eq_comm, decide_eq_false_iff_not]
      exact fun h => Bool.false_ne_true h.2
    | true =>
      simp only [Bool.true_and, List.append_nil, List.mem_reverse, List.mem_filter,
        List.mem_cons, positive, false_or, Option.mem_toList, List.not_mem_nil,
        not_false_eq_true, available, and_true, decide_true]

/-- The only visit of affinity is to the alternate with affinity. -/
theorem affinity_of_mem_plan {s : Selection} {i : Nat} (h : Visit.affine i ∈ s.plan) :
    s.affinity = some i := by
  obtain h | h := List.mem_append.1 h
  · obtain h | h := List.mem_cons.1 h
    · cases h
    · obtain ⟨j, hj, same⟩ := List.mem_map.1 h
      exact Visit.affine.inj same ▸ Option.mem_toList.1 hj
  · obtain ⟨j, _, same⟩ := List.mem_map.1 h
    cases same

/-- **The alternate with affinity is visited before the scan.** -/
theorem mem_of_split_scan {s : Selection} {pre post : List Visit} {i j : Nat}
    (split : s.plan = pre ++ .scan j :: post) (affine : s.affinity = some i) :
    i ∈ pre.map Visit.position := by
  have early : Visit.affine i ∈ Visit.preferred :: s.affinity.toList.map Visit.affine := by
    rw [affine]
    exact List.mem_cons_of_mem _ List.mem_cons_self
  have visited : Visit.affine i ∈ pre := by
    obtain ⟨rest, rfl, _⟩ | ⟨rest, front, scans⟩ := List.append_eq_append_iff.1 split
    · exact List.mem_append_left rest early
    · cases rest with
      | nil =>
        rw [List.append_nil] at front
        exact front ▸ early
      | cons v rest =>
        obtain ⟨rfl, _⟩ := List.cons.inj scans
        have late : Visit.scan j ∈ Visit.preferred :: s.affinity.toList.map Visit.affine :=
          front ▸ List.mem_append_right pre List.mem_cons_self
        obtain late | late := List.mem_cons.1 late
        · cases late
        · obtain ⟨k, _, same⟩ := List.mem_map.1 late
          cases same
  exact List.mem_map_of_mem visited

end Selection

/-! ## A call at one instant -/

/-- **Attempts take no time.** -/
def Transport.Immediate {σ : Type} (t : Transport σ) : Prop :=
  ∀ q a now wire, (t.attempt q a now wire).1.delay = 0

/-- A transport whose addresses answer at once, and always the same. -/
def Transport.atOnce (answer : IpAddr → Outcome) : Transport Unit where
  attempt _ address _ _ := (⟨answer address, 0⟩, ())

theorem Transport.immediate_atOnce (answer : IpAddr → Outcome) :
    (Transport.atOnce answer).Immediate :=
  fun _ _ _ _ => rfl

namespace Search

variable {σ : Type} {t : Transport σ} {q : Request} {s₀ : Selection} {now : Instant}
  {pre post vs : List Visit} {s s' : Search σ}

theorem now_attempt_of_immediate (immediate : t.Immediate) (i : Nat) (e : Endpoint)
    (random : Random) (s : Search σ) :
    (s.attempt t q i e random).2.world.now = s.world.now := by
  unfold attempt
  rw [world_contact]
  show s.world.now + (t.attempt q e.address s.world.now s.world.wire).1.delay = s.world.now
  rw [immediate, Nat.add_zero]

/-- **A call under way that takes no time**: an endpoint it has not contacted is
as available as when the call started, the positions it has contacted are those
picked from its visits, and the alternate with affinity keeps affinity until it
is contacted. -/
structure Steady (s₀ : Selection) (now : Instant) (pre : List Visit) (s : Search σ) :
    Prop where
  still : s.world.now = now
  unchanged : ∀ i ∉ s.contacted, s.selection.availableAt now i = s₀.availableAt now i
  picked : s.contacted
    = (picks (s₀.availableAt now) [] (pre.map Visit.position)).reverse
  affinity : s.selection.affinity = s₀.affinity.filter fun i => decide (i ∉ s.contacted)

theorem steady_start (s₀ : Selection) (w : World σ) : Steady s₀ w.now [] (start s₀ w) where
  still := rfl
  unchanged := fun _ _ => rfl
  picked := rfl
  affinity := by
    show s₀.affinity = s₀.affinity.filter fun i => decide (i ∉ [])
    cases s₀.affinity <;> rfl

/-- One visit more picks its position if it is new and available. -/
theorem Steady.picks_concat (h : Steady s₀ now pre s) (v : Visit) :
    picks (s₀.availableAt now) [] ((pre ++ [v]).map Visit.position)
      = s.contacted.reverse
        ++ if v.position ∉ s.contacted ∧ s₀.availableAt now v.position = true
          then [v.position] else [] := by
  rw [List.map_append, picks_append, List.append_nil, ← h.picked, ← List.reverse_reverse
    (picks _ _ _), ← h.picked]
  rfl

/-- A visit that contacts nobody picks nothing. -/
theorem Steady.picked_of_same (h : Steady s₀ now pre s) {v : Visit}
    (idle : ¬ (v.position ∉ s.contacted ∧ s₀.availableAt now v.position = true)) :
    s.contacted
      = (picks (s₀.availableAt now) [] ((pre ++ [v]).map Visit.position)).reverse := by
  rw [h.picks_concat v, if_neg idle, List.append_nil, List.reverse_reverse]

/-- Affinity to one position does not notice a contact at another one. -/
theorem filter_not_mem_cons {affinity : Option Nat} {i : Nat} (contacted : List Nat)
    (h : affinity ≠ some i) : (affinity.filter fun j => decide (j ∉ i :: contacted))
      = affinity.filter fun j => decide (j ∉ contacted) := by
  cases affinity with
  | none => rfl
  | some j =>
    have differ : j ≠ i := fun same => h (congrArg some same)
    simp only [Option.filter_some, List.mem_cons, differ, false_or]

/-- **A failed visit takes affinity from the alternate it contacts.** -/
theorem Steady.affinity_failed (affine : ∀ i, s₀.affinity = some i → 1 ≤ i)
    (h : Steady s₀ now pre s) {v : Visit} (split : s₀.plan = pre ++ v :: post)
    (new : v.position ∉ s.contacted) (available : s₀.availableAt now v.position = true) :
    v.failed s.selection.affinity
      = s₀.affinity.filter fun i => decide (i ∉ v.position :: s.contacted) := by
  have planned : v ∈ s₀.plan := split ▸ List.mem_append_right pre List.mem_cons_self
  cases v with
  | preferred =>
    refine h.affinity.trans (filter_not_mem_cons s.contacted fun zero => ?_).symm
    exact absurd (affine 0 zero) (Nat.not_succ_le_zero 0)
  | affine j =>
    rw [Selection.affinity_of_mem_plan planned]
    show none = if decide (j ∉ j :: s.contacted) = true then some j else none
    rw [if_neg]
    exact fun absent => of_decide_eq_true absent List.mem_cons_self
  | scan j =>
    -- on its own visit it was not available, for it would have been contacted
    refine h.affinity.trans (filter_not_mem_cons s.contacted fun same => ?_).symm
    have picked : j ∈ [] ∨ j ∈ picks (s₀.availableAt now) [] (pre.map Visit.position) :=
      mem_picks _ (Selection.mem_of_split_scan split same) available
    obtain none | picked := picked
    · cases none
    · refine new ?_
      rw [h.picked]
      exact List.mem_reverse.2 picked

/-- **One visit keeps a call steady.** -/
theorem Steady.step (immediate : t.Immediate) (affine : ∀ i, s₀.affinity = some i → 1 ≤ i)
    (h : Steady s₀ now pre s) {v : Visit} (split : s₀.plan = pre ++ v :: post)
    (hv : s.visit t q v = .inr s') : Steady s₀ now (pre ++ [v]) s' := by
  cases visited_of_visit hv with
  | passed known =>
    refine { still := h.still, unchanged := h.unchanged, picked := ?_, affinity := h.affinity }
    refine h.picked_of_same fun ⟨new, available⟩ => ?_
    obtain contacted | none := known
    · exact new contacted
    · rw [← h.unchanged _ new, Selection.availableAt, none] at available
      cases available
  | @refused e e' random new found check =>
    rw [h.still] at check
    have before : s.selection.availableAt now v.position = false := by
      rw [Selection.availableAt_of_get? found]
      exact Endpoint.availableAt_of_check check
    refine { still := h.still, unchanged := ?_, picked := ?_, affinity := h.affinity }
    · intro j hj
      rw [← h.unchanged j hj]
      by_cases hjv : j = v.position
      · -- the check has changed this endpoint, but it would be refused again now
        subst hjv
        have refused : (s.checked v.position e' random).selection.endpoints.get? v.position
            = some e' := (get?_checked s random found v.position).trans (if_pos rfl)
        rw [Selection.availableAt_of_get? refused, before]
        exact Endpoint.availableAt_again check
      · unfold Selection.availableAt
        rw [get?_checked s random found j, if_neg hjv]
    · refine h.picked_of_same fun ⟨_, available⟩ => ?_
      rw [← h.unchanged _ new, before] at available
      cases available
  | @failed e e' random f new found check outcome more =>
    rw [h.still] at check
    have available : s₀.availableAt now v.position = true := by
      rw [← h.unchanged _ new, Selection.availableAt_of_get? found]
      exact Endpoint.availableAt_of_check check
    refine { still := ?_, unchanged := ?_, picked := ?_, affinity := ?_ }
    · exact (now_attempt_of_immediate immediate _ e' random s).trans h.still
    · intro j hj
      have hjv : j ≠ v.position := List.ne_of_not_mem_cons hj
      rw [← h.unchanged j (List.not_mem_of_not_mem_cons hj)]
      exact congrArg (Option.any _) (get?_attempt_of_ne s e' random hjv)
    · show v.position :: s.contacted = _
      rw [h.picks_concat v, if_pos ⟨new, available⟩, List.reverse_append, List.reverse_reverse]
      rfl
    · exact h.affinity_failed affine split new available

/-- **A run of visits keeps a call steady.** -/
theorem Steady.run (immediate : t.Immediate) (affine : ∀ i, s₀.affinity = some i → 1 ≤ i)
    (h : Steady s₀ now pre s) (split : s₀.plan = pre ++ (vs ++ post))
    (passes : Passes t q vs s s') : Steady s₀ now (pre ++ vs) s' := by
  induction passes generalizing pre with
  | nil =>
    rw [List.append_nil]
    exact h
  | @cons v vs s s₁ s' first rest ih =>
    have next : Steady s₀ now (pre ++ [v]) s₁ := h.step immediate affine split first
    rw [show pre ++ v :: vs = (pre ++ [v]) ++ vs by rw [List.append_assoc]; rfl]
    refine ih next ?_
    rw [split, List.append_assoc]
    rfl

/-- A call that has made all its visits has contacted its whole worklist. -/
theorem Steady.worklist_of_plan (affine : ∀ i, s₀.affinity = some i → 1 ≤ i)
    (h : Steady s₀ now s₀.plan s) : s₀.worklist now = s.contacted.reverse := by
  rw [Selection.worklist_eq affine, h.picked, List.reverse_reverse]

/-- A new position that is available is next on the worklist. -/
theorem Steady.next_of_split (affine : ∀ i, s₀.affinity = some i → 1 ≤ i)
    (h : Steady s₀ now pre s) {v : Visit} (split : s₀.plan = pre ++ v :: post)
    (new : v.position ∉ s.contacted) (available : s₀.availableAt now v.position = true) :
    s.contacted.reverse ++ [v.position] <+: s₀.worklist now := by
  have picked := h.picks_concat v
  have whole : s₀.plan.map Visit.position
      = (pre ++ [v]).map Visit.position ++ post.map Visit.position := by
    rw [split, ← List.map_append, List.append_assoc]
    rfl
  rw [if_pos ⟨new, available⟩] at picked
  rw [Selection.worklist_eq affine, whole, picks_append, picked]
  exact List.prefix_append _ _

end Search

/-! ## Doing what the plan says -/

/-- The position of a contact that was answered. -/
def Contact.answered? (c : Contact) : Option Nat :=
  match c.outcome with
  | .ok _ => some c.position
  | .error _ => none

namespace Selection

/-- **The alternate with affinity that a plan dictates**: none if the preferred
endpoint has answered, and an alternate that has answered. Without an answer
affinity stays, unless its alternate failed for want of connectivity. -/
def affinityAfter (s : Selection) (trail : List Contact) : Option Nat :=
  match trail.getLast?.bind Contact.answered? with
  | some 0 => none
  | some (i + 1) => some (i + 1)
  | none => s.affinity.filter fun i =>
    decide (∀ c ∈ trail, c.position = i → c.outcome.isConnectivity = false)

/-- **A call that does what the worklist of a snapshot says.** Its contacts go
down the worklist to the first one that decides, or to its end. Affinity is as
the plan dictates, and the breaker opens if the worklist is exhausted and there
are alternates. -/
structure Fulfilled (s : Selection) (now : Instant) (trail : List Contact) (s' : Selection) :
    Prop where
  along : trail.map Contact.position <+: s.worklist now
  undecided : ∀ c ∈ trail.dropLast, c.outcome.isConnectivity = true
  complete : trail.map Contact.position = s.worklist now
    ∨ ∃ c, trail.getLast? = some c ∧ c.outcome.isConnectivity = false
  affinity : s'.affinity = s.affinityAfter trail
  opens : (∀ c ∈ trail, c.outcome.isConnectivity = true) → s.endpoints.alternates ≠ [] →
    ∃ period, s'.breaker = .open now period
  stays : (∃ c ∈ trail, c.outcome.isConnectivity = false) ∨ s.endpoints.alternates = [] →
    s'.breaker = s.breaker

end Selection

namespace Search

variable {σ : Type} {t : Transport σ} {q : Request} {s₀ : Selection} {w : World σ}
  {trail : List Contact} {r : Reply σ Selection}

theorem answered?_of_isConnectivity {c : Contact} (h : c.outcome.isConnectivity = true) :
    c.answered? = none := by
  unfold Contact.answered?
  cases outcome : c.outcome with
  | ok a =>
    rw [outcome] at h
    cases h
  | error f => rfl

/-- **Affinity after failures is what the plan dictates.** -/
theorem Steady.affinityAfter {pre : List Visit} {s : Search σ} {before last : List Contact}
    (h : Steady s₀ w.now pre s) (recorded : Recorded s₀ before s)
    (failed : ∀ c ∈ before, c.outcome.isConnectivity = true)
    (final : ∀ c ∈ last, c.outcome.isConnectivity = false)
    (unanswered : (before ++ last).getLast?.bind Contact.answered? = none) :
    s.selection.affinity = s₀.affinityAfter (before ++ last) := by
  unfold Selection.affinityAfter
  rw [unanswered, h.affinity]
  refine congrArg (Option.filter · s₀.affinity) (funext fun i => decide_eq_decide.2 ?_)
  rw [recorded.mem_contacted]
  constructor
  · intro absent c hc same
    obtain hc | hc := List.mem_append.1 hc
    · exact absurd (same ▸ List.mem_map_of_mem hc) absent
    · exact final c hc
  · intro all mem
    obtain ⟨c, hc, same⟩ := List.mem_map.1 mem
    have := all c (List.mem_append_left last hc) same
    rw [failed c hc] at this
    cases this

/-- An alternate that has answered has affinity. -/
theorem affinityAfter_of_answered {c : Contact} {i : Nat} (here : c.answered? = some i)
    (positive : 1 ≤ i) (before : List Contact) :
    s₀.affinityAfter (before ++ [c]) = some i := by
  unfold Selection.affinityAfter
  rw [List.getLast?_concat, Option.bind_some, here]
  cases i with
  | zero => exact absurd positive (Nat.not_succ_le_zero 0)
  | succ i => rfl

/-- **Affinity after an answer is what the plan dictates.** -/
theorem Steady.answered {pre post : List Visit} {s : Search σ}
    (affine : ∀ i, s₀.affinity = some i → 1 ≤ i) (h : Steady s₀ w.now pre s) {v : Visit}
    (split : s₀.plan = pre ++ v :: post) (new : v.position ∉ s.contacted)
    {c : Contact} (here : c.answered? = some v.position) (before : List Contact) :
    v.answered s.selection.affinity = s₀.affinityAfter (before ++ [c]) := by
  have planned : v ∈ s₀.plan := split ▸ List.mem_append_right pre List.mem_cons_self
  cases v with
  | preferred =>
    unfold Selection.affinityAfter
    rw [List.getLast?_concat, Option.bind_some, here]
    rfl
  | affine j =>
    have same : s₀.affinity = some j := Selection.affinity_of_mem_plan planned
    rw [affinityAfter_of_answered here (affine j same)]
    show s.selection.affinity = some j
    rw [h.affinity, same, Option.filter_some]
    exact if_pos (decide_eq_true new)
  | scan j => exact (affinityAfter_of_answered here (Selection.scan_mem_plan planned).1 before).symm

/-- **A call that takes no time is steady wherever it is.** -/
theorem Reached.steady {pre made : List Visit} {post : List Visit} {s : Search σ}
    (immediate : t.Immediate) (affine : ∀ i, s₀.affinity = some i → 1 ≤ i)
    (h : Reached t q s₀ w pre made trail s) (split : s₀.plan = pre ++ post) :
    Steady s₀ w.now pre s :=
  (steady_start s₀ w).run immediate affine split h.passes

/-- It is over at the instant at which it started. -/
theorem Ending.now_of_immediate (immediate : t.Immediate)
    (affine : ∀ i, s₀.affinity = some i → 1 ≤ i) (h : Ending t q s₀ w trail r) :
    r.world.now = w.now := by
  cases h with
  | cut reached split _ _ _ reply =>
    rw [reply]
    exact (reached.steady immediate affine split).still
  | @decided _ _ _ _ v s _ e' random _ reached split _ _ _ _ _ _ reply =>
    rw [reply]
    exact (now_attempt_of_immediate immediate v.position e' random s).trans
      (reached.steady immediate affine split).still
  | exhausted reached reply =>
    rw [reply, now_exhausted]
    exact (reached.steady immediate affine (List.append_nil s₀.plan).symm).still

/-- **Its contacts go down the worklist**, and affinity is as the plan
dictates, unless the clock cuts the call off. -/
theorem Ending.worksOff (immediate : t.Immediate)
    (affine : ∀ i, s₀.affinity = some i → 1 ≤ i) (h : Ending t q s₀ w trail r)
    (completes : ¬ r.CutOff) :
    trail.map Contact.position <+: s₀.worklist w.now
      ∧ (trail.map Contact.position = s₀.worklist w.now
        ∨ ∃ c, trail.getLast? = some c ∧ c.outcome.isConnectivity = false)
      ∧ r.state.affinity = s₀.affinityAfter trail := by
  cases h with
  | cut _ _ _ _ _ reply => exact absurd (reply ▸ rfl) completes
  | @decided pre post made before v s e e' random o reached split new found check outcome final
      last reply =>
    have steady := reached.steady immediate affine split
    have available : s₀.availableAt w.now v.position = true := by
      rw [← steady.unchanged _ new, Selection.availableAt_of_get? found]
      exact Endpoint.availableAt_of_check (steady.still ▸ check)
    have affinity : r.state.affinity = v.decided s.selection.affinity o := by
      rw [reply]
      rfl
    rw [last]
    refine ⟨?_, .inr ⟨_, List.getLast?_concat, final⟩, affinity.trans ?_⟩
    · rw [List.map_append, reached.position]
      exact steady.next_of_split affine split new available
    · cases o with
      | ok a => exact steady.answered affine split new rfl before
      | error f =>
        refine steady.affinityAfter reached.toRecorded reached.failed (fun c hc => ?_) ?_
        · rw [List.mem_singleton.1 hc]
          exact final
        · rw [List.getLast?_concat]
          rfl
  | @exhausted made s reached reply =>
    have steady := reached.steady immediate affine (List.append_nil s₀.plan).symm
    have positions : trail.map Contact.position = s₀.worklist w.now := by
      rw [steady.worklist_of_plan affine, reached.position]
    refine ⟨positions ▸ List.prefix_refl _, .inl positions, ?_⟩
    rw [reply, affinity_exhausted, ← List.append_nil trail]
    refine steady.affinityAfter reached.toRecorded reached.failed (fun c hc => nomatch hc) ?_
    rw [List.append_nil]
    cases last : trail.getLast? with
    | none => rfl
    | some c => exact answered?_of_isConnectivity (reached.failed c (List.mem_of_getLast? last))

/-- **A call that takes no time does what the plan says**, unless the clock cuts
it off. -/
theorem Ending.fulfilled (immediate : t.Immediate) (affine : ∀ i, s₀.affinity = some i → 1 ≤ i)
    (h : Ending t q s₀ w trail r) (completes : ¬ r.CutOff) :
    s₀.Fulfilled w.now trail r.state := by
  obtain ⟨along, complete, affinity⟩ := h.worksOff immediate affine completes
  refine
    { along := along
      undecided := h.failed_dropLast
      complete := complete
      affinity := affinity
      opens := fun failed several => ?_
      stays := fun reason => ?_ }
  · obtain opened | ⟨_, cut | none | ⟨c, hc, decided⟩⟩ := h.opened_or
    · rw [← h.now_of_immediate immediate affine]
      exact opened.breaker
    · exact absurd cut completes
    · exact absurd none several
    · rw [failed c hc] at decided
      cases decided
  · obtain opened | ⟨same, _⟩ := h.opened_or
    · obtain ⟨c, hc, decided⟩ | none := reason
      · rw [opened.failed c hc] at decided
        cases decided
      · exact absurd none opened.alternates
    · exact same

end Search

namespace Selection

variable {σ : Type} {settings : CommunicationSettings} {t : Transport σ} {s : Selection}
  {w : World σ}

/-- **A call of a sound selection that takes no time does what the plan says**,
or the clock cuts it off. -/
theorem Sound.fulfilled_send (h : s.Sound settings) (immediate : t.Immediate) (q : Request)
    (passes : s.breaker.blocks w.now = false) :
    (s.send t q w).CutOff ∧ ¬ (s.admitted w.now).endpoints.InClock
      ∨ ∃ trail, (s.send t q w).contacts = trail.map Contact.told
        ∧ (∀ c ∈ trail, (s.admitted w.now).endpoints.addresses[c.position]? = some c.address)
        ∧ (s.admitted w.now).Fulfilled w.now trail (s.send t q w).state := by
  have affine : ∀ i, (s.admitted w.now).affinity = some i → 1 ≤ i :=
    fun i hi => ((h.admitted w.now).affine i hi).1
  obtain ⟨trail, ending⟩ := ending_send t q passes
  by_cases cut : (s.send t q w).CutOff
  · exact .inl ⟨cut, not_inClock_of_cutOff t q s w cut⟩
  · exact .inr ⟨trail, ending.contacts, ending.located, ending.fulfilled immediate affine cut⟩

end Selection

/-! ## Every call after every history -/

namespace Manager

variable {σ τ : Type}

/-- **A call that takes no time does what one look at all endpoints would
dictate.** After every history, let a call with affinity find endpoints and not
be stopped by the breaker, and let attempts take no time. Take the selection
that the call is admitted to as the snapshot. The contacts of the call go down
the snapshot's worklist, to the first contact that ends otherwise than in a
failure of connectivity, or to the end of the list. Affinity and the breaker are
afterwards as the plan dictates. The clock can cut the call off, but only if it
cannot show the end of the fail period of an endpoint. -/
theorem follows_worklist (v : Service σ) (ops : List Operation) (w₀ : World σ)
    (u : Service τ) (q : Request) (w : World τ) (immediate : u.transport.Immediate) :
    let m := (Scene.history v ops w₀).manager
    let r := m.send u q w
    ∀ s, (m.resolve u w).1 = .ready s → s.breaker.blocks w.now = false →
      let snapshot := s.admitted w.now
      r.CutOff ∧ ¬ snapshot.endpoints.InClock
        ∨ ∃ trail s', r.state = .ready s' ∧ r.contacts = trail.map Contact.told
          ∧ (∀ c ∈ trail, snapshot.endpoints.addresses[c.position]? = some c.address)
          ∧ snapshot.Fulfilled w.now trail s' := by
  intro m r s hm passes snapshot
  have sound : m.Sound v.settings := Scene.sound_history v ops w₀
  obtain ⟨settings, resolved⟩ := sound.exists_resolve u w
  have now : (m.resolve u w).2.2.now = w.now := now_resolve u m w
  have tells : r.Tells (s.send u.transport q (m.resolve u w).2.2) := tells_sendIn q hm
  have call := (resolved s hm).fulfilled_send immediate q (now.symm ▸ passes)
  rw [now] at call
  obtain ⟨cut, outside⟩ | ⟨trail, contacts, located, fulfilled⟩ := call
  · exact .inl ⟨tells.result.trans cut, outside⟩
  · exact .inr ⟨trail, _, tells.state, tells.contacts.trans contacts, located, fulfilled⟩

/-- After a call that the alternate answered, both endpoints refuse: they are on
the worklist in their order, both are contacted, affinity is gone and the breaker
opens. -/
theorem follows_worklist_rehearsed :
    let v := Service.rehearsed
    let q := Request.rehearsed
    let answered : Script := [(.v4 ⟨10, 0, 0, 2⟩, [⟨.ok, 0⟩])]
    let m := (Scene.history v [.call .affinity q] (.rehearsed answered)).manager
    let u : Service Unit := ⟨v.url, v.settings, v.resolver,
      .atOnce fun a => .error (.connection a.toString "connection refused")⟩
    let w : World Unit := ⟨1000, .cycle [], ()⟩
    ∃ s trail s', m = .ready s ∧ s.affinity = some 1 ∧ s.worklist w.now = [0, 1]
      ∧ (m.send u q w).state = .ready s' ∧ s'.affinity = none
      ∧ (m.send u q w).contacts = trail.map Contact.told
      ∧ (s.admitted w.now).Fulfilled w.now trail s' := by
  intro v q answered m u w
  have hm : (m.resolve u w).1 = .ready _ := rfl
  obtain ⟨cut, _⟩ | ⟨trail, s', state, contacts, _, fulfilled⟩ :=
    follows_worklist v [.call .affinity q] (.rehearsed answered) u q w
      (Transport.immediate_atOnce _) _ hm (by decide +kernel)
  · have completes : (m.send u q w).result.isOk = true := by decide +kernel
    rw [show (m.send u q w).result = .error .beyondRange from cut] at completes
    cases completes
  · refine ⟨_, trail, s', hm, by decide +kernel, by decide +kernel, state, ?_, contacts,
      fulfilled⟩
    obtain rfl := ready.inj state
    decide +kernel

end Manager

end Uplink
