import Uplink.Proofs.Plan

/-!
# Affinity

A call leaves affinity to the alternate that answered it, and to nobody if the
preferred endpoint did. A call without an answer leaves affinity where it was,
or takes it away, and it takes it away when the alternate with affinity fails on
its own visit.

The visit matters. An alternate that is down on its own visit is passed over,
and the scan comes to it again. If other alternates were contacted in between,
time may have passed, the alternate may be up again, and its failure there is a
failure of the scan, which costs nobody affinity. So an alternate that fails
keeps affinity in exactly one case (`Search.Ending.affinity_of_failed`): it had
affinity, another alternate was contacted before it in the same call, and the
call was not answered. If attempts take no time this cannot happen.
-/

namespace Uplink

/-! ## Answers -/

namespace Reply

variable {σ ρ : Type}

/-- **The call was answered.** -/
def Answered (r : Reply σ ρ) : Prop :=
  ∃ a, r.result = .ok (.ok a)

/-- A call that ends in a failure was not answered. -/
theorem not_answered_of_result {r : Reply σ ρ} {f : Failure} (h : r.result = .ok (.error f)) :
    ¬ r.Answered := by
  rintro ⟨a, ha⟩
  cases h.symm.trans ha

/-- **The call was answered by an address**, that of its last contact. -/
def AnsweredBy (r : Reply σ ρ) (address : IpAddr) : Prop :=
  ∃ a, r.result = .ok (.ok a) ∧ r.contacts.getLast? = some (address, .ok a)

theorem AnsweredBy.answered {r : Reply σ ρ} {address : IpAddr} (h : r.AnsweredBy address) :
    r.Answered :=
  let ⟨a, result, _⟩ := h
  ⟨a, result⟩

variable {r : Reply σ Manager} {r' : Reply σ Selection}

/-- A reply that tells what another tells was answered if that was. -/
theorem Tells.answered_iff (h : r.Tells r') : r.Answered ↔ r'.Answered := by
  unfold Answered
  rw [h.result]

/-- So it was by the same address. -/
theorem Tells.answeredBy_iff (h : r.Tells r') {a : IpAddr} : r.AnsweredBy a ↔ r'.AnsweredBy a := by
  unfold AnsweredBy
  rw [h.result, h.contacts]

end Reply

namespace Manager

/-- A manager's alternate with affinity, none while there are no endpoints. -/
def affinity : Manager → Option Nat
  | ready s => s.affinity
  | _ => none

/-- A manager's addresses in order of position, none while there are no
endpoints. -/
def addresses : Manager → List IpAddr
  | ready s => s.endpoints.addresses
  | _ => []

end Manager

/-! ## Visits that fail -/

/-- Only the visit of affinity costs it. -/
theorem Visit.foldl_failed_of_forall {made : List Visit} (affinity : Option Nat)
    (h : ∀ i, Visit.affine i ∉ made) : made.foldl failed affinity = affinity := by
  induction made with
  | nil => rfl
  | cons v made ih =>
    have rest := ih fun i hi => h i (List.mem_cons_of_mem v hi)
    cases v with
    | preferred => exact rest
    | scan i => exact rest
    | affine i => exact absurd List.mem_cons_self (h i)

/-- The visit of affinity costs it for the rest of the call. -/
theorem Visit.foldl_failed_of_mem {made : List Visit} {i : Nat} (affinity : Option Nat)
    (h : Visit.affine i ∈ made) : made.foldl failed affinity = none := by
  induction made generalizing affinity with
  | nil => cases h
  | cons v made ih =>
    obtain rfl | h := List.mem_cons.1 h
    · exact (Search.Ending.foldl_failed made none).elim id id
    · exact ih (v.failed affinity) h

/-- **Only the preferred endpoint is visited before the alternate with
affinity.** -/
theorem Selection.eq_of_split_affine {s : Selection} {pre post : List Visit} {i : Nat}
    (split : s.plan = pre ++ .affine i :: post) : pre = [.preferred] := by
  have scans : Visit.affine i ∉ s.alternatePositions.map Visit.scan := by
    intro mem
    obtain ⟨j, _, same⟩ := List.mem_map.1 mem
    cases same
  obtain ⟨rest, _, late⟩ | ⟨rest, early, late⟩ := List.append_eq_append_iff.1 split
  · exact absurd (late ▸ List.mem_append_right rest List.mem_cons_self) scans
  cases rest with
  | nil =>
    have late : .affine i :: post = s.alternatePositions.map Visit.scan := late
    exact absurd (late ▸ List.mem_cons_self) scans
  | cons v rest =>
    obtain ⟨rfl, _⟩ := List.cons.inj late
    -- one alternate at most has affinity, so its visit is the second one
    cases pre with
    | nil => cases early
    | cons v pre =>
      obtain ⟨rfl, second⟩ := List.cons.inj early
      cases pre with
      | nil => rfl
      | cons v pre =>
        cases hs : s.affinity with
        | none =>
          rw [hs] at second
          cases second
        | some j =>
          rw [hs] at second
          exact absurd (List.cons.inj second).2.symm (List.append_ne_nil_of_right_ne_nil _ nofun)

namespace Search

variable {σ : Type} {t : Transport σ} {q : Request} {s₀ : Selection} {w : World σ}
  {trail : List Contact} {r : Reply σ Selection} {i j : Nat} {s s' : Search σ}

/-! ## The two visits of the alternate with affinity -/

/-- **The alternate with affinity was contacted on its own visit**: affinity is
gone, and nobody but the preferred endpoint was contacted before it. -/
structure Spent (i : Nat) (s : Search σ) : Prop where
  contacted : i ∈ s.contacted
  affinity : s.selection.affinity = none
  early : ∀ later earlier, s.contacted = later ++ i :: earlier → ∀ j ∈ earlier, j = 0

/-- **The alternate with affinity was passed over on its own visit**: it keeps
affinity, and it may be tried only after another alternate was contacted. -/
structure PassedOver (i : Nat) (s : Search σ) : Prop where
  affinity : s.selection.affinity = some i
  refused : (∃ j ∈ s.contacted, j ≠ 0) ∨ s.selection.availableAt s.world.now i = false
  late : ∀ later earlier, s.contacted = later ++ i :: earlier → ∃ j ∈ earlier, j ≠ 0

/-- The scan gives no affinity back. -/
theorem Spent.step (h : Spent i s) (hv : s.visit t q (.scan j) = .inr s') : Spent i s' := by
  cases visited_of_visit hv with
  | passed => exact h
  | refused => exact ⟨h.contacted, h.affinity, h.early⟩
  | failed new =>
    refine ⟨List.mem_cons_of_mem j h.contacted, h.affinity, fun later earlier split => ?_⟩
    cases later with
    | nil => exact absurd ((List.cons.inj split).1 ▸ h.contacted) new
    | cons k later => exact h.early later earlier (List.cons.inj split).2

/-- An endpoint that was refused would be refused again. -/
theorem availableAt_checked {e e' : Endpoint} {random : Random}
    (found : s.selection.endpoints.get? j = some e)
    (check : e.check s.world.now s.world.random = .ok (false, e', random)) :
    (s.checked j e' random).selection.availableAt s.world.now j = false := by
  rw [Selection.availableAt_of_get? ((get?_checked s random found j).trans (if_pos rfl))]
  exact Endpoint.availableAt_again check

/-- **The scan comes to an alternate that was passed over.** Its failure there
is one of the scan, and it was contacted after another alternate. -/
theorem PassedOver.step (h : PassedOver i s) (positive : j ≠ 0)
    (hv : s.visit t q (.scan j) = .inr s') : PassedOver i s' := by
  cases visited_of_visit hv with
  | passed => exact h
  | @refused e e' random new found check =>
    refine ⟨h.affinity, h.refused.imp id fun refused => ?_, h.late⟩
    by_cases same : i = j
    · subst same
      exact availableAt_checked found check
    · show Option.any _ _ = false
      rw [get?_checked s random found i]
      show Option.any _ (if i = j then _ else _) = false
      rw [if_neg same]
      exact refused
  | @failed e e' random f new found check outcome more =>
    refine ⟨h.affinity, .inl ⟨j, List.mem_cons_self, positive⟩, fun later earlier split => ?_⟩
    cases later with
    | cons k later => exact h.late later earlier (List.cons.inj split).2
    | nil =>
      obtain ⟨rfl, rfl⟩ := List.cons.inj split
      refine h.refused.elim id fun refused => ?_
      have available := Endpoint.availableAt_of_check check
      rw [← Selection.availableAt_of_get? found] at available
      exact absurd (available.symm.trans refused) nofun

/-- The visit of the preferred endpoint takes no affinity away. -/
theorem preferred_visit (hv : (start s₀ w).visit t q .preferred = .inr s) :
    s.selection.affinity = s₀.affinity ∧ ∀ j ∈ s.contacted, j = 0 := by
  cases visited_of_visit hv with
  | passed => exact ⟨rfl, nofun⟩
  | refused => exact ⟨rfl, nofun⟩
  | failed => exact ⟨rfl, fun j hj => List.mem_singleton.1 hj⟩

/-- **On its own visit the alternate with affinity is contacted or passed
over.** -/
theorem affine_visit (affine : s.selection.affinity = some i) (positive : i ≠ 0)
    (early : ∀ j ∈ s.contacted, j = 0) (hv : s.visit t q (.affine i) = .inr s') :
    Spent i s' ∨ PassedOver i s' := by
  have absent : i ∉ s.contacted := fun mem => positive (early i mem)
  have late : ∀ later earlier, s.contacted = later ++ i :: earlier → ∃ j ∈ earlier, j ≠ 0 := by
    intro later earlier split
    exact absurd (split ▸ List.mem_append_right later List.mem_cons_self) absent
  cases visited_of_visit hv with
  | passed known =>
    refine .inr ⟨affine, .inr ?_, late⟩
    unfold Selection.availableAt
    rw [show s.selection.endpoints.get? i = none from known.resolve_left absent]
    rfl
  | refused new found check => exact .inr ⟨affine, .inr (availableAt_checked found check), late⟩
  | failed =>
    refine .inl ⟨List.mem_cons_self, rfl, fun later earlier split => ?_⟩
    cases later with
    | nil => exact (List.cons.inj split).2 ▸ early
    | cons k later =>
      have mem : i ∈ s.contacted :=
        (List.cons.inj split).2 ▸ List.mem_append_right later List.mem_cons_self
      exact absurd mem absent

/-- The scan leaves it at that. -/
theorem Passes.spent_or_passedOver {vs : List Visit} (passes : Passes t q vs s s')
    (scans : ∀ v ∈ vs, ∃ j, v = .scan j ∧ j ≠ 0) (h : Spent i s ∨ PassedOver i s) :
    Spent i s' ∨ PassedOver i s' := by
  induction passes with
  | nil => exact h
  | @cons v vs s s₁ s' first rest ih =>
    obtain ⟨j, rfl, positive⟩ := scans v List.mem_cons_self
    refine ih (fun v hv => scans v (List.mem_cons_of_mem _ hv)) ?_
    exact h.imp (fun h => h.step first) fun h => h.step positive first

/-- **An alternate with affinity that was contacted was contacted on its own
visit, or later, after another alternate.** -/
theorem Passes.of_mem_contacted {pre post : List Visit} (passes : Passes t q pre (start s₀ w) s)
    (split : s₀.plan = pre ++ post) (affine : s₀.affinity = some i) (positive : i ≠ 0)
    (mem : i ∈ s.contacted) : Spent i s ∨ PassedOver i s := by
  have plan : s₀.plan = .preferred :: .affine i :: s₀.alternatePositions.map .scan := by
    unfold Selection.plan
    rw [affine]
    rfl
  rw [plan] at split
  cases passes with
  | nil => cases mem
  | cons first passes =>
    obtain ⟨rfl, afterwards⟩ := List.cons.inj split
    obtain ⟨same, early⟩ := preferred_visit first
    cases passes with
    | nil => exact absurd (early i mem) positive
    | cons second passes =>
      obtain ⟨rfl, scans⟩ := List.cons.inj afterwards
      refine passes.spent_or_passedOver (fun v hv => ?_)
        (affine_visit (same.trans affine) positive early second)
      have scanned : v ∈ s₀.alternatePositions.map Visit.scan :=
        scans ▸ List.mem_append_left post hv
      obtain ⟨j, hj, rfl⟩ := List.mem_map.1 scanned
      exact ⟨j, rfl, Nat.ne_of_gt (Selection.mem_alternatePositions hj)⟩

/-! ## Affinity at the end of a call -/

namespace Ending

/-- **An answer gives affinity to the alternate that gave it**, and an answer of
the preferred endpoint takes it away. -/
theorem affinity_of_answered (affine : ∀ i, s₀.affinity = some i → 1 ≤ i)
    (h : Ending t q s₀ w trail r) {a : Response} (answered : r.result = .ok (.ok a)) :
    ∃ before c, trail = before ++ [c] ∧ c.outcome = .ok a
      ∧ r.state.affinity = if c.position = 0 then none else some c.position := by
  cases h with
  | cut _ _ _ _ _ reply =>
    rw [reply] at answered
    cases answered
  | exhausted _ reply =>
    rw [reply, result_exhausted] at answered
    cases answered
  | @decided pre post made before v s e e' random o reached split _ _ _ _ _ last reply =>
    rw [reply] at answered
    obtain rfl : o = .ok a := Except.ok.inj answered
    refine ⟨before, _, last, rfl, ?_⟩
    have planned : v ∈ s₀.plan := split ▸ List.mem_append_right pre List.mem_cons_self
    have affinity : r.state.affinity = v.answered s.selection.affinity := by
      rw [reply]
      rfl
    rw [affinity]
    cases v with
    | preferred => rfl
    | scan j => exact (if_neg (Nat.ne_of_gt (Selection.scan_mem_plan planned).1)).symm
    | affine j =>
      -- the only visit before this one is that of the preferred endpoint
      have same : s₀.affinity = some j := Selection.affinity_of_mem_plan planned
      have kept : made.foldl Visit.failed s₀.affinity = s₀.affinity := by
        refine Visit.foldl_failed_of_forall s₀.affinity fun k hk => ?_
        have early := reached.along.subset hk
        rw [Selection.eq_of_split_affine split] at early
        cases List.mem_singleton.1 early
      show s.selection.affinity = _
      rw [reached.affinity, kept, same]
      exact (if_neg (Nat.ne_of_gt (affine j same))).symm

/-- **A call without an answer ends where its visits have led it**: its contacts
are those of the visits that failed, and one more if that was not for want of
connectivity. -/
theorem exists_reached_of_unanswered (h : Ending t q s₀ w trail r) (none : ¬ r.Answered) :
    ∃ pre post made before last, ∃ s : Search σ, Reached t q s₀ w pre made before s
      ∧ s₀.plan = pre ++ post ∧ r.state.affinity = s.selection.affinity
      ∧ trail = before ++ last ∧ ∀ c ∈ last, c.outcome.isConnectivity = false := by
  cases h with
  | cut reached split _ _ _ reply =>
    refine ⟨_, _, _, _, [], _, reached, split, ?_, (List.append_nil _).symm, nofun⟩
    rw [reply]
    rfl
  | @decided _ _ _ _ v s _ _ _ o reached split _ _ _ _ final last reply =>
    refine ⟨_, _, _, _, _, _, reached, split, ?_, last, fun c hc => ?_⟩
    · cases o with
      | ok a => exact absurd ⟨a, by rw [reply]; rfl⟩ none
      | error f =>
        rw [reply]
        rfl
    · rw [List.mem_singleton.1 hc]
      exact final
  | exhausted reached reply =>
    refine ⟨_, [], _, _, [], _, reached, (List.append_nil _).symm, ?_, (List.append_nil _).symm,
      nofun⟩
    rw [reply, affinity_exhausted]

/-- **A call without an answer leaves affinity as it was, or takes it from an
alternate that was contacted and failed.** -/
theorem affinity_of_unanswered (h : Ending t q s₀ w trail r) (none : ¬ r.Answered) :
    r.state.affinity = s₀.affinity
      ∨ r.state.affinity = .none ∧ ∃ i c, s₀.affinity = some i ∧ c ∈ trail ∧ c.position = i
        ∧ c.outcome.isConnectivity = true := by
  obtain ⟨pre, post, made, before, last, s, reached, split, affinity, rfl, _⟩ :=
    h.exists_reached_of_unanswered none
  rw [affinity, reached.affinity]
  by_cases visited : ∃ i, Visit.affine i ∈ made
  · obtain ⟨i, hi⟩ := visited
    refine .inr ⟨Visit.foldl_failed_of_mem s₀.affinity hi, i, ?_⟩
    have planned : Visit.affine i ∈ s₀.plan :=
      split ▸ List.mem_append_left post (reached.along.subset hi)
    have contacted : i ∈ before.map Contact.position :=
      reached.positions ▸ List.mem_map_of_mem hi
    obtain ⟨c, hc, position⟩ := List.mem_map.1 contacted
    exact ⟨c, Selection.affinity_of_mem_plan planned, List.mem_append_left last hc, position,
      reached.failed c hc⟩
  · exact .inl (Visit.foldl_failed_of_forall s₀.affinity fun i hi => visited ⟨i, hi⟩)

/-- A contact that failed for want of connectivity is one of the visits that led
to the end, with the same contacts before it. -/
theorem exists_split_of_isConnectivity {before last front rest : List Contact} {c : Contact}
    (split : before ++ last = front ++ c :: rest)
    (final : ∀ d ∈ last, d.outcome.isConnectivity = false)
    (failed : c.outcome.isConnectivity = true) :
    ∃ between, before = front ++ c :: between := by
  have absent : c ∉ last := by
    intro mem
    rw [final c mem] at failed
    cases failed
  obtain ⟨between, _, late⟩ | ⟨between, early, late⟩ := List.append_eq_append_iff.1 split
  · exact absurd (late ▸ List.mem_append_right between List.mem_cons_self) absent
  cases between with
  | nil =>
    have late : c :: rest = last := late
    exact absurd (late ▸ List.mem_cons_self) absent
  | cons d between =>
    obtain ⟨rfl, _⟩ := List.cons.inj late
    exact ⟨between, early⟩

/-- An answer comes from another position than the contacts that failed. -/
theorem affinity_ne_of_answered (affine : ∀ i, s₀.affinity = some i → 1 ≤ i)
    (h : Ending t q s₀ w trail r) (answered : r.Answered) {c : Contact} (hc : c ∈ trail)
    (failed : c.outcome.isConnectivity = true) : r.state.affinity ≠ some c.position := by
  obtain ⟨a, ha⟩ := answered
  obtain ⟨before, d, rfl, outcome, affinity⟩ := h.affinity_of_answered affine ha
  have earlier : c ∈ before := by
    refine (List.mem_append.1 hc).resolve_right fun mem => ?_
    rw [List.mem_singleton.1 mem, outcome] at failed
    cases failed
  have nodup := h.along.2
  rw [List.map_append] at nodup
  have differ : c.position ≠ d.position :=
    (List.nodup_append.1 nodup).2.2 _ (List.mem_map_of_mem earlier) _ (List.mem_singleton.2 rfl)
  rw [affinity]
  split
  · exact nofun
  · exact fun same => differ (Option.some.inj same).symm

/-- **When an alternate that failed keeps affinity**: it had affinity, another
alternate was contacted before it, and the call was not answered. -/
theorem affinity_of_failed (affine : ∀ i, s₀.affinity = some i → 1 ≤ i)
    (h : Ending t q s₀ w trail r) {front rest : List Contact} {c : Contact}
    (split : trail = front ++ c :: rest) (failed : c.outcome.isConnectivity = true)
    (alternate : c.position ≠ 0) :
    r.state.affinity = some c.position
      ↔ s₀.affinity = some c.position ∧ (∃ d ∈ front, d.position ≠ 0) ∧ ¬ r.Answered := by
  have contacted : c ∈ trail := split ▸ List.mem_append_right front List.mem_cons_self
  by_cases answered : r.Answered
  · exact iff_of_false (h.affinity_ne_of_answered affine answered contacted failed)
      fun h => h.2.2 answered
  by_cases same : s₀.affinity = some c.position
  · obtain ⟨pre, post, made, before, last, s, reached, planned, affinity, rfl, final⟩ :=
      h.exists_reached_of_unanswered answered
    obtain ⟨between, rfl⟩ := exists_split_of_isConnectivity split final failed
    have positions : s.contacted = (between.map Contact.position).reverse
        ++ c.position :: (front.map Contact.position).reverse := by
      rw [reached.contacted, List.map_append, List.map_cons, List.reverse_append,
        List.reverse_cons, List.append_assoc]
      rfl
    have mem : c.position ∈ s.contacted :=
      positions ▸ List.mem_append_right _ List.mem_cons_self
    rw [affinity]
    obtain spent | passed := reached.passes.of_mem_contacted planned same alternate mem
    · refine iff_of_false (fun kept => ?_) fun ⟨_, ⟨d, hd, other⟩, _⟩ => other ?_
      · rw [spent.affinity] at kept
        cases kept
      · exact spent.early _ _ positions _ (List.mem_reverse.2 (List.mem_map_of_mem hd))
    · obtain ⟨j, hj, other⟩ := passed.late _ _ positions
      obtain ⟨d, hd, rfl⟩ := List.mem_map.1 (List.mem_reverse.1 hj)
      exact iff_of_true passed.affinity ⟨same, ⟨d, hd, other⟩, answered⟩
  · refine iff_of_false (fun kept => ?_) fun h => same h.1
    obtain unchanged | ⟨none, _⟩ := h.affinity_of_unanswered answered
    · exact same (unchanged.symm.trans kept)
    · rw [none] at kept
      cases kept

end Ending

end Search

/-! ## One call of a selection -/

namespace Selection

variable {σ : Type} {settings : CommunicationSettings} {s : Selection}

/-- A contact is with a position exactly if it is with the address there. -/
theorem Sound.position_iff (h : s.Sound settings) {c : Contact} {i : Nat} {a : IpAddr}
    (contact : s.endpoints.addresses[c.position]? = some c.address)
    (located : s.endpoints.addresses[i]? = some a) : c.position = i ↔ c.address = a := by
  constructor
  · rintro rfl
    exact Option.some.inj (contact.symm.trans located)
  · rintro rfl
    exact EndpointSet.position_unique h.distinct contact located

/-- **When an alternate that failed in a call keeps affinity**, told from the
contacts of the call. -/
theorem Sound.affinity_send_of_failed (h : s.Sound settings) (t : Transport σ) (q : Request)
    (w : World σ) {i : Nat} {a : IpAddr} {o : Outcome} {before after : List (IpAddr × Outcome)}
    (alternate : 1 ≤ i) (located : s.endpoints.addresses[i]? = some a)
    (contacts : (s.send t q w).contacts = before ++ (a, o) :: after)
    (failed : o.isConnectivity = true) :
    (s.send t q w).state.affinity = some i
      ↔ s.affinity = some i ∧ (∃ c ∈ before, s.endpoints.addresses.head? ≠ some c.1)
        ∧ ¬ (s.send t q w).Answered := by
  cases blocked : s.breaker.blocks w.now with
  | true =>
    rw [send_of_blocks t q blocked] at contacts
    cases before <;> cases contacts
  | false =>
    obtain ⟨trail, ending⟩ := ending_send t q blocked
    have sound := h.admitted w.now
    have addresses : (s.admitted w.now).endpoints.addresses = s.endpoints.addresses :=
      EndpointSet.addresses_eq_of_bare (bare_admitted s w.now)
    have locate := ending.located
    rw [addresses] at locate
    rw [ending.contacts] at contacts
    obtain ⟨front, rest, rfl, rfl, split⟩ := List.map_eq_append_iff.1 contacts
    obtain ⟨c, rest, rfl, told, rfl⟩ := List.map_eq_cons_iff.1 split
    obtain ⟨rfl, rfl⟩ := Prod.mk.inj told
    obtain rfl : c.position = i :=
      (h.position_iff (locate c (List.mem_append_right front List.mem_cons_self)) located).2 rfl
    rw [ending.affinity_of_failed (fun i hi => (sound.affine i hi).1) rfl failed
      (Nat.ne_of_gt alternate), affinity_admitted]
    have other : ∀ d ∈ front, d.position ≠ 0 ↔ s.endpoints.addresses.head? ≠ some d.address := by
      intro d hd
      have zero := h.position_iff (locate d (List.mem_append_left _ hd)) (i := 0) rfl
      exact not_congr (zero.trans (eq_comm.trans Option.some_inj.symm))
    refine and_congr_right' (and_congr_left' ⟨?_, ?_⟩)
    · rintro ⟨d, hd, differ⟩
      exact ⟨d.told, List.mem_map_of_mem hd, (other d hd).1 differ⟩
    · rintro ⟨_, hc, differ⟩
      obtain ⟨d, hd, rfl⟩ := List.mem_map.1 hc
      exact ⟨d, hd, (other d hd).2 differ⟩

variable (t : Transport σ) (q : Request) (s : Selection) (w : World σ)

/-- A call keeps the addresses. -/
theorem addresses_send : (s.send t q w).state.endpoints.addresses = s.endpoints.addresses := by
  cases blocked : s.breaker.blocks w.now with
  | true => rw [send_of_blocks t q blocked]
  | false =>
    obtain ⟨trail, ending⟩ := ending_send t q blocked
    exact EndpointSet.addresses_eq_of_bare (ending.bare.trans (bare_admitted s w.now))

/-- So does a call in either mode. -/
theorem addresses_sendIn (mode : Mode) :
    (s.sendIn mode t q w).state.endpoints.addresses = s.endpoints.addresses := by
  cases mode with
  | affinity => exact addresses_send t q s w
  | exhaustive => exact EndpointSet.addresses_eq_of_bare (kept_sendAll t q s w).1.bare

end Selection

/-! ## Every call after every history -/

namespace Manager

variable {σ τ : Type}

/-- A resolution gives affinity to nobody. -/
theorem affinity_resolve (v : Service σ) (m : Manager) (w : World σ) :
    (m.resolve v w).1.affinity = m.affinity := by
  cases m with
  | unresolved =>
    unfold resolve
    dsimp only
    split <;> rfl
  | failed f => rfl
  | ready s => rfl

/-- **An alternate that fails keeps affinity in one case only.** After every
history, let a call with affinity contact an alternate that fails for want of
connectivity. The alternate has affinity after the call if and only if it had
affinity before, another alternate was contacted before it in this call, and the
call was not answered. So an alternate that is contacted on its own visit loses
affinity by failing, and one that is passed over there and fails in the scan
does not. -/
theorem failed_keeps_affinity_iff (v : Service σ) (ops : List Operation) (w₀ : World σ)
    (u : Service τ) (q : Request) (w : World τ) :
    let m := (Scene.history v ops w₀).manager
    let r := m.send u q w
    ∀ i a o before after, 1 ≤ i → r.state.addresses[i]? = some a →
      r.contacts = before ++ (a, o) :: after → o.isConnectivity = true →
      (r.state.affinity = some i
        ↔ m.affinity = some i ∧ (∃ c ∈ before, r.state.addresses.head? ≠ some c.1)
          ∧ ¬ r.Answered) := by
  intro m r i a o before after alternate located contacts failed
  have sound : m.Sound v.settings := Scene.sound_history v ops w₀
  have affinity : m.affinity = (m.resolve u w).1.affinity := (affinity_resolve u m w).symm
  obtain ⟨settings, resolved⟩ := sound.exists_resolve u w
  cases hm : (m.resolve u w).1 with
  | unresolved => exact absurd hm (resolve_ne_unresolved u m w)
  | failed f =>
    have none : r.contacts = [] := contacts_sendIn_of_failed q hm
    rw [none] at contacts
    cases before <;> cases contacts
  | ready s =>
    have tells : r.Tells (s.send u.transport q (m.resolve u w).2.2) := tells_sendIn q hm
    have addresses : r.state.addresses = s.endpoints.addresses := by
      rw [tells.state]
      exact Selection.addresses_send u.transport q s (m.resolve u w).2.2
    rw [addresses] at located ⊢
    rw [affinity, hm, tells.answered_iff, tells.state]
    exact (resolved s hm).affinity_send_of_failed u.transport q _ alternate located
      (tells.contacts.symm.trans contacts) failed

/-- An alternate that has answered and then refuses on its own visit loses
affinity. -/
theorem failed_keeps_affinity_rehearsed :
    let v := Service.rehearsed
    let q := Request.rehearsed
    let script : Script := [(.v4 ⟨10, 0, 0, 2⟩, [⟨.ok, 0⟩, ⟨.refuse, 0⟩])]
    let here := Scene.history v [.call .affinity q] (.rehearsed script)
    let r := here.manager.send v q here.world
    here.manager.affinity = some 1
      ∧ r.contacts.map Prod.fst = [.v4 ⟨10, 0, 0, 1⟩, .v4 ⟨10, 0, 0, 2⟩]
      ∧ r.state.affinity ≠ some 1 := by
  intro v q script here r
  have contacts : r.contacts
      = [(.v4 ⟨10, 0, 0, 1⟩, .error (.connection "10.0.0.1" "connection refused")),
        (.v4 ⟨10, 0, 0, 2⟩, .error (.connection "10.0.0.2" "connection refused"))] := by
    decide +kernel
  refine ⟨by decide +kernel, by rw [contacts]; rfl, ?_⟩
  rw [ne_eq, failed_keeps_affinity_iff v [.call .affinity q] (.rehearsed script) v q here.world 1
    _ _ [_] [] (by decide) (by decide +kernel) contacts rfl]
  rintro ⟨_, ⟨c, hc, other⟩, _⟩
  rw [List.mem_singleton.1 hc] at other
  exact other (show r.state.addresses.head? = some (.v4 ⟨10, 0, 0, 1⟩) by decide +kernel)

/-- **An alternate that fails may keep affinity.** The second alternate has
answered, and then its down period begins. It is still down on its own visit
when the next request comes, but the first alternate takes half a minute to
fail. By then the down period is over, so the scan contacts the second alternate
as well. It refuses, and it has affinity all the same. -/
theorem failed_keeps_affinity_in_scan :
    let v : Service Script := { Service.rehearsed with
      resolver := ⟨fun _ _ => .ok [.v4 ⟨10, 0, 0, 1⟩, .v4 ⟨10, 0, 0, 2⟩, .v4 ⟨10, 0, 0, 3⟩]⟩ }
    let q := Request.rehearsed
    let script : Script :=
      [(.v4 ⟨10, 0, 0, 2⟩, [⟨.ok, 0⟩, ⟨.refuse, 0⟩]),
        (.v4 ⟨10, 0, 0, 3⟩, [⟨.refuse, 0⟩, ⟨.ok, 0⟩, ⟨.deny, 0⟩, ⟨.ok, 0⟩, ⟨.refuse, 30000⟩])]
    let here := Scene.history v
      [.call .affinity q, .wait 240000, .call .exhaustive q, .wait 60000, .call .affinity q,
        .wait 180000, .call .exhaustive q, .wait 120000] (.rehearsed script)
    let r := here.manager.send v q here.world
    r.state.addresses[2]? = some (.v4 ⟨10, 0, 0, 2⟩)
      ∧ (∃ o, (.v4 ⟨10, 0, 0, 2⟩, o) ∈ r.contacts ∧ o.isConnectivity = true)
      ∧ r.state.affinity = some 2 := by
  intro v q script here r
  have contacts : r.contacts
      = [(.v4 ⟨10, 0, 0, 3⟩, .error (.connection "10.0.0.3" "connection refused")),
        (.v4 ⟨10, 0, 0, 2⟩, .error (.connection "10.0.0.2" "connection refused"))] := by
    decide +kernel
  refine ⟨by decide +kernel,
    ⟨.error (.connection "10.0.0.2" "connection refused"), ?_, rfl⟩, by decide +kernel⟩
  rw [contacts]
  exact List.mem_cons_of_mem _ List.mem_cons_self

end Manager

end Uplink
