import Uplink.Proofs.Opening

/-!
# The order of contacts

A call with affinity turns to its endpoints one after the other, and whoever
reads its log wants to know in which order. The preferred endpoint comes first,
if it is contacted at all. The alternates come in the order of the set, but for
the one with affinity, which may come early. Nobody is contacted twice, although
the alternate with affinity is visited twice.

What is proved first is about positions, where it follows from the plan
(`Search.Ending.along`). Addresses are what the network sees, and there it
holds because no address occurs twice in a set.
-/

namespace Uplink

/-! ## Positions and addresses -/

/-- A list is read off its positions. -/
theorem filterMap_range_getElem? {α : Type} (l : List α) :
    (List.range l.length).filterMap (fun i => l[i]?) = l := by
  induction l with
  | nil => rfl
  | cons a l ih =>
    rw [List.length_cons, List.range_succ_eq_map, List.filterMap_cons]
    show a :: List.filterMap _ ((List.range l.length).map Nat.succ) = a :: l
    rw [List.filterMap_map]
    exact congrArg (a :: ·) ih

/-- The addresses of the alternates, by position. -/
theorem Selection.filterMap_alternatePositions (s : Selection) :
    s.alternatePositions.filterMap (fun i => s.endpoints.addresses[i]?)
      = s.endpoints.alternates.map Endpoint.address := by
  have list := filterMap_range_getElem? (s.endpoints.alternates.map Endpoint.address)
  rw [List.length_map] at list
  unfold alternatePositions
  rw [List.filterMap_map]
  exact list

/-- The addresses of contacts, by position. -/
theorem filterMap_position {addresses : List IpAddr} {trail : List Contact}
    (located : ∀ c ∈ trail, addresses[c.position]? = some c.address) :
    (trail.map Contact.position).filterMap (fun i => addresses[i]?)
      = trail.map Contact.address := by
  induction trail with
  | nil => rfl
  | cons c trail ih =>
    rw [List.map_cons, List.map_cons, List.filterMap_cons, located c List.mem_cons_self]
    exact congrArg (c.address :: ·) (ih fun d hd => located d (List.mem_cons_of_mem c hd))

/-- A part of a list that starts with an element starts with it too, if it has
it at all. -/
theorem head?_of_sublist_cons {α : Type} {a : α} {l rest : List α}
    (h : l.Sublist (a :: rest)) (new : a ∉ rest) (mem : a ∈ l) : l.head? = some a := by
  cases h with
  | cons _ h => exact absurd (h.subset mem) new
  | cons_cons _ h => rfl

/-- A part of two lists that has nothing of the first is a part of the second. -/
theorem sublist_of_sublist_append {α : Type} {l front rest : List α}
    (h : l.Sublist (front ++ rest)) (none : ∀ a ∈ l, a ∉ front) : l.Sublist rest := by
  obtain ⟨l₁, l₂, rfl, h₁, h₂⟩ := List.sublist_append_iff.1 h
  cases l₁ with
  | nil => exact h₂
  | cons a l₁ => exact absurd (h₁.subset List.mem_cons_self) (none a List.mem_cons_self)

/-! ## What the order of contacts is -/

/-- **Addresses in the order in which a call may contact them.** -/
structure Selection.InOrder (s : Selection) (contacted : List IpAddr) : Prop where
  distinct : contacted.Nodup
  preferred : s.endpoints.preferred.address ∈ contacted →
    contacted.head? = some s.endpoints.preferred.address
  alternates : (contacted.filter fun a =>
      a ≠ s.endpoints.preferred.address ∧ some a ≠ s.affineAddress?).Sublist
    (s.endpoints.alternates.map Endpoint.address)

theorem Selection.affineAddress?_eq (s : Selection) :
    s.affineAddress? = s.affinity.bind fun i => s.endpoints.addresses[i]? := by
  unfold affineAddress?
  congr
  funext i
  exact (EndpointSet.getElem?_addresses s.endpoints i).symm

namespace Search.Ending

variable {σ : Type} {t : Transport σ} {q : Request} {s₀ : Selection} {w : World σ}
  {trail : List Contact} {r : Reply σ Selection}

/-- **No address is contacted twice**, if none occurs twice in the set. -/
theorem nodup_addresses (h : Ending t q s₀ w trail r) (distinct : s₀.endpoints.addresses.Nodup) :
    (trail.map Contact.address).Nodup := by
  have positions : trail.Pairwise fun c d => c.position ≠ d.position :=
    List.pairwise_map.1 h.along.2
  refine List.pairwise_map.2 (positions.imp_of_mem ?_)
  intro c d hc hd differ same
  exact differ (EndpointSet.position_unique distinct (h.located c hc) (same ▸ h.located d hd))

/-- **The contacts of a call are in order.** -/
theorem inOrder (h : Ending t q s₀ w trail r) (distinct : s₀.endpoints.addresses.Nodup)
    (affine : ∀ i, s₀.affinity = some i → 1 ≤ i) : s₀.InOrder (trail.map Contact.address) where
  distinct := h.nodup_addresses distinct
  preferred := by
    intro contacted
    obtain ⟨c, hc, same⟩ := List.mem_map.1 contacted
    have position : c.position = 0 :=
      EndpointSet.position_unique distinct (h.located c hc) (congrArg some same.symm)
    have later : 0 ∉ s₀.affinity.toList ++ s₀.alternatePositions := by
      intro mem
      obtain mem | mem := List.mem_append.1 mem
      · exact absurd (affine 0 (Option.mem_toList.1 mem)) (Nat.not_succ_le_zero 0)
      · obtain ⟨i, _, succ⟩ := List.mem_map.1 mem
        cases succ
    have along : (trail.map Contact.position).Sublist
        (0 :: (s₀.affinity.toList ++ s₀.alternatePositions)) := s₀.position_plan ▸ h.along.1
    have head := head?_of_sublist_cons along later (position ▸ List.mem_map_of_mem hc)
    cases trail with
    | nil => cases hc
    | cons d trail =>
      have first := h.located d List.mem_cons_self
      rw [Option.some.inj head] at first
      exact first.symm
  alternates := by
    -- whoever passes the filter stands at a position of the scan
    rw [List.filter_map]
    generalize kept : trail.filter _ = others
    have apart : ∀ c ∈ others, c ∈ trail ∧ c.address ≠ s₀.endpoints.preferred.address
        ∧ some c.address ≠ s₀.affineAddress? := by
      intro c hc
      rw [← kept] at hc
      exact ⟨(List.mem_filter.1 hc).1, of_decide_eq_true (List.mem_filter.1 hc).2⟩
    have located : ∀ c ∈ others, s₀.endpoints.addresses[c.position]? = some c.address :=
      fun c hc => h.located c (apart c hc).1
    have along : (others.map Contact.position).Sublist
        ((0 :: s₀.affinity.toList) ++ s₀.alternatePositions) := by
      rw [List.cons_append, ← s₀.position_plan]
      exact ((kept ▸ List.filter_sublist).map _).trans h.along.1
    rw [← filterMap_position located, ← s₀.filterMap_alternatePositions]
    refine List.Sublist.filterMap _ (sublist_of_sublist_append along fun i hi => ?_)
    · obtain ⟨c, hc, rfl⟩ := List.mem_map.1 hi
      obtain ⟨_, notPreferred, notAffine⟩ := apart c hc
      intro mem
      obtain zero | mem := List.mem_cons.1 mem
      · refine notPreferred (Option.some.inj ?_)
        rw [← located c hc, zero]
        rfl
      · refine notAffine ?_
        rw [s₀.affineAddress?_eq, Option.mem_toList.1 mem, ← located c hc]
        rfl

end Search.Ending

/-! ## One call of a selection -/

namespace Selection

variable {σ : Type} {settings : CommunicationSettings} {s : Selection}

/-- Being let through changes neither addresses nor affinity. -/
theorem InOrder.of_admitted {now : Instant} {contacted : List IpAddr}
    (h : (s.admitted now).InOrder contacted) : s.InOrder contacted := by
  have addresses : (s.admitted now).endpoints.addresses = s.endpoints.addresses :=
    EndpointSet.addresses_eq_of_bare (bare_admitted s now)
  have affine : (s.admitted now).affineAddress? = s.affineAddress? := by
    rw [affineAddress?_eq, affineAddress?_eq, affinity_admitted, addresses]
  obtain ⟨preferred, alternates⟩ := List.cons.inj addresses
  obtain ⟨distinct, first, others⟩ := h
  rw [preferred] at first others
  rw [affine] at others
  have alternates : (s.admitted now).endpoints.alternates.map Endpoint.address
      = s.endpoints.alternates.map Endpoint.address := alternates
  rw [alternates] at others
  exact ⟨distinct, first, others⟩

/-- No contact is in order. -/
theorem inOrder_nil (s : Selection) : s.InOrder [] :=
  ⟨List.nodup_nil, nofun, List.nil_sublist _⟩

/-- **The contacts of a call of a sound selection are in order.** -/
theorem Sound.inOrder_send (h : s.Sound settings) (t : Transport σ) (q : Request)
    (w : World σ) : s.InOrder ((s.send t q w).contacts.map Prod.fst) := by
  cases blocked : s.breaker.blocks w.now with
  | true =>
    rw [send_of_blocks t q blocked]
    exact s.inOrder_nil
  | false =>
    obtain ⟨trail, ending⟩ := ending_send t q blocked
    have sound := h.admitted w.now
    have ordered := ending.inOrder sound.distinct fun i hi => (sound.affine i hi).1
    rw [ending.contacts, List.map_map]
    exact ordered.of_admitted

variable (t : Transport σ) (q : Request) (s : Selection) (w : World σ)

/-- **Only the last contact of a call may end it.** -/
theorem isConnectivity_dropLast_send :
    ∀ c ∈ (s.send t q w).contacts.dropLast, c.2.isConnectivity = true := by
  cases blocked : s.breaker.blocks w.now with
  | true =>
    rw [send_of_blocks t q blocked]
    exact fun c hc => absurd hc List.not_mem_nil
  | false =>
    obtain ⟨trail, ending⟩ := ending_send t q blocked
    rw [ending.contacts, ← List.map_dropLast]
    intro c hc
    obtain ⟨d, hd, rfl⟩ := List.mem_map.1 hc
    exact ending.failed_dropLast d hd

/-- **The result of a call is the outcome of its last contact**, and without any
contact the service is unavailable. -/
theorem result_send : (s.send t q w).CutOff
    ∨ (∀ c, (s.send t q w).contacts.getLast? = some c → (s.send t q w).result = .ok c.2)
      ∧ ((s.send t q w).contacts = [] → (s.send t q w).result = .ok (.error .unavailable)) := by
  cases blocked : s.breaker.blocks w.now with
  | true =>
    rw [send_of_blocks t q blocked]
    exact .inr ⟨nofun, fun _ => rfl⟩
  | false =>
    obtain ⟨trail, ending⟩ := ending_send t q blocked
    obtain result | ⟨cut, _⟩ := ending.result
    · refine .inr ⟨fun c hc => ?_, fun none => ?_⟩
      · rw [ending.contacts, List.getLast?_map] at hc
        obtain ⟨d, hd, rfl⟩ := Option.map_eq_some_iff.1 hc
        rw [result, verdict, hd]
        rfl
      · rw [ending.contacts, List.map_eq_nil_iff] at none
        rw [result, none]
        rfl
    · exact .inl cut

end Selection

/-! ## Every call after every history -/

namespace Manager

variable {σ τ : Type}

/-- **A call contacts its endpoints in order, and its last contact decides.**
After every history, a call with affinity either has no endpoints, and then it
contacts nobody and gives the failure to find them, or it contacts endpoints of
its set, none of them twice. The preferred one comes first if it is contacted,
and the alternates but the one with affinity come in the order of the set. Every
contact but the last failed for want of connectivity. The outcome of the last
contact is the result, and the service is unavailable if there was no contact,
unless the clock cuts the call off: it does so only if it cannot show the end of
the fail period of an endpoint. -/
theorem contacts_in_order (v : Service σ) (ops : List Operation) (w₀ : World σ)
    (u : Service τ) (q : Request) (w : World τ) :
    let m := (Scene.history v ops w₀).manager
    let r := m.send u q w
    (∃ f, (m.resolve u w).1 = .failed f ∧ r.contacts = [] ∧ r.result = .ok (.error f))
      ∨ ∃ s, (m.resolve u w).1 = .ready s
        ∧ s.InOrder (r.contacts.map Prod.fst)
        ∧ (∀ c ∈ r.contacts.dropLast, c.2.isConnectivity = true)
        ∧ ((∀ c, r.contacts.getLast? = some c → r.result = .ok c.2)
            ∧ (r.contacts = [] → r.result = .ok (.error .unavailable))
          ∨ r.CutOff ∧ ¬ (s.admitted w.now).endpoints.InClock) := by
  intro m r
  have sound : m.Sound v.settings := Scene.sound_history v ops w₀
  cases hm : (m.resolve u w).1 with
  | unresolved => exact absurd hm (resolve_ne_unresolved u m w)
  | failed f =>
    have hr : r.result = .ok (.error f) := congrArg Reply.result (sendIn_of_failed q hm)
    exact .inl ⟨f, rfl, contacts_sendIn_of_failed q hm, hr⟩
  | ready s =>
    have tells : r.Tells (s.send u.transport q (m.resolve u w).2.2) := tells_sendIn q hm
    refine .inr ⟨s, rfl, ?_, ?_, ?_⟩
    · obtain ⟨settings, resolved⟩ := sound.exists_resolve u w
      rw [tells.contacts]
      exact (resolved s hm).inOrder_send u.transport q (m.resolve u w).2.2
    · rw [tells.contacts]
      exact Selection.isConnectivity_dropLast_send u.transport q s (m.resolve u w).2.2
    · rw [Reply.CutOff, tells.contacts, tells.result, ← now_resolve u m w]
      refine (Selection.result_send u.transport q s (m.resolve u w).2.2).symm.imp id fun cut => ?_
      exact ⟨cut, Selection.not_inClock_of_cutOff u.transport q s _ cut⟩

end Manager

end Uplink
