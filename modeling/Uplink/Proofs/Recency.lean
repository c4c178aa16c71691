import Uplink.Proofs.ContactOrder
import Uplink.Proofs.Finality
import Uplink.Proofs.Provenance

/-!
# The order of exhaustive calls

An exhaustive call tries everybody, so what it costs depends on how soon it comes
to an endpoint that answers. The endpoint that answered last is the best guess,
and so whoever answers moves to the front. After many calls the order is a record
of who answered when: those that have answered stand first, the most recent one
at the front, and behind them stand the others as they stand in the set.

The record is kept as positions, and one call changes it at one place
(`Search.Swept`): an answer takes its position out of the order and puts it in
front. That this is the order by recency (`recency`) is a statement about
addresses, and it needs that the order has every position once and the set every
address once. Calls with affinity have no part in it, although they contact the
same endpoints.
-/

namespace Uplink

/-! ## Who answered -/

/-- The addresses of the contacts that were answered. -/
def answerers (contacts : List (IpAddr × Outcome)) : List IpAddr :=
  (contacts.filter fun c => c.2.isOk).map Prod.fst

/-- **Who answered a call**, nobody if all its contacts failed. -/
def Reply.answerers {σ ρ : Type} (r : Reply σ ρ) : List IpAddr :=
  Uplink.answerers r.contacts

@[simp] theorem answerers_nil : answerers [] = [] := rfl

@[simp] theorem answerers_append (l l' : List (IpAddr × Outcome)) :
    answerers (l ++ l') = answerers l ++ answerers l' := by
  simp [answerers]

@[simp] theorem answerers_ok (a : IpAddr) (r : Response) : answerers [(a, .ok r)] = [a] := rfl

@[simp] theorem answerers_error (a : IpAddr) (f : Failure) :
    answerers [(a, .error f)] = [] := rfl

/-! ## Recency -/

/-- **Addresses by the recency of their answers**: those that have answered, the
most recent one first, and then the others in their own order. -/
def recency (all answers : List IpAddr) : List IpAddr :=
  EndpointSet.distinct answers.reverse ++ all.filter (· ∉ answers)

@[simp] theorem recency_nil (all : List IpAddr) : recency all [] = all := by
  simp [recency, EndpointSet.distinct]

/-- **An answer comes to the front**, and nothing else changes. -/
theorem recency_concat (all answers : List IpAddr) (a : IpAddr) :
    recency all (answers ++ [a]) = a :: (recency all answers).filter (· ≠ a) := by
  unfold recency
  rw [List.reverse_append, List.filter_append, List.filter_filter]
  show a :: ((EndpointSet.distinct answers.reverse).filter (· ≠ a) ++ _) = _
  congr 3
  funext b
  simp [and_comm]

/-- **A position is taken out of an order** as its address is taken out of the
addresses in that order. -/
theorem filterMap_erase {addresses : List IpAddr} {order : List Nat} {i : Nat} {a : IpAddr}
    (distinct : addresses.Nodup) (once : order.Nodup) (place : addresses[i]? = some a) :
    (order.erase i).filterMap (addresses[·]?)
      = (order.filterMap (addresses[·]?)).filter (· ≠ a) := by
  rw [once.erase_eq_filter, List.filterMap_filter, List.filter_filterMap]
  refine congrArg (List.filterMap · order) (funext fun j => ?_)
  by_cases same : j = i
  · simp [same, place, Option.filter]
  · cases found : addresses[j]? with
    | none => simp [same]
    | some b =>
      have differ : b ≠ a := by
        rintro rfl
        exact same (EndpointSet.position_unique distinct found place)
      simp [same, differ, Option.filter]

/-! ## One exhaustive call -/

namespace Search

variable {σ : Type} (t : Transport σ) (q : Request)

/-- **What trying some positions comes to**, for the order: a position answers
and comes to the front, or nobody answers and the order stays. -/
inductive Swept (positions : List Nat) (s : Search σ) (r : Reply σ Selection) : Prop
  | answered {i : Nat} {a : IpAddr} (tried : i ∈ positions)
      (place : s.selection.endpoints.addresses[i]? = some a)
      (success : r.Answered) (order : r.state.order = i :: s.selection.order.erase i)
      (who : r.answerers = answerers (s.events.filterMap Event.told?) ++ [a])
  | unanswered (none : ¬ r.Answered) (order : r.state.order = s.selection.order)
      (who : r.answerers = answerers (s.events.filterMap Event.told?))

variable {t q}

/-- What a search comes to after more positions have been tried, and what it
comes to after a contact that has changed nothing of this. -/
theorem Swept.of_same {positions positions' : List Nat} {s s' : Search σ}
    {r : Reply σ Selection} (h : Swept positions' s' r)
    (tried : ∀ i ∈ positions', i ∈ positions)
    (addresses : s'.selection.endpoints.addresses = s.selection.endpoints.addresses)
    (order : s'.selection.order = s.selection.order)
    (who : answerers (s'.events.filterMap Event.told?)
      = answerers (s.events.filterMap Event.told?)) : Swept positions s r := by
  cases h with
  | answered tried' place success order' who' =>
    exact .answered (tried _ tried') (addresses ▸ place) success (order ▸ order') (who ▸ who')
  | unanswered none order' who' => exact .unanswered none (order'.trans order) (who'.trans who)

variable (t q)

/-- **Trying positions comes to one of these.** -/
theorem swept_attempts (positions : List Nat) (s : Search σ) :
    Swept positions s (s.attempts t q positions) := by
  induction positions generalizing s with
  | nil => exact .unanswered (Reply.not_answered_of_result rfl) rfl rfl
  | cons i rest ih =>
    unfold attempts
    cases found : s.selection.endpoints.get? i with
    | none => exact (ih s).of_same (fun _ => List.mem_cons_of_mem i) rfl rfl rfl
    | some e =>
      have place : s.selection.endpoints.addresses[i]? = some e.address := by
        rw [EndpointSet.getElem?_addresses, found]
        rfl
      have told := told_contact t q i e s
      dsimp only
      cases outcome : (s.contact t q i e).1 with
      | ok r =>
        refine .answered List.mem_cons_self place ⟨r, rfl⟩ rfl ?_
        show answerers ((s.contact t q i e).2.events.filterMap Event.told?) = _
        rw [told, outcome, answerers_append, answerers_ok]
      | error f =>
        have who : answerers ((s.contact t q i e).2.events.filterMap Event.told?)
            = answerers (s.events.filterMap Event.told?) := by
          rw [told, outcome, answerers_append, answerers_error, List.append_nil]
        dsimp only
        by_cases more : f.isConnectivity = true
        · rw [if_pos more]
          refine (ih { (s.contact t q i e).2 with failure := some f }).of_same
            (fun _ => List.mem_cons_of_mem i) ?_ rfl who
          exact EndpointSet.addresses_eq_of_bare (kept_contact t q found).bare
        · rw [if_neg more]
          exact .unanswered (Reply.not_answered_of_result rfl) rfl who

end Search

namespace Selection

variable {σ : Type} {t : Transport σ} {q : Request} {s s' : Selection} {w : World σ}
  {answers : List IpAddr}

/-- The order of addresses is the order of positions, read in the set. -/
theorem exhaustiveOrder_eq (s : Selection) :
    s.exhaustiveOrder = if s.order = [] then s.endpoints.addresses
      else s.order.filterMap (s.endpoints.addresses[·]?) := by
  unfold exhaustiveOrder
  congr
  funext i
  exact (EndpointSet.getElem?_addresses s.endpoints i).symm

/-- Nothing else about a selection matters for the order. -/
theorem exhaustiveOrder_of_same (addresses : s'.endpoints.addresses = s.endpoints.addresses)
    (order : s'.order = s.order) : s'.exhaustiveOrder = s.exhaustiveOrder := by
  rw [exhaustiveOrder_eq, exhaustiveOrder_eq, addresses, order]

/-- The set's own order is what the positions in their order stand for. -/
theorem exhaustiveOrder_ordered (s : Selection) :
    s.ordered.exhaustiveOrder = s.exhaustiveOrder := by
  unfold ordered
  split
  · rename_i first
    rw [exhaustiveOrder_eq s, if_pos first, exhaustiveOrder_eq,
      if_neg (by simp [EndpointSet.size])]
    show (List.range s.endpoints.size).filterMap _ = _
    rw [← EndpointSet.length_addresses]
    exact filterMap_range_getElem? s.endpoints.addresses
  · rfl

/-- **The order is the one by recency** of some answers: it has every position
once, or it has none yet. -/
structure Ranked (answers : List IpAddr) (s : Selection) : Prop where
  positions : s.order = [] ∨ s.order.Perm (List.range s.endpoints.size)
  recency : s.exhaustiveOrder = recency s.endpoints.addresses answers

/-- Endpoints that were just found are in their own order. -/
theorem ranked_ofSet (set : EndpointSet) : (ofSet set).Ranked [] where
  positions := .inl rfl
  recency := (recency_nil set.addresses).symm

theorem Ranked.of_same (h : s.Ranked answers)
    (addresses : s'.endpoints.addresses = s.endpoints.addresses) (order : s'.order = s.order) :
    s'.Ranked answers where
  positions := by
    rw [order, ← EndpointSet.length_addresses, addresses, EndpointSet.length_addresses]
    exact h.positions
  recency := by
    rw [exhaustiveOrder_of_same addresses order, addresses]
    exact h.recency

/-- The order that an exhaustive call goes by has every position once. -/
theorem Ranked.perm_ordered (h : s.Ranked answers) :
    s.ordered.order.Perm (List.range s.endpoints.size) := by
  unfold ordered
  split
  · exact List.Perm.refl _
  · exact h.positions.resolve_left ‹_›

theorem endpoints_ordered (s : Selection) : s.ordered.endpoints = s.endpoints := by
  unfold ordered
  split <;> rfl

/-- The order of addresses, read off the positions that the call goes by. -/
theorem exhaustiveOrder_eq_filterMap (s : Selection) :
    s.exhaustiveOrder = s.ordered.order.filterMap (s.endpoints.addresses[·]?) := by
  have filled : s.ordered.order ≠ [] := by
    unfold ordered
    split
    · simp [EndpointSet.size]
    · assumption
  rw [← exhaustiveOrder_ordered, exhaustiveOrder_eq, if_neg filled, endpoints_ordered]

/-- **Whoever answers comes to the front**, and the others stay in their order. -/
theorem exhaustiveOrder_of_promoted (distinct : s.endpoints.addresses.Nodup)
    (once : s.ordered.order.Nodup) {i : Nat} {a : IpAddr}
    (place : s.endpoints.addresses[i]? = some a)
    (addresses : s'.endpoints.addresses = s.endpoints.addresses)
    (order : s'.order = i :: s.ordered.order.erase i) :
    s'.exhaustiveOrder = a :: s.exhaustiveOrder.filter (· ≠ a) := by
  rw [exhaustiveOrder_eq, if_neg (by rw [order]; exact List.cons_ne_nil _ _), order, addresses,
    List.filterMap_cons, place]
  show a :: _ = _
  rw [filterMap_erase distinct once place, exhaustiveOrder_eq_filterMap]

/-- **An answer keeps the order one by recency**, with the answer as the most
recent one. -/
theorem Ranked.promote (h : s.Ranked answers) (distinct : s.endpoints.addresses.Nodup) {i : Nat}
    {a : IpAddr} (place : s.endpoints.addresses[i]? = some a)
    (addresses : s'.endpoints.addresses = s.endpoints.addresses)
    (order : s'.order = i :: s.ordered.order.erase i) : s'.Ranked (answers ++ [a]) := by
  have perm := h.perm_ordered
  have mem : i ∈ s.ordered.order := by
    rw [perm.mem_iff, List.mem_range, ← EndpointSet.length_addresses]
    exact (List.getElem?_eq_some_iff.1 place).1
  have once : s.ordered.order.Nodup := perm.nodup_iff.2 List.nodup_range
  refine ⟨.inr ?_, ?_⟩
  · rw [order, ← EndpointSet.length_addresses, addresses, EndpointSet.length_addresses]
    exact (List.perm_cons_erase mem).symm.trans perm
  · rw [exhaustiveOrder_of_promoted distinct once place addresses order, h.recency, addresses,
      recency_concat]

/-- What an exhaustive call comes to, for the order. -/
theorem swept_sendAll (t : Transport σ) (q : Request) (s : Selection) (w : World σ) :
    Search.Swept s.ordered.order (.start s.ordered w) (s.sendAll t q w) :=
  Search.swept_attempts t q s.ordered.order (.start s.ordered w)

/-- **An exhaustive call keeps the order one by recency.** -/
theorem Ranked.sendAll (h : s.Ranked answers) (distinct : s.endpoints.addresses.Nodup)
    (t : Transport σ) (q : Request) (w : World σ) :
    (s.sendAll t q w).state.Ranked (answers ++ (s.sendAll t q w).answerers) := by
  have addresses := addresses_sendIn t q s w .exhaustive
  cases swept_sendAll t q s w with
  | answered _ place _ order who =>
    rw [who]
    refine h.promote distinct ?_ addresses order
    rw [← endpoints_ordered]
    exact place
  | unanswered _ order who =>
    rw [who]
    show Ranked (answers ++ []) _
    rw [List.append_nil]
    refine Ranked.of_same (s := s.ordered) ⟨.inr ?_, ?_⟩ ?_ order
    · rw [endpoints_ordered]
      exact h.perm_ordered
    · rw [exhaustiveOrder_ordered, endpoints_ordered]
      exact h.recency
    · rw [endpoints_ordered]
      exact addresses

/-- **An exhaustive call that is not answered leaves the order as it is.** -/
theorem exhaustiveOrder_sendAll (unanswered : ¬ (s.sendAll t q w).Answered) :
    (s.sendAll t q w).state.exhaustiveOrder = s.exhaustiveOrder := by
  cases swept_sendAll t q s w with
  | answered _ _ success => exact absurd success unanswered
  | unanswered _ order =>
    refine Eq.trans (exhaustiveOrder_of_same (s := s.ordered) ?_ order) (exhaustiveOrder_ordered s)
    rw [endpoints_ordered]
    exact addresses_sendIn t q s w .exhaustive

end Selection

/-! ## One call with affinity -/

namespace Search

variable {σ : Type} {t : Transport σ} {q : Request} {s s' : Search σ}

/-- A visit leaves the order of exhaustive calls alone. -/
theorem order_visit {v : Visit} (hv : s.visit t q v = .inr s') :
    s'.selection.order = s.selection.order := by
  cases visited_of_visit hv <;> rfl

theorem order_exhausted (s : Search σ) : s.exhausted.state.order = s.selection.order := by
  unfold exhausted
  split <;> rfl

/-- So does a whole call, however it ends. -/
theorem Ending.order {s₀ : Selection} {w : World σ} {trail : List Contact}
    {r : Reply σ Selection} (h : Ending t q s₀ w trail r) : r.state.order = s₀.order := by
  have along {vs : List Visit} {s : Search σ} (passes : Passes t q vs (start s₀ w) s) :
      s.selection.order = s₀.order :=
    passes.keeps (P := fun s => s.selection.order = s₀.order)
      (fun _ _ _ hv h => (order_visit hv).trans h) rfl
  cases h with
  | cut reached _ _ _ _ reply =>
    rw [reply]
    exact along reached.passes
  | decided reached _ _ _ _ _ _ _ reply =>
    -- a contact touches one endpoint, and what it decides is affinity
    rw [reply]
    exact (along reached.passes :)
  | exhausted reached reply =>
    rw [reply, order_exhausted]
    exact along reached.passes

end Search

namespace Selection

variable {σ : Type} (t : Transport σ) (q : Request) (s : Selection) (w : World σ)

/-- **A call with affinity leaves the order of exhaustive calls as it is.** -/
theorem order_send : (s.send t q w).state.order = s.order := by
  cases blocked : s.breaker.blocks w.now with
  | true => rw [send_of_blocks t q blocked]
  | false =>
    obtain ⟨trail, ending⟩ := ending_send t q blocked
    rw [ending.order]
    unfold admitted
    split <;> rfl

theorem exhaustiveOrder_send : (s.send t q w).state.exhaustiveOrder = s.exhaustiveOrder :=
  exhaustiveOrder_of_same (addresses_send t q s w) (order_send t q s w)

end Selection

/-! ## Histories -/

namespace Manager

variable {σ τ : Type} {v : Service σ} {m : Manager} {w : World σ} {answers : List IpAddr}

/-- **The order is the one by recency** of some answers. Without endpoints there
are no answers. -/
def Ranked (answers : List IpAddr) : Manager → Prop
  | ready s => s.Ranked answers
  | _ => answers = []

theorem ranked_resolve_unresolved (v : Service σ) (w : World σ) :
    (unresolved.resolve v w).1.Ranked [] := by
  cases hm : (unresolved.resolve v w).1 with
  | unresolved | failed => rfl
  | ready s =>
    obtain ⟨set, rfl, _⟩ := exists_ofSet_of_resolve hm
    exact Selection.ranked_ofSet set

/-- A resolution keeps the order one by recency. -/
theorem Ranked.resolve (h : m.Ranked answers) (v : Service σ) (w : World σ) :
    (m.resolve v w).1.Ranked answers := by
  cases m with
  | failed f => exact h
  | ready s => exact h
  | unresolved =>
    obtain rfl : answers = [] := h
    exact ranked_resolve_unresolved v w

/-- **So does a call with affinity.** -/
theorem Ranked.send (h : m.Ranked answers) (q : Request) :
    (m.sendIn v .affinity q w).state.Ranked answers := by
  have resolved := h.resolve v w
  cases hm : (m.resolve v w).1 with
  | unresolved => exact absurd hm (resolve_ne_unresolved v m w)
  | failed f =>
    rw [sendIn_of_failed q hm]
    exact hm ▸ resolved
  | ready s =>
    rw [sendIn_of_ready q hm]
    rw [hm] at resolved
    exact Selection.Ranked.of_same resolved
      (Selection.addresses_send v.transport q s (m.resolve v w).2.2)
      (Selection.order_send v.transport q s (m.resolve v w).2.2)

/-- **And so does an exhaustive call**, with its answer as the most recent
one. -/
theorem Ranked.sendAll (h : m.Ranked answers) (sound : m.Sound v.settings) (q : Request) :
    (m.sendIn v .exhaustive q w).state.Ranked
      (answers ++ (m.sendIn v .exhaustive q w).answerers) := by
  have resolved := h.resolve v w
  cases hm : (m.resolve v w).1 with
  | unresolved => exact absurd hm (resolve_ne_unresolved v m w)
  | failed f =>
    rw [Reply.answerers, contacts_sendIn_of_failed q hm, answerers_nil, List.append_nil,
      sendIn_of_failed q hm]
    exact hm ▸ resolved
  | ready s =>
    have tells : (m.sendIn v .exhaustive q w).Tells
        (s.sendIn .exhaustive v.transport q (m.resolve v w).2.2) := tells_sendIn q hm
    rw [hm] at resolved
    rw [Reply.answerers, tells.contacts, tells.state]
    exact Selection.Ranked.sendAll resolved (sound.resolve w s hm).distinct v.transport q
      (m.resolve v w).2.2

/-- **Only an answer to an exhaustive call changes the order** of a manager that
has looked for its endpoints. -/
theorem exhaustiveOrder_perform (u : Service τ) (w : World τ) (looked : m ≠ .unresolved)
    {op : Operation}
    (h : ∀ q, op = .call .exhaustive q → ¬ (m.sendIn u .exhaustive q w).Answered) :
    ((Scene.mk m w).perform u op).manager.exhaustiveOrder = m.exhaustiveOrder := by
  cases op with
  | status | order | wait ms => rfl
  | call mode q =>
    cases m with
    | unresolved => exact absurd rfl looked
    | failed f => rfl
    | ready s =>
      cases mode with
      | affinity => exact Selection.exhaustiveOrder_send u.transport q s w
      | exhaustive => exact Selection.exhaustiveOrder_sendAll (h q rfl)

/-- The order is an order of the addresses. -/
theorem Ranked.perm (h : m.Ranked answers) : m.exhaustiveOrder.Perm m.addresses := by
  cases m with
  | unresolved | failed => exact List.Perm.refl _
  | ready s =>
    show s.exhaustiveOrder.Perm s.endpoints.addresses
    rw [Selection.exhaustiveOrder_eq]
    split
    · exact List.Perm.refl _
    · rename_i begun
      refine ((h.positions.resolve_left begun).filterMap _).trans ?_
      rw [← EndpointSet.length_addresses, filterMap_range_getElem?]

/-- The order is the one by recency. -/
theorem Ranked.recency (h : m.Ranked answers) :
    m.exhaustiveOrder = Uplink.recency m.addresses answers := by
  cases m with
  | unresolved | failed =>
    obtain rfl : answers = [] := h
    rfl
  | ready s => exact Selection.Ranked.recency h

end Manager

namespace Scene

variable {σ τ : Type} {v : Service σ} {earlier : List IpAddr}

/-- **Who answered the exhaustive calls of a run**, in order. -/
def exhaustiveAnswers (v : Service σ) (ops : List Operation) (s : Scene σ) : List IpAddr :=
  (replies v .exhaustive ops s).flatMap Reply.answerers

/-- **An operation keeps the order one by recency.** -/
theorem ranked_perform {s : Scene σ} (h : s.manager.Ranked earlier)
    (sound : s.manager.Sound v.settings) (op : Operation) :
    (s.perform v op).manager.Ranked
      (earlier ++ (s.repliesOf v .exhaustive op).flatMap Reply.answerers) := by
  match op with
  | .call .exhaustive q =>
    show (s.manager.sendIn v .exhaustive q s.world).state.Ranked
      (earlier ++ ((s.manager.sendIn v .exhaustive q s.world).answerers ++ []))
    rw [List.append_nil]
    exact h.sendAll sound q
  | .call .affinity q => exact (List.append_nil earlier).symm ▸ h.send q
  | .status | .order | .wait ms => exact (List.append_nil earlier).symm ▸ h

/-- **A run keeps the order one by recency.** -/
theorem ranked_run (ops : List Operation) {s : Scene σ} (h : s.manager.Ranked earlier)
    (sound : s.manager.Sound v.settings) :
    (run v ops s).manager.Ranked (earlier ++ exhaustiveAnswers v ops s) := by
  induction ops generalizing s earlier with
  | nil => exact (List.append_nil earlier).symm ▸ h
  | cons op ops ih =>
    have rest := ih (ranked_perform h sound op) (sound_perform sound op)
    rw [List.append_assoc] at rest
    show (run v ops (s.perform v op)).manager.Ranked (earlier
      ++ (s.repliesOf v .exhaustive op ++ replies v .exhaustive ops _).flatMap Reply.answerers)
    rw [List.flatMap_append]
    exact rest

/-- Without exhaustive calls there are no replies to any. -/
theorem replies_exhaustive_eq_nil {ops : List Operation}
    (none : ∀ q, .call .exhaustive q ∉ ops) (s : Scene σ) : replies v .exhaustive ops s = [] := by
  induction ops generalizing s with
  | nil => rfl
  | cons op ops ih =>
    have rest := ih (fun q mem => none q (List.mem_cons_of_mem op mem)) (s.perform v op)
    unfold replies
    rw [rest, List.append_nil]
    match op with
    | .call .exhaustive q => exact absurd List.mem_cons_self (none q)
    | .call .affinity q | .status | .order | .wait ms => rfl

/-- **The exhaustive order tells who answered when.** After every history it is
an order of the endpoints' addresses: those that have answered an exhaustive call
come first, the most recent answer at the front, and then the others as they stand
in the set. Once the endpoints have been looked for, nothing but an answer to an
exhaustive call changes it, so requests with affinity, questions, and exhaustive
calls that fail or are denied leave it alone, and nothing at all changes the
addresses of the set. Before the first exhaustive call the order is that of the
set, and it is empty as long as there are no endpoints. -/
theorem exhaustive_order_by_recency (v : Service σ) (ops : List Operation) (w₀ : World σ) :
    let m := (history v ops w₀).manager
    let answers := exhaustiveAnswers v ops (start w₀)
    m.exhaustiveOrder
        = EndpointSet.distinct answers.reverse ++ m.addresses.filter (· ∉ answers)
      ∧ m.exhaustiveOrder.Perm m.addresses
      ∧ (∀ (u : Service τ) (w : World τ) (op : Operation), m ≠ .unresolved →
        (∀ q, op = .call .exhaustive q → ¬ (m.sendIn u .exhaustive q w).Answered) →
        ((Scene.mk m w).perform u op).manager.exhaustiveOrder = m.exhaustiveOrder)
      ∧ (∀ (u : Service τ) (w : World τ) (op : Operation), m ≠ .unresolved →
        ((Scene.mk m w).perform u op).manager.addresses = m.addresses)
      ∧ ((∀ q, .call .exhaustive q ∉ ops) → m.exhaustiveOrder = m.addresses)
      ∧ ((∀ s, m ≠ .ready s) → m.exhaustiveOrder = []) := by
  intro m answers
  have ranked : m.Ranked ([] ++ answers) :=
    ranked_run ops (s := start w₀) rfl (Manager.sound_unresolved v.settings)
  refine ⟨ranked.recency, ranked.perm, fun u w op looked h => ?_, fun u w op looked => ?_,
    fun none => ?_, fun none => ?_⟩
  · exact Manager.exhaustiveOrder_perform u w looked h
  · exact addresses_perform (s := ⟨m, w⟩) looked op
  · have silent : answers = [] := by
      show (replies v .exhaustive ops (start w₀)).flatMap _ = []
      rw [replies_exhaustive_eq_nil none, List.flatMap_nil]
    rw [ranked.recency, silent, List.nil_append, recency_nil]
  · cases hm : m with
    | unresolved | failed => rfl
    | ready s => exact absurd hm (none s)

/-- Only the second address answers, and so it stands first after one exhaustive
call. -/
example : (history Service.rehearsed [.call .exhaustive .rehearsed]
      (.rehearsed [(.v4 ⟨10, 0, 0, 2⟩, [⟨.ok, 0⟩])])).manager.exhaustiveOrder
    = [.v4 ⟨10, 0, 0, 2⟩, .v4 ⟨10, 0, 0, 1⟩] := by
  decide +kernel

end Scene

end Uplink
