import Uplink.Proofs.Recency

/-!
# What an exhaustive call does

An exhaustive call goes down its order and asks one address after the other until
one answers or denies. It looks at nothing else: whether an endpoint is down, who
has affinity and whether the breaker is open make no difference. So everything it
does outside is a function of the order, the network and the world it starts in,
and that function is `Transport.sweep`, in which no selection occurs.

Inside, a failed contact leaves nothing behind, so a call that fails leaves the
selection as it found it, but for the order, which an exhaustive call writes down
when it is the first one. An answer is recorded with the endpoint that gave it,
and that endpoint comes to the front.
-/

namespace Uplink

/-! ## Asking addresses -/

namespace Transport

variable {σ : Type} (t : Transport σ) (q : Request)

/-- **An address is asked**: one attempt, and what its answer means. -/
def ask (address : IpAddr) (w : World σ) : Outcome × World σ :=
  ((t.run q address w).1.bind (·.judge address), (t.run q address w).2)

/-- **Addresses are asked one after the other**, as long as they fail for want of
connectivity: the contacts that this makes, and the world after them. -/
def sweep : List IpAddr → World σ → List (IpAddr × Outcome) × World σ
  | [], w => ([], w)
  | a :: rest, w =>
    let (outcome, w) := t.ask q a w
    if outcome.isConnectivity then
      let (contacts, w) := sweep rest w
      ((a, outcome) :: contacts, w)
    else ([(a, outcome)], w)

variable {t q}

theorem sweep_of_connectivity {a : IpAddr} {w : World σ}
    (failed : (t.ask q a w).1.isConnectivity = true) (rest : List IpAddr) :
    t.sweep q (a :: rest) w
      = ((a, (t.ask q a w).1) :: (t.sweep q rest (t.ask q a w).2).1,
          (t.sweep q rest (t.ask q a w).2).2) :=
  if_pos failed

theorem sweep_of_decided {a : IpAddr} {w : World σ}
    (decided : (t.ask q a w).1.isConnectivity = false) (rest : List IpAddr) :
    t.sweep q (a :: rest) w = ([(a, (t.ask q a w).1)], (t.ask q a w).2) :=
  if_neg (ne_true_of_eq_false decided)

end Transport

/-- **The shortest part of an order that decides a request.** The addresses are
the first ones of the order, nothing before the last one has decided, and the
last one has, or it is the end of the order. -/
structure Sweeps (order : List IpAddr) (contacts : List (IpAddr × Outcome)) : Prop where
  along : contacts.map Prod.fst <+: order
  undecided : ∀ c ∈ contacts.dropLast, c.2.isConnectivity = true
  complete : contacts.map Prod.fst = order
    ∨ ∃ c, contacts.getLast? = some c ∧ c.2.isConnectivity = false

namespace Transport

variable {σ : Type} (t : Transport σ) (q : Request)

theorem sweep_eq_nil_iff (order : List IpAddr) (w : World σ) :
    (t.sweep q order w).1 = [] ↔ order = [] := by
  cases order with
  | nil => exact ⟨fun _ => rfl, fun _ => rfl⟩
  | cons a rest =>
    refine ⟨fun none => ?_, nofun⟩
    cases decided : (t.ask q a w).1.isConnectivity with
    | true =>
      rw [sweep_of_connectivity decided] at none
      cases none
    | false =>
      rw [sweep_of_decided decided] at none
      cases none

/-- **A sweep contacts the shortest part that decides.** -/
theorem sweeps_sweep (order : List IpAddr) (w : World σ) :
    Sweeps order (t.sweep q order w).1 := by
  induction order generalizing w with
  | nil => exact ⟨List.prefix_refl [], fun _ hc => absurd hc List.not_mem_nil, .inl rfl⟩
  | cons a rest ih =>
    cases decided : (t.ask q a w).1.isConnectivity with
    | false =>
      rw [sweep_of_decided decided]
      exact ⟨⟨rest, rfl⟩, fun _ hc => absurd hc List.not_mem_nil, .inr ⟨_, rfl, decided⟩⟩
    | true =>
      rw [sweep_of_connectivity decided]
      have tail := ih (t.ask q a w).2
      generalize (t.sweep q rest (t.ask q a w).2).1 = contacts at tail ⊢
      refine ⟨(List.prefix_cons_inj a).2 tail.along, fun c hc => ?_, ?_⟩
      · cases contacts with
        | nil => exact absurd hc List.not_mem_nil
        | cons d contacts =>
          obtain rfl | later := List.mem_cons.1 hc
          · exact decided
          · exact tail.undecided c later
      · obtain whole | ⟨c, last, hc⟩ := tail.complete
        · exact .inl (congrArg (a :: ·) whole)
        · refine .inr ⟨c, ?_, hc⟩
          rw [List.getLast?_cons, last]
          rfl

/-- Asking draws no random word. -/
theorem random_sweep (order : List IpAddr) (w : World σ) :
    (t.sweep q order w).2.random = w.random := by
  induction order generalizing w with
  | nil => rfl
  | cons a rest ih =>
    cases decided : (t.ask q a w).1.isConnectivity with
    | false =>
      rw [sweep_of_decided decided]
      rfl
    | true =>
      rw [sweep_of_connectivity decided]
      exact ih _

end Transport

/-! ## A contact is a question -/

/-- Putting back what is there changes nothing. -/
theorem EndpointSet.set_of_get? {s : EndpointSet} {i : Nat} {e : Endpoint}
    (found : s.get? i = some e) : s.set i e = s := by
  refine toList_injective (List.ext_getElem? fun j => ?_)
  rw [getElem?_toList, getElem?_toList, get?_set]
  split
  · rename_i same
    rw [same, found]
    rfl
  · rfl

namespace Search

variable {σ : Type} (t : Transport σ) (q : Request) (i : Nat) (e : Endpoint) (s : Search σ)

theorem outcome_contact : (s.contact t q i e).1 = (t.ask q e.address s.world).1 :=
  Endpoint.outcome_send t q e s.world

theorem asked_contact : (s.contact t q i e).2.world = (t.ask q e.address s.world).2 :=
  world_contact t q i e s

variable {t q i e s}

/-- **A failed contact leaves nothing behind.** -/
theorem selection_contact_of_error (found : s.selection.endpoints.get? i = some e) {f : Failure}
    (failed : (s.contact t q i e).1 = .error f) :
    (s.contact t q i e).2.selection = s.selection := by
  show { s.selection with endpoints := s.selection.endpoints.set i (e.send t q s.world).2.1 } = _
  rw [Endpoint.send_eq_of_error failed, EndpointSet.set_of_get? found]

/-- **An answer is recorded** with the endpoint that gave it. -/
theorem selection_contact_of_ok {a : Response} (answer : (s.contact t q i e).1 = .ok a) :
    (s.contact t q i e).2.selection
      = { s.selection with
          endpoints := s.selection.endpoints.set i
            (e.succeeded (s.contact t q i e).2.world.now) } := by
  obtain ⟨f, failed, _⟩ | ⟨_, _, recorded⟩ := Endpoint.send_cases t q e s.world
  · exact nomatch answer.symm.trans failed
  · exact congrArg (fun d => { s.selection with endpoints := s.selection.endpoints.set i d })
      recorded

end Search

/-! ## A call is a sweep -/

/-- The outcome of the last contact, or another one if there is none. -/
def lastOutcome (contacts : List (IpAddr × Outcome)) (otherwise : Outcome) : Outcome :=
  (contacts.getLast?.map Prod.snd).getD otherwise

theorem lastOutcome_of_getLast? {contacts : List (IpAddr × Outcome)} {a : IpAddr} {o : Outcome}
    (last : contacts.getLast? = some (a, o)) (otherwise : Outcome) :
    lastOutcome contacts otherwise = o := by
  unfold lastOutcome
  rw [last]
  rfl

namespace Search

variable {σ : Type} {t : Transport σ} {q : Request}

/-- **The account of a sweep**: what a search says, does and leaves if it has asked
some addresses. -/
structure Account (t : Transport σ) (q : Request) (addresses : List IpAddr) (s : Search σ)
    (r : Reply σ Selection) : Prop where
  told : r.contacts
    = s.events.filterMap Event.told? ++ (t.sweep q addresses s.world).1
  world : r.world = (t.sweep q addresses s.world).2
  result : r.result = .ok (lastOutcome (t.sweep q addresses s.world).1 (.error s.lastFailure))
  state : (∃ i e a, s.selection.endpoints.get? i = some e
      ∧ (t.sweep q addresses s.world).1.getLast? = some (e.address, .ok a)
      ∧ r.state = { s.selection with
          endpoints := s.selection.endpoints.set i (e.succeeded r.world.now)
          order := i :: s.selection.order.erase i })
    ∨ ¬ r.Answered ∧ r.state = s.selection

section Account

variable {i : Nat} {e : Endpoint} {rest : List IpAddr} {s : Search σ} {r : Reply σ Selection}

/-- A contact that decides, and a call that ends with it. -/
theorem Account.of_decided (decided : (s.contact t q i e).1.isConnectivity = false)
    (events : r.events = (s.contact t q i e).2.events)
    (world : r.world = (s.contact t q i e).2.world)
    (result : r.result = .ok (s.contact t q i e).1)
    (state : (∃ a, s.selection.endpoints.get? i = some e ∧ (s.contact t q i e).1 = .ok a
        ∧ r.state = { s.selection with
            endpoints := s.selection.endpoints.set i (e.succeeded r.world.now)
            order := i :: s.selection.order.erase i })
      ∨ ¬ r.Answered ∧ r.state = s.selection) : Account t q (e.address :: rest) s r := by
  have asked := outcome_contact t q i e s
  have sweep : t.sweep q (e.address :: rest) s.world
      = ([(e.address, (s.contact t q i e).1)], (t.ask q e.address s.world).2) := by
    rw [asked]
    exact Transport.sweep_of_decided (asked ▸ decided) rest
  refine ⟨?_, ?_, ?_, ?_⟩ <;> rw [sweep]
  · rw [Reply.contacts, events, told_contact]
  · rw [world, asked_contact]
  · exact result
  · obtain ⟨a, found, answer, left⟩ | unanswered := state
    · exact .inl ⟨i, e, a, found, by rw [answer]; rfl, left⟩
    · exact .inr unanswered

/-- A failed contact, and the account of what comes after it. -/
theorem Account.of_failed (found : s.selection.endpoints.get? i = some e) {f : Failure}
    (failed : (s.contact t q i e).1 = .error f) (more : f.isConnectivity = true)
    (h : Account t q rest { (s.contact t q i e).2 with failure := some f } r) :
    Account t q (e.address :: rest) s r := by
  have asked : (t.ask q e.address s.world).1 = .error f :=
    (outcome_contact t q i e s).symm.trans failed
  have sweep : t.sweep q (e.address :: rest) s.world
      = ((e.address, .error f) :: (t.sweep q rest (t.ask q e.address s.world).2).1,
          (t.sweep q rest (t.ask q e.address s.world).2).2) :=
    asked ▸ Transport.sweep_of_connectivity (asked ▸ more) rest
  obtain ⟨told, world, result, state⟩ := h
  dsimp only at told world result state
  rw [told_contact, failed] at told
  rw [selection_contact_of_error found failed] at state
  rw [asked_contact] at told world result state
  refine ⟨?_, ?_, ?_, ?_⟩ <;> rw [sweep]
  · rw [told, List.append_assoc]
    rfl
  · exact world
  · rw [result]
    unfold lastOutcome
    rw [List.getLast?_cons]
    cases (t.sweep q rest (t.ask q e.address s.world).2).1.getLast? <;> rfl
  · obtain ⟨j, d, a, place, last, left⟩ | unanswered := state
    · refine .inl ⟨j, d, a, place, ?_, left⟩
      rw [List.getLast?_cons, last]
      rfl
    · exact .inr unanswered

end Account

/-- **Trying positions is asking their addresses.** -/
theorem account_attempts (t : Transport σ) (q : Request) (positions : List Nat)
    (s : Search σ) :
    Account t q (positions.filterMap (s.selection.endpoints.addresses[·]?)) s
      (s.attempts t q positions) := by
  induction positions generalizing s with
  | nil =>
    exact ⟨(List.append_nil _).symm, rfl, rfl, .inr ⟨Reply.not_answered_of_result rfl, rfl⟩⟩
  | cons i rest ih =>
    have address := EndpointSet.getElem?_addresses s.selection.endpoints i
    unfold attempts
    cases found : s.selection.endpoints.get? i with
    | none =>
      rw [List.filterMap_cons, address, found]
      exact ih s
    | some e =>
      rw [List.filterMap_cons, address, found]
      show Account t q (e.address :: _) s _
      dsimp only
      cases outcome : (s.contact t q i e).1 with
      | ok a =>
        refine .of_decided (outcome ▸ rfl) rfl rfl (congrArg Except.ok outcome.symm)
          (.inl ⟨a, found, outcome, ?_⟩)
        exact congrArg (fun s : Selection => { s with order := i :: s.order.erase i })
          (selection_contact_of_ok outcome)
      | error f =>
        dsimp only
        by_cases more : f.isConnectivity = true
        · rw [if_pos more]
          have after := ih { (s.contact t q i e).2 with failure := some f }
          have same : (s.contact t q i e).2.selection.endpoints.addresses
              = s.selection.endpoints.addresses :=
            congrArg (·.endpoints.addresses) (selection_contact_of_error found outcome)
          exact .of_failed found outcome more (same ▸ after)
        · rw [if_neg more]
          refine .of_decided ?_ rfl rfl (congrArg Except.ok outcome.symm) (.inr ⟨?_, ?_⟩)
          · rw [outcome]
            exact Bool.eq_false_iff.2 more
          · exact Reply.not_answered_of_result rfl
          · exact selection_contact_of_error found outcome

end Search

/-! ## Every exhaustive call after every history -/

namespace Selection

/-- Writing the order down changes nothing but the order. -/
theorem with_ordered (s : Selection) (f : EndpointSet → EndpointSet) (g : List Nat → List Nat) :
    { s.ordered with endpoints := f s.ordered.endpoints, order := g s.ordered.order }
      = { s with endpoints := f s.endpoints, order := g s.ordered.order } := by
  unfold ordered
  split <;> rfl

variable {σ : Type} (t : Transport σ) (q : Request) (s : Selection) (w : World σ)

/-- **An exhaustive call is a sweep of its order.** -/
theorem account_sendAll :
    Search.Account t q s.exhaustiveOrder (.start s.ordered w) (s.sendAll t q w) := by
  rw [exhaustiveOrder_eq_filterMap, ← endpoints_ordered]
  exact Search.account_attempts t q s.ordered.order (.start s.ordered w)

theorem contacts_sendAll :
    (s.sendAll t q w).contacts = (t.sweep q s.exhaustiveOrder w).1 :=
  (s.account_sendAll t q w).told

theorem random_sendAll : (s.sendAll t q w).world.random = w.random := by
  rw [(s.account_sendAll t q w).world]
  exact t.random_sweep q s.exhaustiveOrder w

variable {t q s w}

/-- **An exhaustive call contacts somebody** if it has an order to go by. -/
theorem exists_getLast?_sendAll (some : s.exhaustiveOrder ≠ []) :
    ∃ c, (s.sendAll t q w).contacts.getLast? = .some c := by
  refine Option.isSome_iff_exists.1 (List.getLast?_isSome.2 ?_)
  rw [contacts_sendAll, Ne, Transport.sweep_eq_nil_iff]
  exact some

variable {a : IpAddr}

/-- **The outcome of the last contact is the result.** -/
theorem result_sendAll {o : Outcome} (last : (s.sendAll t q w).contacts.getLast? = some (a, o)) :
    (s.sendAll t q w).result = .ok o := by
  rw [contacts_sendAll] at last
  rw [(s.account_sendAll t q w).result]
  exact congrArg Except.ok (lastOutcome_of_getLast? last _)

/-- **An answer is recorded** with the endpoint that gave it, which comes to the
front. Nothing else changes. -/
theorem state_sendAll_of_ok {answer : Response}
    (last : (s.sendAll t q w).contacts.getLast? = some (a, .ok answer)) :
    ∃ i e, s.endpoints.get? i = some e ∧ e.address = a
      ∧ (s.sendAll t q w).state = { s with
          endpoints := s.endpoints.set i (e.succeeded (s.sendAll t q w).world.now)
          order := i :: s.ordered.order.erase i } := by
  obtain ⟨i, e, _, found, who, left⟩ | ⟨unanswered, _⟩ := (s.account_sendAll t q w).state
  · rw [contacts_sendAll] at last
    have same : e.address = a := congrArg Prod.fst (Option.some.inj (who.symm.trans last))
    refine ⟨i, e, endpoints_ordered s ▸ found, same, left.trans ?_⟩
    exact with_ordered s (·.set i (e.succeeded (s.sendAll t q w).world.now)) (i :: ·.erase i)
  · exact absurd ⟨answer, result_sendAll last⟩ unanswered

/-- **A failed call leaves nothing behind**, but the first one writes the order
down. -/
theorem state_sendAll_of_error {f : Failure}
    (last : (s.sendAll t q w).contacts.getLast? = some (a, .error f)) :
    (s.sendAll t q w).state = s.ordered := by
  obtain ⟨_, _, _, _, who, _⟩ | ⟨_, left⟩ := (s.account_sendAll t q w).state
  · rw [contacts_sendAll] at last
    exact nomatch who.symm.trans last
  · exact left

end Selection

namespace Manager

variable {σ τ : Type}

/-- **An exhaustive call contacts the shortest part of its order that decides.**
After every history, an exhaustive call either has no endpoints, and then it
contacts nobody and gives the failure to find them, or it sweeps its order, which
has every address of the set once: it asks one address after the other until one
gives an answer or a failure that is none of connectivity, and if none does it has
asked them all. The order, the network and the world decide alone what the contacts
are. The outcome of the last contact is the result, and no random word is drawn. An
answer changes the endpoint that gave it, which has succeeded at the instant at
which the call ends, and brings it to the front of the order. A failure changes
nothing at all, except that the first call writes the order down. -/
theorem exhaustive_call_sweeps (v : Service σ) (ops : List Operation) (w₀ : World σ)
    (u : Service τ) (q : Request) (w : World τ) :
    let m := (Scene.history v ops w₀).manager
    let r := m.sendAll u q w
    (∃ f, (m.resolve u w).1 = .failed f ∧ r.contacts = [] ∧ r.result = .ok (.error f))
      ∨ ∃ s a o, (m.resolve u w).1 = .ready s
        ∧ s.exhaustiveOrder.Perm s.endpoints.addresses ∧ s.exhaustiveOrder.Nodup
        ∧ r.contacts = (u.transport.sweep q s.exhaustiveOrder (m.resolve u w).2.2).1
        ∧ Sweeps s.exhaustiveOrder r.contacts
        ∧ r.contacts.getLast? = some (a, o) ∧ r.result = .ok o
        ∧ r.world.random = (m.resolve u w).2.2.random
        ∧ (∀ answer, o = .ok answer → ∃ i e, s.endpoints.get? i = some e ∧ e.address = a
          ∧ r.state = .ready { s with
              endpoints := s.endpoints.set i (e.succeeded r.world.now)
              order := i :: s.ordered.order.erase i }
          ∧ r.state.exhaustiveOrder = a :: s.exhaustiveOrder.filter (· ≠ a))
        ∧ (∀ f, o = .error f → r.state = .ready { s with order := s.ordered.order }
          ∧ (s.order ≠ [] → s.ordered.order = s.order)
          ∧ r.state.exhaustiveOrder = s.exhaustiveOrder) := by
  intro m r
  have sound : m.Sound v.settings := Scene.sound_history v ops w₀
  have ranked : m.Ranked ([] ++ Scene.exhaustiveAnswers v ops (.start w₀)) :=
    Scene.ranked_run ops (s := .start w₀) rfl (sound_unresolved v.settings)
  cases hm : (m.resolve u w).1 with
  | unresolved => exact absurd hm (resolve_ne_unresolved u m w)
  | failed f =>
    have hr : r.result = .ok (.error f) := congrArg Reply.result (sendIn_of_failed q hm)
    exact .inl ⟨f, rfl, contacts_sendIn_of_failed q hm, hr⟩
  | ready s =>
    have tells : r.Tells (s.sendAll u.transport q (m.resolve u w).2.2) := tells_sendIn q hm
    obtain ⟨settings, resolved⟩ := sound.exists_resolve u w
    have distinct : s.endpoints.addresses.Nodup := (resolved s hm).distinct
    have inOrder := ranked.resolve u w
    rw [hm] at inOrder
    have perm : s.exhaustiveOrder.Perm s.endpoints.addresses := inOrder.perm
    obtain ⟨⟨a, o⟩, last⟩ := Selection.exists_getLast?_sendAll (t := u.transport) (q := q)
      (w := (m.resolve u w).2.2) fun none => nomatch (none ▸ perm).nil_eq
    refine .inr ⟨s, a, o, rfl, perm, perm.nodup_iff.2 distinct, ?_, ?_, ?_, ?_, ?_, ?_, ?_⟩
    · exact tells.contacts.trans (s.contacts_sendAll u.transport q _)
    · rw [tells.contacts, Selection.contacts_sendAll]
      exact u.transport.sweeps_sweep q s.exhaustiveOrder _
    · exact tells.contacts ▸ last
    · exact tells.result.trans (Selection.result_sendAll last)
    · rw [tells.world]
      exact s.random_sendAll u.transport q _
    · rintro answer rfl
      obtain ⟨i, e, found, same, left⟩ := Selection.state_sendAll_of_ok last
      rw [tells.state, tells.world]
      refine ⟨i, e, found, same, congrArg ready left, ?_⟩
      have place : s.endpoints.addresses[i]? = some a := by
        rw [EndpointSet.getElem?_addresses, found, ← same]
        rfl
      exact Selection.exhaustiveOrder_of_promoted distinct
        (Selection.Ranked.perm_ordered inOrder |>.nodup_iff.2 List.nodup_range) place
        (Selection.addresses_sendIn u.transport q s _ .exhaustive) (congrArg Selection.order left)
    · rintro f rfl
      have left := Selection.state_sendAll_of_error last
      rw [tells.state, left]
      refine ⟨congrArg ready (s.with_ordered id id), fun filled => ?_, s.exhaustiveOrder_ordered⟩
      unfold Selection.ordered
      rw [if_neg filled]

end Manager

end Uplink
