import Uplink.Proofs.Health
import Uplink.Selection

/-!
# Contacts

A call tells what it did as a list of events. The contacts among them are what
the statements about calls speak of: whom was the request sent to, and how did
it end there. A contact that ends in a failure of connectivity leaves the
request to the next endpoint, and any other end is the end of the call.

Positions are kept beside the addresses. A call works with positions, the
network with addresses, and the two say the same as long as no address occurs
twice in the set. `Recorded` is that book-keeping: what a call has changed so
far is the health of endpoints, and its events are the contacts it has made.
-/

namespace Uplink

/-- Whether an outcome leaves the request to the next endpoint: a failure of
connectivity. -/
def Outcome.isConnectivity : Outcome → Bool
  | .ok _ => false
  | .error f => f.isConnectivity

/-- The address and the outcome of a contact. -/
def Event.told? : Event → Option (IpAddr × Outcome)
  | .contact address _ _ _ outcome => some (address, outcome)
  | .lookup .. => none

/-- **The contacts of a call**, in order, with their outcomes. -/
def Reply.contacts {σ ρ : Type} (r : Reply σ ρ) : List (IpAddr × Outcome) :=
  r.events.filterMap Event.told?

/-- **The call is cut off by the clock**: it needed an instant that the clock
cannot show. -/
def Reply.CutOff {σ ρ : Type} (r : Reply σ ρ) : Prop :=
  r.result = .error .beyondRange

/-- **A contact**: the position that was tried, its address, and the outcome. -/
structure Contact where
  position : Nat
  address : IpAddr
  outcome : Outcome

/-- What the events of a call tell about a contact. -/
def Contact.told (c : Contact) : IpAddr × Outcome :=
  (c.address, c.outcome)

/-- **The outcome of a list of contacts**: that of the last one, and without
any contact no endpoint was available. -/
def verdict (trail : List Contact) : Outcome :=
  (trail.getLast?.map Contact.outcome).getD (.error .unavailable)

@[simp] theorem verdict_concat (trail : List Contact) (c : Contact) :
    verdict (trail ++ [c]) = c.outcome := by
  unfold verdict
  rw [List.getLast?_concat]
  rfl

namespace Search

variable {σ : Type} {t : Transport σ} {q : Request}

/-! ## What a contact does to a search -/

section Contact

variable (t : Transport σ) (q : Request) (i : Nat) (e : Endpoint) (s : Search σ)

theorem endpoints_contact : (s.contact t q i e).2.selection.endpoints
    = s.selection.endpoints.set i (e.send t q s.world).2.1 := rfl

theorem breaker_contact :
    (s.contact t q i e).2.selection.breaker = s.selection.breaker := rfl

theorem affinity_contact :
    (s.contact t q i e).2.selection.affinity = s.selection.affinity := rfl

theorem contacted_contact : (s.contact t q i e).2.contacted = i :: s.contacted := rfl

theorem told_contact : (s.contact t q i e).2.events.filterMap Event.told?
    = s.events.filterMap Event.told? ++ [(e.address, (s.contact t q i e).1)] := by
  show (s.events ++ [_]).filterMap Event.told? = _
  rw [List.filterMap_append]
  rfl

theorem world_contact :
    (s.contact t q i e).2.world = (t.run q e.address s.world).2 :=
  Endpoint.world_send t q e s.world

/-- A contact changes no endpoint but the one it is made with. -/
theorem get?_contact_of_ne {j : Nat} (h : j ≠ i) :
    (s.contact t q i e).2.selection.endpoints.get? j = s.selection.endpoints.get? j := by
  rw [endpoints_contact, EndpointSet.get?_set, if_neg h]

end Contact

/-! ## The book-keeping -/

/-- **A search records its contacts**: told from the state it found, it has
changed nothing but the health of endpoints and the alternate with affinity,
and its events are its contacts. -/
structure Recorded (s₀ : Selection) (trail : List Contact) (s : Search σ) : Prop where
  bare : s.selection.endpoints.bare = s₀.endpoints.bare
  breaker : s.selection.breaker = s₀.breaker
  contacted : s.contacted = (trail.map Contact.position).reverse
  told : s.events.filterMap Event.told? = trail.map Contact.told
  located : ∀ c ∈ trail, s₀.endpoints.addresses[c.position]? = some c.address

variable {s₀ : Selection} {trail : List Contact} {s : Search σ}

theorem recorded_start (s₀ : Selection) (w : World σ) : Recorded s₀ [] (start s₀ w) where
  bare := rfl
  breaker := rfl
  contacted := rfl
  told := rfl
  located := fun _ hc => absurd hc List.not_mem_nil

/-- **A contact is recorded.** -/
theorem Recorded.contact (h : Recorded s₀ trail s) {i : Nat} {e : Endpoint}
    (found : s.selection.endpoints.get? i = some e) :
    Recorded s₀ (trail ++ [⟨i, e.address, (s.contact t q i e).1⟩])
      (s.contact t q i e).2 where
  bare := by
    rw [endpoints_contact, EndpointSet.bare_set found (Endpoint.bare_send t q e s.world)]
    exact h.bare
  breaker := h.breaker
  contacted := by
    rw [contacted_contact, h.contacted, List.map_append, List.reverse_append]
    rfl
  told := by
    rw [told_contact, h.told, List.map_append]
    rfl
  located := by
    intro c hc
    obtain hc | hc := List.mem_append.1 hc
    · exact h.located c hc
    · rw [List.mem_singleton.1 hc, ← EndpointSet.addresses_eq_of_bare h.bare,
        EndpointSet.getElem?_addresses, found]
      rfl

end Search

end Uplink
