import Uplink.Breaker
import Uplink.EndpointSet

/-!
# Selecting endpoints

There are two ways to send a request.

*With affinity* (`send`) the endpoints are visited in a fixed order: the
preferred one, then the alternate that served the last request, then all
alternates in order of position. A visit checks the endpoint's health and tries
it if it may be tried. An alternate that answers on the last round becomes the
one with affinity; it loses affinity when the preferred endpoint answers, or
when it fails on its own visit. If all visits fail and there are alternates,
the breaker opens.

*Exhaustively* (`sendAll`) every endpoint is tried in an order of its own,
whatever its health and whatever the breaker says, and the one that answers
moves to the front of that order.

Both stop at the first answer and at the first failure that is none of
connectivity. A call under way is a `Search`, a visit turns it into another
`Search` or ends it with a `Reply`, and the list of visits is known when the
call starts, so the calls are recursions over that list.
-/

namespace Uplink

/-- **What is known about a server once its endpoints are.** -/
structure Selection where
  endpoints : EndpointSet
  /-- The position of the alternate that served the last request. -/
  affinity : Option Nat
  breaker : Breaker
  /-- The positions in the order of exhaustive calls, empty before the first. -/
  order : List Nat
deriving DecidableEq, Repr

/-- **How a call ends**: its result, what it did outside, and the state it
leaves. The call fails as a whole if an instant is beyond the clock. -/
structure Reply (σ ρ : Type) where
  result : Except ClockOverflow Outcome
  events : List Event
  state : ρ
  world : World σ

/-- The same reply about another state. -/
def Reply.map {σ ρ τ : Type} (f : ρ → τ) (r : Reply σ ρ) : Reply σ τ :=
  ⟨r.result, r.events, f r.state, r.world⟩

/-- One visit of a call with affinity. -/
inductive Visit where
  | preferred
  | affine (position : Nat)
  | scan (position : Nat)
deriving DecidableEq, Repr

/-- The position of the endpoint that is visited. -/
def Visit.position : Visit → Nat
  | preferred => 0
  | affine i | scan i => i

/-- The alternate with affinity after a visit that was answered. -/
def Visit.answered (affinity : Option Nat) : Visit → Option Nat
  | preferred => none
  | affine _ => affinity
  | scan i => some i

/-- The alternate with affinity after a visit that failed. -/
def Visit.failed (affinity : Option Nat) : Visit → Option Nat
  | affine _ => none
  | preferred | scan _ => affinity

/-- **A call under way**: the state so far, what has been done, which positions
have been contacted and how the last contact failed. -/
structure Search (σ : Type) where
  selection : Selection
  world : World σ
  events : List Event
  contacted : List Nat
  failure : Option Failure

namespace Search

variable {σ : Type}

/-- A call at its start. -/
def start (s : Selection) (w : World σ) : Search σ :=
  ⟨s, w, [], [], none⟩

/-- The end of a call. -/
def finish (s : Search σ) (result : Except ClockOverflow Outcome) : Reply σ Selection :=
  ⟨result, s.events, s.selection, s.world⟩

/-- The failure of a call without answer. -/
def lastFailure (s : Search σ) : Failure :=
  s.failure.getD .unavailable

/-- The search with another endpoint at a position. -/
def withEndpoint (s : Search σ) (i : Nat) (e : Endpoint) : Search σ :=
  { s with selection := { s.selection with endpoints := s.selection.endpoints.set i e } }

/-- The search with another alternate of affinity. -/
def withAffinity (s : Search σ) (affinity : Option Nat) : Search σ :=
  { s with selection := { s.selection with affinity } }

/-- **A contact with the endpoint at a position**: how it ended, and the search
after it. -/
def contact (t : Transport σ) (q : Request) (i : Nat) (e : Endpoint) (s : Search σ) :
    Outcome × Search σ :=
  let (outcome, e', w) := e.send t q s.world
  let event := Event.contact e.address q s.world.now w.now outcome
  ( outcome,
    { s.withEndpoint i e' with
      world := w, events := s.events ++ [event], contacted := i :: s.contacted } )

/-- What follows from an outcome: an answer and a failure that is none of
connectivity end the call, with different alternates of affinity. -/
def settle (s : Search σ) (outcome : Outcome) (answered failed : Option Nat) :
    Reply σ Selection ⊕ Search σ :=
  match outcome with
  | .ok r => .inl ((s.withAffinity answered).finish (.ok (.ok r)))
  | .error f =>
    if f.isConnectivity then .inr { s.withAffinity failed with failure := some f }
    else .inl (s.finish (.ok (.error f)))

/-- **One visit.** A position that the call has already contacted is passed
over, and so is an endpoint that may not be tried. -/
def visit (t : Transport σ) (q : Request) (v : Visit) (s : Search σ) :
    Reply σ Selection ⊕ Search σ :=
  if v.position ∈ s.contacted then .inr s
  else
    match s.selection.endpoints.get? v.position with
    | none => .inr s
    | some e =>
      match e.check s.world.now s.world.random with
      | .error o => .inl (s.finish (.error o))
      | .ok (available, e, random) =>
        let s := { s.withEndpoint v.position e with world := { s.world with random } }
        if available then
          let (outcome, s) := s.contact t q v.position e
          let affinity := s.selection.affinity
          s.settle outcome (v.answered affinity) (v.failed affinity)
        else .inr s

/-- The end of a call whose visits have all failed: with alternates the breaker
opens for a down period of the preferred endpoint. -/
def exhausted (s : Search σ) : Reply σ Selection :=
  if s.selection.endpoints.alternates = [] then s.finish (.ok (.error s.lastFailure))
  else
    let (period, random) := s.selection.endpoints.preferred.sampleDownPeriod s.world.random
    let breaker := Breaker.open s.world.now period
    { s with
      selection := { s.selection with breaker }
      world := { s.world with random } }.finish (.ok (.error s.lastFailure))

/-- **The visits of a call, one after the other.** -/
def visits (t : Transport σ) (q : Request) : List Visit → Search σ → Reply σ Selection
  | [], s => s.exhausted
  | v :: vs, s =>
    match s.visit t q v with
    | .inl reply => reply
    | .inr s => s.visits t q vs

/-- The exhaustive order after an answer from a position. -/
def promote (s : Search σ) (i : Nat) : Search σ :=
  { s with selection := { s.selection with order := i :: s.selection.order.erase i } }

/-- **Positions tried one after the other**, whatever their health. -/
def attempts (t : Transport σ) (q : Request) : List Nat → Search σ → Reply σ Selection
  | [], s => s.finish (.ok (.error s.lastFailure))
  | i :: rest, s =>
    match s.selection.endpoints.get? i with
    | none => s.attempts t q rest
    | some e =>
      let (outcome, s) := s.contact t q i e
      match outcome with
      | .ok r => (s.promote i).finish (.ok (.ok r))
      | .error f =>
        if f.isConnectivity then { s with failure := some f }.attempts t q rest
        else s.finish (.ok (.error f))

end Search

namespace Selection

variable {σ : Type}

/-- The state in which a set of endpoints starts. -/
def ofSet (endpoints : EndpointSet) : Selection :=
  ⟨endpoints, none, .closed, []⟩

/-- The positions of the alternates. -/
def alternatePositions (s : Selection) : List Nat :=
  (List.range s.endpoints.alternates.length).map (· + 1)

/-- **The visits of a call with affinity**, in order. -/
def plan (s : Selection) : List Visit :=
  .preferred :: s.affinity.toList.map .affine ++ s.alternatePositions.map .scan

/-- The state that a request finds when it is let through. A breaker whose
window is over closes, and then every endpoint gets a fresh fail period: the
window covers the endpoints' own down periods. -/
def admitted (s : Selection) (now : Instant) : Selection :=
  match s.breaker with
  | .closed => s
  | .open .. => { s with breaker := .closed, endpoints := s.endpoints.rearm now }

/-- **Sends a request with affinity.** -/
def send (t : Transport σ) (q : Request) (s : Selection) (w : World σ) :
    Reply σ Selection :=
  if s.breaker.blocks w.now then ⟨.ok (.error .unavailable), [], s, w⟩
  else
    let s := s.admitted w.now
    (Search.start s w).visits t q s.plan

/-- The state with an exhaustive order: at first, the order of positions. -/
def ordered (s : Selection) : Selection :=
  if s.order = [] then { s with order := List.range s.endpoints.size } else s

/-- **Sends a request exhaustively.** -/
def sendAll (t : Transport σ) (q : Request) (s : Selection) (w : World σ) :
    Reply σ Selection :=
  let s := s.ordered
  (Search.start s w).attempts t q s.order

/-- The addresses in the order in which the next exhaustive call tries them. -/
def exhaustiveOrder (s : Selection) : List IpAddr :=
  if s.order = [] then s.endpoints.addresses
  else s.order.filterMap fun i => (s.endpoints.get? i).map Endpoint.address

/-- The address of the alternate with affinity. -/
def affineAddress? (s : Selection) : Option IpAddr :=
  s.affinity.bind fun i => (s.endpoints.get? i).map Endpoint.address

end Selection

end Uplink
