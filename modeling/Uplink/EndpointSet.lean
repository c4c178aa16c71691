import Uplink.Endpoint
import Uplink.Random.Shuffle

/-!
# Endpoint sets

The addresses of one server: the preferred one first, then the alternates in
the order in which they are tried. There is always a preferred endpoint, so the
type holds one, and a position is a number with the preferred endpoint at 0.

The order of the alternates is shuffled when the set is made, so that agents
which start together do not all turn to the same alternate.
-/

namespace Uplink

/-- **The endpoints of a server**, the preferred one apart. -/
structure EndpointSet where
  preferred : Endpoint
  alternates : List Endpoint
deriving DecidableEq, Repr

namespace EndpointSet

/-- The endpoints in order of position. -/
def toList (s : EndpointSet) : List Endpoint :=
  s.preferred :: s.alternates

/-- How many endpoints there are. -/
def size (s : EndpointSet) : Nat :=
  s.alternates.length + 1

/-- The endpoint at a position. -/
def get? (s : EndpointSet) : Nat → Option Endpoint
  | 0 => some s.preferred
  | i + 1 => s.alternates[i]?

/-- The set with another endpoint at a position. -/
def set (s : EndpointSet) : Nat → Endpoint → EndpointSet
  | 0, e => { s with preferred := e }
  | i + 1, e => { s with alternates := s.alternates.set i e }

/-- The addresses in order of position. -/
def addresses (s : EndpointSet) : List IpAddr :=
  s.toList.map Endpoint.address

/-- The set with something done to every endpoint. -/
def map (f : Endpoint → Endpoint) (s : EndpointSet) : EndpointSet :=
  ⟨f s.preferred, s.alternates.map f⟩

/-- Every endpoint with a fresh fail period. -/
def rearm (s : EndpointSet) (now : Instant) : EndpointSet :=
  s.map (·.rearm now)

/-- The state of every endpoint at an instant. -/
def statuses (s : EndpointSet) (now : Instant) :
    Except ClockOverflow (List Endpoint.Status) := do
  let preferred ← s.preferred.status .preferred now
  let alternates ← s.alternates.mapM fun e => e.status .alternate now
  return preferred :: alternates

/-! ## Making a set -/

/-- Addresses without repetitions, each at its first place. -/
def distinct : List IpAddr → List IpAddr
  | [] => []
  | a :: rest => a :: (distinct rest).filter (· ≠ a)

/-- The order in which addresses are tried: the first one, and after it the
others shuffled, or none of them if one endpoint is all that is wanted. Two
addresses leave nothing to shuffle. -/
def arrange (multi : Bool) (addresses : List IpAddr) (r : Random) :
    List IpAddr × Random :=
  match distinct addresses with
  | [] => ([], r)
  | first :: others =>
    if multi then
      let (others, r) := r.shuffle others
      (first :: others, r)
    else ([first], r)

/-- **The set of some addresses**, none if there is no address. -/
def ofAddresses? (addresses : List IpAddr) (settings : CommunicationSettings)
    (now : Instant) (r : Random) : Option EndpointSet × Random :=
  match arrange settings.supportsMultiEndpoint addresses r with
  | ([], r) => (none, r)
  | (first :: others, r) =>
    ( some ⟨.new first settings now, others.map (Endpoint.new · settings now)⟩, r )

/-! ## The view as a list -/

@[simp] theorem length_toList (s : EndpointSet) : s.toList.length = s.size := rfl

@[simp] theorem getElem?_toList (s : EndpointSet) (i : Nat) : s.toList[i]? = s.get? i := by
  cases i <;> rfl

@[simp] theorem toList_set (s : EndpointSet) (i : Nat) (e : Endpoint) :
    (s.set i e).toList = s.toList.set i e := by
  cases i <;> rfl

@[simp] theorem toList_map (f : Endpoint → Endpoint) (s : EndpointSet) :
    (s.map f).toList = s.toList.map f := rfl

@[simp] theorem size_set (s : EndpointSet) (i : Nat) (e : Endpoint) :
    (s.set i e).size = s.size := by
  rw [← length_toList, toList_set, List.length_set, length_toList]

end EndpointSet

end Uplink
