import Uplink.Resolver
import Uplink.Selection

/-!
# The manager of a server

A manager stands for one server URL. It looks for the endpoints when the first
request is sent, and what it finds is final: a failure is given to every later
request, and a set of endpoints is kept for good. So a manager is in one of
three states, and only a set of endpoints has anything to select from.

Calls do not overlap. A call holds the manager from its start to its end, the
attempts included, so calls that start together run one after the other.
-/

namespace Uplink

/-- **The state of a manager.** -/
inductive Manager where
  /-- Nothing has been sent yet. -/
  | unresolved
  /-- The endpoints could not be found. -/
  | failed (failure : Failure)
  | ready (selection : Selection)
deriving DecidableEq, Repr

/-- What a manager is made for, and what it works with. -/
structure Service (σ : Type) where
  url : Url
  settings : CommunicationSettings
  resolver : Resolver
  transport : Transport σ

/-- What is reported about a manager. -/
structure ManagerStatus where
  serverUrl : Url
  resolved : Bool
  endpoints : List Endpoint.Status
  affinity : Option IpAddr
  breakerOpen : Bool
  breakerRemaining : Option Seconds
deriving DecidableEq, Repr

/-- The two ways to send a request. -/
inductive Mode where
  | affinity
  | exhaustive
deriving DecidableEq, Repr

namespace Selection

/-- Sends a request in a mode. -/
def sendIn {σ : Type} (mode : Mode) (t : Transport σ) (q : Request) (s : Selection)
    (w : World σ) : Reply σ Selection :=
  match mode with
  | .affinity => s.send t q w
  | .exhaustive => s.sendAll t q w

end Selection

namespace Manager

variable {σ : Type}

/-- **The manager with its endpoints looked for**, and what that did outside.
A manager that has looked before stays as it is. -/
def resolve (v : Service σ) (m : Manager) (w : World σ) : Manager × List Event × World σ :=
  match m with
  | unresolved =>
    let found := resolveEndpoints v.url v.settings v.resolver w.now w.random
    let m := match found.result with
      | .ok set => ready (.ofSet set)
      | .error f => failed f
    (m, found.events, { w with random := found.random })
  | m => (m, [], w)

/-- A call of a manager that has looked for its endpoints. -/
def sendResolved (v : Service σ) (mode : Mode) (q : Request) (m : Manager) (w : World σ) :
    Reply σ Manager :=
  match m with
  | unresolved => ⟨.ok (.error .unavailable), [], m, w⟩
  | failed f => ⟨.ok (.error f), [], m, w⟩
  | ready s => (s.sendIn mode v.transport q w).map ready

/-- **Sends a request in a mode.** -/
def sendIn (v : Service σ) (mode : Mode) (q : Request) (m : Manager) (w : World σ) :
    Reply σ Manager :=
  let (m, events, w) := m.resolve v w
  let reply := m.sendResolved v mode q w
  { reply with events := events ++ reply.events }

/-- **Sends a request with affinity.** -/
def send (v : Service σ) (q : Request) (m : Manager) (w : World σ) : Reply σ Manager :=
  m.sendIn v .affinity q w

/-- **Sends a request exhaustively.** -/
def sendAll (v : Service σ) (q : Request) (m : Manager) (w : World σ) : Reply σ Manager :=
  m.sendIn v .exhaustive q w

/-- The addresses in the order in which the next exhaustive call tries them;
none before the endpoints are known. -/
def exhaustiveOrder : Manager → List IpAddr
  | ready s => s.exhaustiveOrder
  | _ => []

/-- **The manager's state at an instant.** The breaker counts as open while
some of its window is left. -/
def status (v : Service σ) (m : Manager) (now : Instant) :
    Except ClockOverflow ManagerStatus :=
  match m with
  | ready s => do
    let remaining ← s.breaker.remaining now
    let endpoints ← s.endpoints.statuses now
    return { serverUrl := v.url, resolved := true, endpoints,
             affinity := s.affineAddress?,
             breakerOpen := remaining.any (· ≠ 0),
             breakerRemaining := remaining.map (· / 1000) }
  | _ =>
    return { serverUrl := v.url, resolved := false, endpoints := [], affinity := none,
             breakerOpen := false, breakerRemaining := none }

end Manager

end Uplink
