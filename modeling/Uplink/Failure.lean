/-!
# Failures of a request

Every request ends in a response or in one `Failure`. The kind of a failure
decides what happens next: after a *connectivity* failure another endpoint may
succeed, so it is tried; after any other failure it would be of no use. An
unknown host is no connectivity failure, because no endpoint was reached for.
-/

namespace Uplink

/-- **Why a request has no response.** -/
inductive Failure where
  /-- The server's URL cannot be used. -/
  | invalidUrl (url reason : String)
  /-- The host has no known address. -/
  | unknownHost (host reason : String)
  /-- The endpoint gave no response. -/
  | connection (endpoint reason : String)
  /-- The endpoint answered that it cannot serve. -/
  | notReachable (endpoint : String) (status : UInt16)
  /-- The endpoint denied the agent. -/
  | unauthorized (endpoint : String)
  /-- No endpoint is available. -/
  | unavailable
deriving DecidableEq, Repr

namespace Failure

/-- Whether another endpoint may succeed where this one failed. -/
def isConnectivity : Failure → Bool
  | connection .. | notReachable .. => true
  | _ => false

/-- Whether the agent was denied. -/
def isUnauthorized : Failure → Bool
  | unauthorized _ => true
  | _ => false

/-- Whether there was no endpoint to try. -/
def isUnavailable : Failure → Bool
  | unavailable => true
  | _ => false

/-- The text of a failure. -/
def message : Failure → String
  | invalidUrl url reason => s!"Invalid server URL '{url}': {reason}"
  | unknownHost host reason => s!"Unknown host '{host}': {reason}"
  | connection endpoint reason => s!"Connection to {endpoint} failed: {reason}"
  | notReachable endpoint status =>
    s!"Server {endpoint} not reachable (HTTP {status})"
  | unauthorized endpoint => s!"Agent not authorized by server {endpoint}"
  | unavailable => "Service unavailable"

end Failure

end Uplink
