import Uplink.Json.Text
import Uplink.Manager

/-!
# The status report

A manager's status as one line of JSON, for the log: the server and its
endpoints, the alternate with affinity, and the breaker. Addresses are in their
canonical text, times in whole seconds.
-/

namespace Uplink

open Json

/-- The name of an endpoint's part. -/
def Endpoint.Role.name : Endpoint.Role → String
  | preferred => "preferred"
  | alternate => "alternate"

/-- An endpoint's state in JSON. -/
def Endpoint.Status.json (s : Endpoint.Status) : List Char :=
  Text.object
    [ ("address", Text.string s.address.text),
      ("role", Text.string s.role.name.toList),
      ("is_down", Text.bool s.isDown),
      ("seconds_since_success", Text.nat s.secondsSinceSuccess),
      ("down_remaining_seconds", Text.option (s.downRemaining.map Text.nat)) ]

namespace ManagerStatus

/-- **A manager's status in JSON.** -/
def json (s : ManagerStatus) : List Char :=
  Text.object
    [ ("server_url", Text.string s.serverUrl.text),
      ("resolved", Text.bool s.resolved),
      ("endpoints", Text.array (s.endpoints.map Endpoint.Status.json)),
      ("sticky_alternate", Text.option (s.affinity.map fun a => Text.string a.text)),
      ("breaker_open", Text.bool s.breakerOpen),
      ("breaker_remaining_seconds", Text.option (s.breakerRemaining.map Text.nat)) ]

/-- The line that is logged. -/
def line (s : ManagerStatus) : String :=
  String.ofList ("Transport status: ".toList ++ s.json)

end ManagerStatus

end Uplink
