/-!
# Settings

What an operator may set, with the defaults that hold otherwise. Durations are
configured in whole minutes or seconds. A setting that would make the program
useless (a fail period of zero, a limit of zero bytes) is refused when a client
is built, not when it is read, and the first offending field is the one that is
reported: the fields are checked in the order in which they are declared.
-/

namespace Uplink

/-- Why settings are refused. -/
inductive SettingsError where
  /-- A field has a value that cannot be used. -/
  | invalidValue (field reason : String)
  /-- No HTTP client can be built with them. -/
  | clientBuild (reason : String)
deriving DecidableEq, Repr

/-- The text of an error. -/
def SettingsError.message : SettingsError → String
  | invalidValue field reason => s!"Invalid value for '{field}': {reason}"
  | clientBuild reason => s!"Failed to build HTTP client: {reason}"

/-- Failover and liveness settings of one management server. -/
structure CommunicationSettings where
  /-- Use every address of the host, not just the first. -/
  supportsMultiEndpoint : Bool := false
  /-- How long an endpoint without a success counts as up. -/
  failPeriodMinutes : UInt64 := 5
  /-- The width of the random part of a down period. -/
  downPeriodIntervalMinutes : UInt64 := 10
  /-- The least down period. -/
  minDownPeriodMinutes : UInt64 := 5
  /-- How many requests one connection may carry. -/
  maxRequestsPerConnection : UInt32 := 100
deriving DecidableEq, Repr, Inhabited

/-- Settings of the HTTP client. -/
structure HttpSettings where
  connectTimeoutSeconds : UInt64 := 10
  socketTimeoutSeconds : UInt64 := 30
  userAgent : String := "agent-transport/1.5.0"
  proxyUrl : Option String := none
  /-- The largest response body that is accepted. -/
  maxResponseBytes : UInt64 := 4 * 1024 * 1024
deriving DecidableEq, Repr, Inhabited

/-- Everything a client needs besides the server's URL. -/
structure ClientSettings where
  communication : CommunicationSettings := {}
  http : HttpSettings := {}
  agentToken : Option String := none
deriving DecidableEq, Repr, Inhabited

/-- Settings of an agent, as its configuration file gives them. -/
structure AgentSettings where
  serverUrl : String
  agentName : String
  agentToken : Option String := none
  heartbeatIntervalSeconds : UInt64 := 60
  /-- The status is logged with every such heartbeat. -/
  statusLogEvery : UInt64 := 10
  communication : CommunicationSettings := {}
  http : HttpSettings := {}
deriving DecidableEq, Repr, Inhabited

/-- Refuses a field unless a condition holds. -/
def SettingsError.unless (ok : Bool) (field reason : String) : Except SettingsError Unit :=
  if ok then .ok () else .error (.invalidValue field reason)

namespace CommunicationSettings

/-- The fail period in seconds. The product is exact; a machine that multiplies words
of 64 bits has it only below `UInt64.size`. For such a machine, what is proved of
runs is about settings below this bound. `validate` lets others pass as well. -/
def failPeriod (s : CommunicationSettings) : Nat :=
  s.failPeriodMinutes.toNat * 60

/-- **Checks the settings.** -/
def validate (s : CommunicationSettings) : Except SettingsError Unit := do
  SettingsError.unless (s.failPeriodMinutes != 0)
    "fail_period_minutes" "must be at least 1 minute"
  SettingsError.unless (s.maxRequestsPerConnection != 0)
    "max_requests_per_connection" "must be at least 1"

end CommunicationSettings

namespace HttpSettings

/-- **Checks the settings.** -/
def validate (s : HttpSettings) : Except SettingsError Unit := do
  SettingsError.unless (s.connectTimeoutSeconds != 0)
    "connect_timeout_seconds" "must be greater than zero"
  SettingsError.unless (s.socketTimeoutSeconds != 0)
    "socket_timeout_seconds" "must be greater than zero"
  SettingsError.unless (s.maxResponseBytes != 0)
    "max_response_bytes" "must be greater than zero"

end HttpSettings

namespace ClientSettings

/-- **Checks the settings**, communication first. -/
def validate (s : ClientSettings) : Except SettingsError Unit := do
  s.communication.validate
  s.http.validate

end ClientSettings

namespace AgentSettings

/-- The settings of the agent's client, which sends a given token. -/
def client (s : AgentSettings) (token : Option String) : ClientSettings :=
  { communication := s.communication, http := s.http, agentToken := token }

end AgentSettings

end Uplink
