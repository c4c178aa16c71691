import Uplink.Settings

/-!
# The fields of the settings

Settings are written in JSON and in TOML with the same field names, so the
names, kinds and defaults are stated once. A `Member` of a record is a single
value of some `Kind` or a section, a record of single values. Each member
carries the change that its value makes to the record.
-/

namespace Uplink.Settings

/-- What a single value is, and the change it makes to a record. -/
inductive Kind (ρ : Type) where
  | flag (set : Bool → ρ → ρ)
  /-- An integer from zero to below a bound. -/
  | number (bound : Nat) (set : Nat → ρ → ρ)
  | text (set : String → ρ → ρ)
  /-- A text that may be null, and may be missing. -/
  | optionalText (set : Option String → ρ → ρ)

/-- A single value of a record. -/
structure Leaf (ρ : Type) where
  name : String
  kind : Kind ρ
  /-- Whether it has to be given. -/
  required : Bool := false

/-- **A member of a record**: a single value or a section with defaults. -/
inductive Member (ρ : Type) : Type 1 where
  | leaf (leaf : Leaf ρ)
  | part (name : String) {τ : Type} (leaves : List (Leaf τ)) (default_ : τ)
      (set : τ → ρ → ρ)

/-- Numbers of 64 bits. -/
def word64 {ρ : Type} (set : UInt64 → ρ → ρ) : Kind ρ :=
  .number UInt64.size fun n => set (.ofNat n)

/-- Numbers of 32 bits. -/
def word32 {ρ : Type} (set : UInt32 → ρ → ρ) : Kind ρ :=
  .number UInt32.size fun n => set (.ofNat n)

/-- The values of the communication settings. -/
def communicationLeaves : List (Leaf CommunicationSettings) :=
  [ { name := "supports_multi_endpoint",
      kind := .flag fun x s => { s with supportsMultiEndpoint := x } },
    { name := "fail_period_minutes",
      kind := word64 fun x s => { s with failPeriodMinutes := x } },
    { name := "down_period_interval_minutes",
      kind := word64 fun x s => { s with downPeriodIntervalMinutes := x } },
    { name := "min_down_period_minutes",
      kind := word64 fun x s => { s with minDownPeriodMinutes := x } },
    { name := "max_requests_per_connection",
      kind := word32 fun x s => { s with maxRequestsPerConnection := x } } ]

/-- The values of the HTTP settings. -/
def httpLeaves : List (Leaf HttpSettings) :=
  [ { name := "connect_timeout_seconds",
      kind := word64 fun x s => { s with connectTimeoutSeconds := x } },
    { name := "socket_timeout_seconds",
      kind := word64 fun x s => { s with socketTimeoutSeconds := x } },
    { name := "user_agent", kind := .text fun x s => { s with userAgent := x } },
    { name := "proxy_url", kind := .optionalText fun x s => { s with proxyUrl := x } },
    { name := "max_response_bytes",
      kind := word64 fun x s => { s with maxResponseBytes := x } } ]

/-- The members of the client's settings. -/
def clientMembers : List (Member ClientSettings) :=
  [ .part "communication" communicationLeaves {} fun x s => { s with communication := x },
    .part "http" httpLeaves {} fun x s => { s with http := x },
    .leaf { name := "agent_token",
            kind := .optionalText fun x s => { s with agentToken := x } } ]

/-- The members of the agent's settings. -/
def agentMembers : List (Member AgentSettings) :=
  [ .leaf { name := "server_url", kind := .text fun x s => { s with serverUrl := x },
            required := true },
    .leaf { name := "agent_name", kind := .text fun x s => { s with agentName := x },
            required := true },
    .leaf { name := "agent_token",
            kind := .optionalText fun x s => { s with agentToken := x } },
    .leaf { name := "heartbeat_interval_seconds",
            kind := word64 fun x s => { s with heartbeatIntervalSeconds := x } },
    .leaf { name := "status_log_every",
            kind := word64 fun x s => { s with statusLogEvery := x } },
    .part "communication" communicationLeaves {} fun x s => { s with communication := x },
    .part "http" httpLeaves {} fun x s => { s with http := x } ]

end Uplink.Settings
