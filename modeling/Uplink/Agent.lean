import Uplink.Client

/-!
# The agent

An agent registers once and then sends heartbeats. Registering tries every
endpoint, since any of them will do; heartbeats go with affinity.

Heartbeats are numbered from 1. A number is taken before the request is made,
whatever comes of it, so a heartbeat that fails leaves a gap that the server can
see. Numbers are words of 64 bits: no number is used twice before all of them
have been.

The time that a request carries is given by the caller as text. An agent without
a configured token makes one up: 128 random bits in the form of a UUID of version
4. Six of the bits say just that, and the other 122 are left as they came.
-/

namespace Uplink

/-! ## Fresh tokens -/

namespace Token

/-- How many bytes a token is made of. -/
def size : Nat := 16

/-- The bytes with the version and the variant put in their places. -/
def marked (bytes : List UInt8) : List UInt8 :=
  bytes.mapIdx fun i b =>
    if i = 6 then b &&& 0x0F ||| 0x40 else if i = 8 then b &&& 0x3F ||| 0x80 else b

/-- The two hexadecimal digits of a byte. -/
def hex (b : UInt8) : List Char :=
  [Nat.digitChar (b.toNat / 16), Nat.digitChar (b.toNat % 16)]

/-- **The token of random bytes**, with hyphens between its five groups. -/
def ofBytes (bytes : List UInt8) : String :=
  String.ofList <|
    (marked bytes).mapIdx (fun i b => if i ∈ [4, 6, 8, 10] then '-' :: hex b else hex b)
      |>.flatten

end Token

/-! ## Commands -/

/-- Why a command of the agent failed. -/
inductive CommandError where
  /-- The request had no answer. -/
  | failed (operation : String) (failure : Failure)
  /-- The server refused the registration. -/
  | rejected (status : UInt16) (text : String)
  /-- The server did not acknowledge a heartbeat. -/
  | unacknowledged (sequence : UInt64) (status : UInt16)
  /-- The client could not be made. -/
  | noClient (error : SettingsError)
deriving DecidableEq, Repr

/-- The text of an error. -/
def CommandError.message : CommandError → String
  | failed operation failure =>
    let text := failure.message
    if failure.isUnauthorized then s!"{operation} denied: check the agent token ({text})"
    else if failure.isUnavailable then s!"{operation} skipped: management server unavailable"
    else s!"{operation} failed: {text}"
  | rejected status text => s!"Registration rejected with status {status}: {text}"
  | unacknowledged sequence status => s!"Heartbeat #{sequence} answered with status {status}"
  | noClient error =>
    let text := error.message
    s!"Failed to create server client: {text}"

/-- **An agent**: its client, who it is, and the number of its last
heartbeat. -/
structure Agent where
  client : Client
  name : String
  token : String
  sequence : UInt64
deriving DecidableEq, Repr

/-- How a command of the agent ends. -/
structure Command (σ ρ : Type) where
  result : Except ClockOverflow (Except CommandError ρ)
  events : List Event
  agent : Agent
  manager : Manager
  world : World σ

namespace Agent

/-- The path of a registration. -/
def registerPath : String := "registerAgent"

/-- The path of a heartbeat. -/
def pingPath : String := "ping"

/-- An agent that has sent nothing yet. -/
def ofClient (client : Client) (name token : String) : Agent :=
  ⟨client, name, token, 0⟩

/-- **An agent made from its settings.** Without a configured token it has the
given fresh one. The client sends the agent's token. -/
def new (settings : AgentSettings) (fresh : String) :
    Except CommandError (Agent × Client.Built) :=
  let token := settings.agentToken.getD fresh
  match Client.new settings.serverUrl (settings.client (some token)) with
  | .error e => .error (.noClient e)
  | .ok built => .ok (ofClient built.client settings.agentName token, built)

/-- **Registers the agent.** -/
def register {σ : Type} (v : Service σ) (time : String) (a : Agent) (m : Manager)
    (w : World σ) : Command σ Unit :=
  let q := a.client.postRequest registerPath
    [("agentName", a.name), ("agentToken", a.token), ("registeredAt", time)]
  let reply := Client.call v .exhaustive q m w
  let result := reply.result.map fun
    | .error f => .error (.failed "Registration" f)
    | .ok r => if r.isSuccess then .ok () else .error (.rejected r.status r.text)
  ⟨result, reply.events, a, reply.state, reply.world⟩

/-- **Sends a heartbeat** and gives its number. The number after the last word is
zero. -/
def ping {σ : Type} (v : Service σ) (time : String) (a : Agent) (m : Manager)
    (w : World σ) : Command σ UInt64 :=
  let n := a.sequence + 1
  let q := a.client.postRequest pingPath
    [("agentToken", a.token), ("sequence", toString n), ("sentAt", time)]
  let reply := Client.call v .affinity q m w
  let result := reply.result.map fun
    | .error f => .error (.failed "Heartbeat" f)
    | .ok r => if r.isSuccess then .ok n else .error (.unacknowledged n r.status)
  ⟨result, reply.events, { a with sequence := n }, reply.state, reply.world⟩

end Agent

end Uplink
