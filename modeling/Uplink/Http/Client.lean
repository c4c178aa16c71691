import Uplink.Settings
import Uplink.Transport
import Uplink.Url.Parser

/-!
# The HTTP client

One attempt over HTTP: a request goes to an address, an answer's head comes
back, and its body is read piece by piece. The client adds three things of its
own.

It *counts* the requests for each pair of host and address, and every so many
of them asks the server to close the connection (`Pool.count`), so no
connection carries more than the configured number. The count is a 32-bit word
and starts again after the last one. A request is counted when it is made,
whether or not it can be sent.

It *refuses* a request that is no legal message: a bad header name or value, or
a scheme other than `http` and `https`. Nothing goes out then. A header name is a
token of HTTP. A header value may hold any bytes but control characters, so text
beyond ASCII passes. A proxy is given by a URL with a host; without a scheme it is
taken for an `http` URL.

It *bounds* the body (`readBody`). A body that is announced as too long is not
read, and reading stops with the first piece that passes the limit, so the
buffer never holds more than the limit.

Whatever goes wrong after that is a failed connection to the address.
-/

namespace Uplink.Http

/-- A request on its way to an address. -/
structure Outgoing where
  address : IpAddr
  request : Request
  /-- Whether the server is asked to close the connection afterwards. -/
  closing : Bool
deriving DecidableEq, Repr

/-- A read of a body that failed. -/
structure BrokenRead where
deriving DecidableEq, Repr

/-- One read of a body: the next piece of it, or none because the read failed. -/
abbrev Piece := Except BrokenRead (List UInt8)

/-- **What comes back**: nothing, or a head and the reads of a body. -/
inductive Answer where
  | nothing
  | head (status : UInt16) (headers : List Header) (announced : Option Nat)
      (body : List Piece)

/-- **A network**: it carries a request to an address and takes its time. -/
structure Network (τ : Type) where
  exchange : Outgoing → Instant → τ → Answer × Nat × τ

/-! ## What may be sent -/

/-- A character of a token. -/
def isTokenChar (c : Char) : Bool :=
  c.isAlphanum || "!#$%&'*+-.^_`|~".toList.contains c

/-- A legal header name. -/
def isLegalName (name : String) : Bool :=
  name.toList ≠ [] && name.toList.all isTokenChar

/-- A legal header value: no control characters but tabs. -/
def isLegalValue (value : String) : Bool :=
  value.toList.all fun c => c == '\t' || (0x20 ≤ c.toNat && c.toNat ≠ 0x7F)

/-- Whether a text names a proxy. -/
def isProxy (text : String) : Bool :=
  let hasHost (text : List Char) : Option Bool :=
    match Url.read none text with
    | .ok u => some u.host?.isSome
    | .error .noBase => some false
    | .error _ => none
  match hasHost text.toList with
  | some true => true
  | some false => hasHost ("http://".toList ++ text.toList) == some true
  | none => false

/-! ## Bodies -/

/-- Why a body is not accepted. -/
inductive BodyError where
  /-- It is longer than the limit: at least so many bytes. -/
  | tooLong (size : Nat)
  | broken
deriving DecidableEq, Repr

/-- **One piece more**: the buffer with it, unless the read has failed or the
piece passes the limit. -/
def accept (limit : Nat) (buffer : List UInt8) : Piece → Except BodyError (List UInt8)
  | .error _ => .error .broken
  | .ok piece =>
    if limit < buffer.length + piece.length then
      .error (.tooLong (buffer.length + piece.length))
    else .ok (buffer ++ piece)

/-- **A body read onto the bytes before it**, piece by piece. -/
def readBody (limit : Nat) (buffer : List UInt8) : List Piece → Except BodyError (List UInt8)
  | [] => .ok buffer
  | piece :: rest => do readBody limit (← accept limit buffer piece) rest

/-- A whole body: refused at once if it is announced as too long. -/
def wholeBody (limit : Nat) (announced : Option Nat) (pieces : List Piece) :
    Except BodyError (List UInt8) :=
  match announced with
  | some n => if limit < n then .error (.tooLong n) else readBody limit [] pieces
  | none => readBody limit [] pieces

/-! ## Connections -/

/-- What the requests for one host go to: the host's text and an address. -/
abbrev Pinned := List Char × IpAddr

/-- The counts of requests, and the network's state. -/
structure Pool (τ : Type) where
  counts : List (Pinned × UInt32)
  network : τ

namespace Pool

/-- How many requests have been made for a pair, as a word. -/
def countOf {τ : Type} (p : Pool τ) (key : Pinned) : UInt32 :=
  (p.counts.lookup key).getD 0

/-- **One more request for a pair**: its number, and the pool with the count. -/
def count {τ : Type} (p : Pool τ) (key : Pinned) : UInt32 × Pool τ :=
  let n := p.countOf key + 1
  (n, { p with counts := (key, n) :: p.counts.filter (·.1 ≠ key) })

end Pool

/-- **The client**: what its settings come to. -/
structure Client where
  maxRequests : UInt32
  maxResponseBytes : Nat
deriving DecidableEq, Repr

namespace Client

/-- **Builds a client from settings.** The proxy has to be one, and the user
agent has to be a legal header value. -/
def build (http : HttpSettings) (communication : CommunicationSettings) :
    Except SettingsError Client := do
  http.validate
  communication.validate
  if !http.proxyUrl.all isProxy then
    throw (.invalidValue "proxy_url" "builder error")
  if !isLegalValue http.userAgent then
    throw (.clientBuild "builder error")
  return { maxRequests := communication.maxRequestsPerConnection,
           maxResponseBytes := http.maxResponseBytes.toNat }

/-- Whether all headers of a request are legal. -/
def legalHeaders (q : Request) : Bool :=
  q.headers.entries.all fun h => isLegalName h.1 && isLegalValue h.2

/-- Why a request cannot be sent, if it cannot. The URL is shown without the
credentials it holds. -/
def unsendable? (q : Request) : Option String :=
  if !legalHeaders q then some "builder error"
  else if q.url.scheme = "http".toList ∨ q.url.scheme = "https".toList then none
  else some ("builder error for url (" ++ q.url.withoutCredentials.toString ++ ")")

/-- The reason given for a body that is not accepted. -/
def bodyReason (c : Client) : BodyError → String
  | .tooLong size =>
    let limit := c.maxResponseBytes
    s!"response body of at least {size} bytes exceeds limit of {limit} bytes"
  | .broken => "failed to read response body: error decoding response body"

/-- The outcome of an answer. -/
def outcome (c : Client) (q : Request) (address : IpAddr) : Answer → Outcome
  | .nothing =>
    .error (.connection address.toString
      ("error sending request for url (" ++ q.url.withoutCredentials.toString ++ ")"))
  | .head status headers announced body =>
    match wholeBody c.maxResponseBytes announced body with
    | .ok body => .ok { status, headers, body }
    | .error e => .error (.connection address.toString (c.bodyReason e))

/-- **One attempt over HTTP.** -/
def attempt {τ : Type} (c : Client) (net : Network τ) (q : Request) (address : IpAddr)
    (now : Instant) (p : Pool τ) : Attempt × Pool τ :=
  match q.url.host? with
  | none => (⟨.error (.invalidUrl q.url.toString "missing host"), 0⟩, p)
  | some host =>
    let (n, p) := p.count (host.text, address)
    match unsendable? q with
    | some reason => (⟨.error (.connection address.toString reason), 0⟩, p)
    | none =>
      let closing := n % c.maxRequests == 0
      let (answer, delay, network) := net.exchange ⟨address, q, closing⟩ now p.network
      (⟨c.outcome q address answer, delay⟩, { p with network })

/-- **The client as a transport** over a network. -/
def transport {τ : Type} (c : Client) (net : Network τ) : Transport (Pool τ) where
  attempt := c.attempt net

end Client

/-- The network on which nothing answers. -/
def Network.silent : Network Unit where
  exchange _ _ s := (.nothing, 0, s)

end Uplink.Http
