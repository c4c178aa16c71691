import Uplink.Http.Client
import Uplink.Manager
import Uplink.Url.Parser

/-!
# The client of a server

A client turns paths into requests. A path is resolved against the base URL
like a link on a page, after its leading slashes are taken away, so that it
stays below the base's path; for the same reason the base's path ends with a
slash. Every request carries the agent's token in a header.

A client is made for a `http` or `https` URL with a host. Copies of a client
are values of their own, but the manager they send through is one: its state is
not part of the client.
-/

namespace Uplink

/-- The header that carries the agent's token. -/
def tokenHeader : String := "X-Agent-Token"

/-- **What makes a request out of a path.** -/
structure Client where
  base : Url
  headers : Fields
deriving DecidableEq, Repr

namespace Client

/-- A client for a base URL, with the token it sends. -/
def ofUrl (base : Url) (token : Option String) : Client where
  base := base.withTrailingSlash
  headers := match token with
    | some token => Fields.empty.set tokenHeader token
    | none => .empty

/-- Sends another token from now on. -/
def setToken (c : Client) (token : String) : Client :=
  { c with headers := c.headers.set tokenHeader token }

/-- **The URL of a path.** -/
def urlFor (c : Client) (path : String) : Except Failure Url :=
  match c.base.join (path.toList.dropWhile (· == '/')) with
  | .ok u => .ok u
  | .error e => .error (.invalidUrl (c.base.toString ++ path) e.message)

/-- **A request for a path**, with the client's headers. -/
def request (c : Client) (method : Method) (path : String) : Except Failure Request := do
  return { method, url := ← c.urlFor path, headers := c.headers }

/-- A request that posts form parameters. -/
def postRequest (c : Client) (path : String) (params : List (String × String)) :
    Except Failure Request := do
  let q ← c.request .post path
  return { q with params := q.params.setAll params }

/-- Sends the request that a client made of a path. A path that cannot be
resolved ends the call before the manager is asked. -/
def call {σ : Type} (v : Service σ) (mode : Mode) (q : Except Failure Request) (m : Manager)
    (w : World σ) : Reply σ Manager :=
  match q with
  | .ok q => m.sendIn v mode q w
  | .error f => ⟨.ok (.error f), [], m, w⟩

/-- **Reads the URL of a server.** -/
def serverUrl (text : String) : Except SettingsError Url :=
  match Url.ofText text with
  | .error e => .error (.invalidValue "server_url" e.message)
  | .ok u =>
    if (u.scheme = "http".toList ∨ u.scheme = "https".toList) ∧ u.host?.isSome then .ok u
    else .error (.invalidValue "server_url" s!"'{text}' is not an http(s) URL with a host")

/-- What a client is made of: the server's URL, the client itself, and the HTTP
client that its manager sends with. -/
structure Built where
  server : Url
  client : Client
  http : Http.Client
deriving DecidableEq, Repr

/-- **Makes a client from settings.** They are checked before the URL is read,
and the URL before the HTTP client is built. -/
def new (server : String) (settings : ClientSettings) : Except SettingsError Built := do
  settings.validate
  let url ← serverUrl server
  let http ← Http.Client.build settings.http settings.communication
  return { server := url, client := ofUrl url settings.agentToken, http }

end Client

end Uplink
