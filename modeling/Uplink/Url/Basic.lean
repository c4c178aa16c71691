import Uplink.Url.Host

/-!
# URLs

A `Url` holds the components of a URL in their written form: every component
is already escaped, the host is canonical, and the port is there only if it is
not the scheme's own. So equal URLs have equal text and writing a URL
(`Url.text`) is concatenation.

The path has two shapes. A *rooted* path is a list of segments, each written
after a slash; relative references act on the segments. A *rootless* path, as
in `data:,x`, is plain text, and no reference but a fragment resolves against
it.

An empty user name or password is no different from an absent one, so both are
plain texts here.
-/

namespace Uplink

/-- The part of a URL after two slashes: who, where, and on which port. -/
structure Authority where
  username : List Char
  password : List Char
  host : Host
  port : Option UInt16
deriving DecidableEq, Repr

/-- The path of a URL. -/
inductive UrlPath where
  | rootless (text : List Char)
  | rooted (segments : List (List Char))
deriving DecidableEq, Repr

/-- **A URL**, by its components. -/
structure Url where
  scheme : List Char
  authority : Option Authority
  path : UrlPath
  query : Option (List Char)
  fragment : Option (List Char)
deriving DecidableEq, Repr

namespace Authority

/-- User name and password as a URL writes them: a colon only before a
password, an at sign only after something. -/
def userinfo (a : Authority) : List Char :=
  if a.username = [] ∧ a.password = [] then []
  else if a.password = [] then a.username ++ ['@']
  else a.username ++ ':' :: a.password ++ ['@']

/-- Whether a name or password is text once its escapes are read. -/
def isReadable (t : List Char) : Bool :=
  (Utf8.decode? (Url.Percent.decode t)).isSome

/-- **Whether a client can log in with what stands here.** The user name has to
be text, and where it is empty there has to be a password that is text. -/
def hasCredentials (a : Authority) : Bool :=
  isReadable a.username && (!a.username.isEmpty || !a.password.isEmpty && isReadable a.password)

/-- The port as a URL writes it. -/
def portText (a : Authority) : List Char :=
  match a.port with
  | none => []
  | some p => ':' :: Ascii.decimal p.toNat

/-- The written form, without the slashes. -/
def text (a : Authority) : List Char :=
  a.userinfo ++ a.host.text ++ a.portText

end Authority

namespace UrlPath

/-- **The written form of a path.** -/
def text : UrlPath → List Char
  | rootless t => t
  | rooted segments => segments.flatMap ('/' :: ·)

@[simp] theorem text_rooted_nil : (rooted []).text = [] := rfl

@[simp] theorem text_rooted_cons (s : List Char) (segments : List (List Char)) :
    (rooted (s :: segments)).text = '/' :: s ++ (rooted segments).text := rfl

theorem text_rooted_append (ss ts : List (List Char)) :
    (rooted (ss ++ ts)).text = (rooted ss).text ++ (rooted ts).text := by
  simp [text]

end UrlPath

namespace Url

/-- The port that a scheme stands for. -/
def defaultPort? (scheme : List Char) : Option UInt16 :=
  if scheme = "http".toList ∨ scheme = "ws".toList then some 80
  else if scheme = "https".toList ∨ scheme = "wss".toList then some 443
  else if scheme = "ftp".toList then some 21
  else none

/-- The host, unless there is none or its name is empty. -/
def host? (u : Url) : Option Host :=
  match u.authority with
  | none => none
  | some a => if a.host = .domain [] then none else some a.host

/-- The port in use, explicit or the scheme's own. -/
def port? (u : Url) : Option UInt16 :=
  (u.authority.bind Authority.port).or (defaultPort? u.scheme)

/-- What stands between the scheme and the path. Without authority, a path
that starts with two slashes would be read as one, so `/.` keeps them apart. -/
def authorityText (u : Url) : List Char :=
  match u.authority, u.path with
  | some a, _ => '/' :: '/' :: a.text
  | none, .rooted ([] :: _ :: _) => ['/', '.']
  | none, _ => []

/-- A component with the character that announces it. -/
def component (announce : Char) : Option (List Char) → List Char
  | none => []
  | some t => announce :: t

/-- **The text of a URL.** -/
def text (u : Url) : List Char :=
  u.scheme ++ ':' :: u.authorityText ++ u.path.text
    ++ component '?' u.query ++ component '#' u.fragment

/-- The text of a URL, as a string. -/
def toString (u : Url) : String :=
  String.ofList u.text

instance : ToString Url := ⟨Url.toString⟩

/-- The URL that is left when a client takes the credentials out of it. What
is no credentials stays. -/
def withoutCredentials (u : Url) : Url :=
  { u with authority := u.authority.map fun a =>
      if a.hasCredentials then { a with username := [], password := [] } else a }

end Url

end Uplink
