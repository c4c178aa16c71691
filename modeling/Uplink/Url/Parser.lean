import Uplink.Url.Path

/-!
# Reading URLs

A text is read alone or as a reference relative to a base URL (`Url.join`).
Reading follows the web's rules, which accept much that is not the written
form: control characters and blanks at the ends, tabs and line breaks anywhere,
backslashes for slashes where the web defines the scheme, escaped dots.

What the text leaves out comes from the base, from the left: a reference that
starts with two slashes takes the scheme, one with a single slash also the
authority, a plain one also the directory of the path. The schemes that the web
defines need a host and read any number of slashes before it; `file` is one of
them with rules of its own (no port, drives, an optional host).

Tabs and line breaks are taken out as soon as the scheme is known, except from
the URLs of files, whose paths may depend on them.
-/

namespace Uplink.Url

/-! ## Cutting the text -/

/-- A text without control characters and blanks at its ends. -/
def trimmed (cs : List Char) : List Char :=
  Ascii.trim (·.toNat ≤ 0x20) cs

/-- The scheme in lower case and the text after its colon, if the text starts
with one. -/
def scheme? (cs : List Char) : Option (List Char × List Char) :=
  let (name, rest) := Ascii.cut (· == ':') cs
  let name := unbroken name
  let isSchemeChar (c : Char) : Bool := c.isAlphanum || c == '+' || c == '-' || c == '.'
  match name, rest with
  | c :: _, _ :: rest =>
    if c.isAlpha && name.all isSchemeChar then some (Ascii.lower name, rest) else none
  | _, _ => none

/-- Query and fragment, from the character that announces the first of them
on. -/
def queryAndFragment (f : Family) (cs : List Char) : Option (List Char) × Option (List Char) :=
  let (query, rest) := Ascii.cut (· == '#') cs
  let set := if f.special then Percent.inWebQuery else Percent.inQuery
  ( match query with
    | _ :: query => some (Percent.encode set query)
    | [] => none,
    match rest with
    | _ :: fragment => some (Percent.encode Percent.inFragment fragment)
    | [] => none )

/-! ## Paths -/

/-- The segments of a path read onto those before it, and what follows the
path. -/
def Family.pathOnto (f : Family) (before : List (List Char)) (cs : List Char) :
    List (List Char) × List Char :=
  let (path, rest) := Ascii.cut endsPath cs
  (walk before (Ascii.splitOn f.isSeparator path), rest)

/-- **The path after an authority.** The slash that opens it is implied, and
for schemes outside the web an empty path stays empty. -/
def Family.pathAfterAuthority (f : Family) (cs : List Char) :
    List (List Char) × List Char :=
  match cs with
  | [] => if f.special then ([[]], []) else ([], [])
  | c :: rest =>
    if f.isSeparator c then f.pathOnto [] rest
    else if !f.special && endsPath c then ([], cs)
    else f.pathOnto [] cs

/-! ## Authorities -/

/-- User name, password and the rest of an authority. The last at sign ends
them; escapes keep the earlier ones. An at sign with nothing before it and no
host after it is refused. -/
def userinfo (f : Family) (cs : List Char) :
    Except UrlError (List Char × List Char × List Char) :=
  let (front, back) := Ascii.cut (fun c => f.isSeparator c || endsPath c) cs
  let pieces := Ascii.splitOn (· == '@') front
  let host := pieces.getLastD [] ++ back
  match pieces.dropLast with
  | [] => .ok ([], [], host)
  | before =>
    let text := ['@'].intercalate before
    if text = [] ∧ pieces.getLastD [] = [] ∧ back ≠ [] then .error .emptyHost
    else
      let (username, password) := Ascii.cut (· == ':') text
      .ok
        ( Percent.encode Percent.inUserinfo username,
          Percent.encode Percent.inUserinfo (password.drop 1),
          host )

/-- The text of a host: it ends before a colon that is not in brackets. -/
def hostText (f : Family) : Bool → List Char → List Char × List Char
  | _, [] => ([], [])
  | bracketed, c :: cs =>
    if (c == ':' && !bracketed) || f.isSeparator c || endsPath c then ([], c :: cs)
    else
      let (host, rest) := hostText f (c == '[' || (bracketed && c != ']')) cs
      (c :: host, rest)

/-- A port, from after its colon on. The scheme's own port is no port. -/
def port (scheme : List Char) (cs : List Char) :
    Except UrlError (Option UInt16 × List Char) :=
  let digits := cs.takeWhile Char.isDigit
  let rest := cs.dropWhile Char.isDigit
  if 65535 < Ascii.ofDigits 10 digits ∨ rest.head?.any (fun c => !(isSlash c || endsPath c)) then
    .error .badPort
  else
    let p : UInt16 := .ofNat (Ascii.ofDigits 10 digits)
    .ok (if digits = [] ∨ defaultPort? scheme = some p then none else some p, rest)

/-- **An authority**, from after its slashes on, and what follows it. -/
def authorityOf (scheme : List Char) (cs : List Char) :
    Except UrlError (Authority × List Char) := do
  let f := Family.of scheme
  let (username, password, cs) ← userinfo f cs
  let (name, rest) := hostText f false cs
  if f.special ∧ name = [] then throw .emptyHost
  let host ← if f.special then Host.ofWebText name else Host.ofPlainText name
  if host = .domain [] ∧ (rest.head? = some ':' ∨ username ≠ [] ∨ password ≠ []) then
    throw .emptyHost
  match rest with
  | ':' :: rest =>
    let (port, rest) ← port scheme rest
    return (⟨username, password, host, port⟩, rest)
  | _ => return (⟨username, password, host, none⟩, rest)

/-! ## Whole URLs -/

/-- The URL of an authority's text, from after its slashes on. -/
def afterSlashes (scheme : List Char) (cs : List Char) : Except UrlError Url := do
  let f := Family.of scheme
  let (authority, rest) ← authorityOf scheme cs
  let (segments, rest) := f.pathAfterAuthority rest
  let (query, fragment) := queryAndFragment f rest
  return ⟨scheme, some authority, .rooted segments, query, fragment⟩

/-- The URL of a given authority and the segments a path starts from. -/
def withPath (scheme : List Char) (authority : Option Authority)
    (before : List (List Char)) (cs : List Char) : Url :=
  let f := Family.of scheme
  let (segments, rest) := f.pathOnto before cs
  let (query, fragment) := queryAndFragment f rest
  ⟨scheme, authority, .rooted segments, query, fragment⟩

/-- The base without its fragment, as an empty reference copies it. -/
def withoutFragment (u : Url) : Url :=
  { u with fragment := none }

/-- The segments of a rooted path. -/
def segments (u : Url) : List (List Char) :=
  match u.path with
  | .rooted segments => segments
  | .rootless _ => []

/-- A reference within the base that names no path: empty, a query or a
fragment. -/
def withinPage (base : Url) (cs : List Char) : Url :=
  let (query, fragment) := queryAndFragment (.of base.scheme) cs
  match cs.head? with
  | none => base.withoutFragment
  | some '#' => { base with fragment }
  | some _ => { base with query, fragment }

/-! ## Files -/

namespace File

/-- The scheme of files. -/
def scheme : List Char := "file".toList

/-- The authority of a file URL that names no host. -/
def noHost : Authority :=
  ⟨[], [], .domain [], none⟩

/-- A file URL of an authority and a path, and what follows the path. -/
def ofPath (authority : Option Authority) (path : FilePath) (rest : List Char) : Url :=
  let (query, fragment) := queryAndFragment .file (unbroken rest)
  ⟨scheme, authority, .rooted path.tidy, query, fragment⟩

/-- The pieces of a path before they are read, and what follows the path. -/
def pieces (cs : List Char) : List (List Char) × List Char :=
  let (path, rest) := Ascii.cut endsPath cs
  (Ascii.splitOn isSlash path, rest)

/-- The URL of an authority and the segments a path starts from. -/
def withPath (authority : Option Authority) (before : List (List Char)) (cs : List Char) :
    Url :=
  let (raws, rest) := pieces cs
  ofPath authority ((FilePath.ofSegments before).walk raws) rest

/-- The host that a text names: none if it is empty, and none if it is
`localhost`. -/
def host? (name : List Char) : Except UrlError (Option Host) :=
  if name = [] then .ok none
  else do
    let host ← Host.ofWebText name
    return if host = .domain "localhost".toList then none else some host

/-- The text after the slash that opens the path of a host. -/
def afterOpening (cs : List Char) : List Char :=
  match cs.dropWhile isBreak with
  | c :: rest => if isSlash c then rest else cs
  | [] => cs

/-- **A file URL, from after its two slashes on.** A drive in the place of the
host starts the path. Behind a host a drive at the start of the path takes the
host away. Without a host the path starts with an empty segment, so no drive
stands at its start. -/
def afterSlashes (cs : List Char) : Except UrlError Url := do
  let (name, rest) := Ascii.cut (fun c => isSlash c || endsPath c) cs
  let name := unbroken name
  if isDrive name then return withPath (some noHost) [] cs
  match ← host? name with
  | none => return withPath (some noHost) [] rest
  | some host =>
    let (raws, rest) := pieces (afterOpening rest)
    let path := (FilePath.ofSegments []).walk raws
    let authority := if path.drive then noHost else ⟨[], [], host, none⟩
    return ofPath (some authority) path rest

/-- A file URL, from after its one slash on: at the root of the base's drive,
or of its host. A drive of its own makes it independent of the base. -/
def afterSlash (base : Option Url) (cs : List Char) : Url :=
  match base with
  | none => withPath (some noHost) [] cs
  | some base =>
    if startsWithDrive (unbroken cs) then withPath (some noHost) [] cs
    else
      match base.segments.head? with
      | some s =>
        if isNamedDrive s then withPath (some noHost) [s] cs
        else withPath base.authority [] cs
      | none => withPath base.authority [] cs

/-- A file URL without a slash: within the base, unless a drive starts it. -/
def plain (base : Option Url) (cs : List Char) : Url :=
  match base with
  | none => withPath (some noHost) [] cs
  | some base =>
    if (unbroken cs).head?.all endsPath then base.withinPage (unbroken cs)
    else if startsWithDrive (unbroken cs) then withPath (some noHost) [] cs
    else
      let (raws, rest) := pieces cs
      ofPath base.authority (FilePath.walkFrom base.segments raws) rest

/-- **A file URL**, from after its scheme on or relative to a file URL. Its
breaks are still there. -/
def read (base : Option Url) (cs : List Char) : Except UrlError Url :=
  match cs.dropWhile isBreak with
  | c :: rest =>
    if !isSlash c then .ok (plain base cs)
    else
      match rest.dropWhile isBreak with
      | d :: rest' => if isSlash d then afterSlashes rest' else .ok (afterSlash base rest)
      | [] => .ok (afterSlash base rest)
  | [] => .ok (plain base cs)

end File

/-! ## References and whole URLs -/

/-- **A reference within the base's path**: one that names no path, or a path
that starts from the base's directory. -/
def withinPath (base : Url) (cs : List Char) : Url :=
  if cs.head?.all endsPath then base.withinPage cs
  else withPath base.scheme base.authority base.segments.dropLast cs

/-- **A reference without a scheme**, relative to a base with a rooted path.
Two slashes open an authority and one opens a path from the root. -/
def relative (base : Url) (cs : List Char) : Except UrlError Url :=
  match cs with
  | '/' :: '/' :: rest => afterSlashes base.scheme rest
  | c :: rest =>
    if isSlash c then
      if rest.head?.any isSlash then afterSlashes base.scheme (rest.dropWhile isSlash)
      else .ok (withPath base.scheme base.authority [] rest)
    else .ok (base.withinPath cs)
  | [] => .ok (base.withinPath cs)

/-- A URL outside the web, from after its scheme on. -/
def plain (scheme : List Char) (cs : List Char) : Except UrlError Url :=
  match cs with
  | '/' :: '/' :: rest => afterSlashes scheme rest
  | '/' :: rest => .ok (withPath scheme none [] rest)
  | _ =>
    let (path, rest) := Ascii.cut endsPath cs
    let (query, fragment) := queryAndFragment .other rest
    .ok ⟨scheme, none, .rootless (Percent.encode Percent.control path), query, fragment⟩

/-- A URL, from after its scheme on. A web scheme that is the base's own and
fewer than two slashes make a relative reference all the same. -/
def withScheme (base : Option Url) (scheme : List Char) (cs : List Char) :
    Except UrlError Url :=
  match Family.of scheme with
  | .file => File.read (base.filter (·.scheme = scheme)) cs
  | .other => plain scheme (unbroken cs)
  | .web =>
    let cs := unbroken cs
    match base with
    | some base =>
      if (cs.takeWhile isSlash).length < 2 ∧ base.scheme = scheme then relative base cs
      else afterSlashes scheme (cs.dropWhile isSlash)
    | none => afterSlashes scheme (cs.dropWhile isSlash)

/-- A reference without a scheme, for any base. -/
def reference (base : Url) (cs : List Char) : Except UrlError Url :=
  match base.path with
  | .rootless _ =>
    let cs := unbroken cs
    if cs.head? = some '#' then .ok (base.withinPage cs) else .error .rootlessBase
  | .rooted _ =>
    if Family.of base.scheme = .file then File.read (some base) cs
    else relative base (unbroken cs)

/-- **Reads a URL**, alone or relative to a base. -/
def read (base : Option Url) (text : List Char) : Except UrlError Url :=
  let cs := trimmed text
  match scheme? cs with
  | some (scheme, rest) => withScheme base scheme rest
  | none =>
    match base with
    | some base => reference base cs
    | none => .error .noBase

/-- **Reads a URL that stands alone.** -/
def ofText (text : String) : Except UrlError Url :=
  read none text.toList

/-- **Resolves a reference against a base.** -/
def join (base : Url) (text : List Char) : Except UrlError Url :=
  read (some base) text

end Uplink.Url
