import Uplink.Url.Basic

/-!
# Paths

A path is read segment by segment onto the segments it starts from (`walk`), so
a reference and a whole URL share the treatment of dot segments. Two dots take
away the segment before them, with one exception: a *drive*, a letter with a
colon or a bar, stays where it is, in the URLs of every scheme.

File paths know more about drives (`FilePath`). A drive at the start of a file
path is always written with a colon. A tab or line break right behind such a
drive ends the segment, and what follows it is no dot segment any more.
Elsewhere in a URL tabs and line breaks mean nothing.
-/

namespace Uplink.Url

/-- How a scheme's URLs are read. -/
inductive Family where
  /-- Schemes of the web: a host is needed, backslashes are slashes. -/
  | web
  /-- Local files. -/
  | file
  /-- Any other scheme. -/
  | other
deriving DecidableEq, Repr

/-- The family of a scheme. -/
def Family.of (scheme : List Char) : Family :=
  if scheme = "file".toList then file
  else if (defaultPort? scheme).isSome then web
  else other

/-- Whether backslashes count as slashes. -/
def Family.special : Family → Bool
  | other => false
  | _ => true

/-- A slash of either kind. -/
def isSlash (c : Char) : Bool :=
  c == '/' || c == '\\'

/-- What ends an authority and a path segment. -/
def Family.isSeparator (f : Family) (c : Char) : Bool :=
  c == '/' || (f.special && c == '\\')

/-- What ends a path. -/
def endsPath (c : Char) : Bool :=
  c == '?' || c == '#'

/-- Tabs and line breaks. -/
def isBreak (c : Char) : Bool :=
  c == '\t' || c == '\n' || c == '\r'

/-- A text without tabs and line breaks. -/
def unbroken (cs : List Char) : List Char :=
  cs.filter fun c => !isBreak c

/-! ## Segments -/

/-- Segments that mean "here". -/
def isDot (segment : List Char) : Bool :=
  Ascii.lower segment ∈ [".", "%2e"].map String.toList

/-- Segments that mean "one up". -/
def isDotDot (segment : List Char) : Bool :=
  Ascii.lower segment ∈ ["..", ".%2e", "%2e.", "%2e%2e"].map String.toList

/-- A drive: a letter and a colon or bar. -/
def isDrive (segment : List Char) : Bool :=
  match segment with
  | [c, d] => c.isAlpha && (d == ':' || d == '|')
  | _ => false

/-- Whether a text starts with a drive. A backslash ends one in every scheme. -/
def startsWithDrive (cs : List Char) : Bool :=
  isDrive (cs.take 2) && ((cs.drop 2).head?.all fun c => isSlash c || endsPath c)

/-- **One segment up.** A drive stays. -/
def up (segments : List (List Char)) : List (List Char) :=
  if segments.getLast?.any startsWithDrive then segments else segments.dropLast

/-- What a dot segment leaves at the end: an empty segment, so that the path
still ends with a slash. -/
def afterDots (rest : List (List Char)) : List (List Char) :=
  if rest = [] then [[]] else []

/-- **A path read onto the segments before it.** -/
def walk (before : List (List Char)) : List (List Char) → List (List Char)
  | [] => before
  | s :: rest =>
    let s := Percent.encode Percent.inPath s
    if isDotDot s then walk (up before ++ afterDots rest) rest
    else if isDot s then walk (before ++ afterDots rest) rest
    else walk (before ++ [s]) rest

/-! ## File paths -/

/-- A drive that is written with a colon. -/
def isNamedDrive (segment : List Char) : Bool :=
  isDrive segment && segment.getLast? == some ':'

/-- Whether a drive with a colon, a break, and something else make up a
segment. -/
def isBrokenDrive (segment : List Char) : Bool :=
  match segment.dropWhile isBreak with
  | c :: rest =>
    match rest.dropWhile isBreak with
    | d :: b :: rest =>
      c.isAlpha && d == ':' && isBreak b && rest.any fun c => !isBreak c
    | _ => false
  | [] => false

/-- **The path of a file** as far as it is read, and whether a drive has been
found at its start. -/
structure FilePath where
  segments : List (List Char)
  drive : Bool
deriving DecidableEq, Repr

namespace FilePath

/-- A path of segments that are there already. -/
def ofSegments (segments : List (List Char)) : FilePath := ⟨segments, false⟩

/-- The path with more segments. -/
def add (p : FilePath) (more : List (List Char)) : FilePath :=
  { p with segments := p.segments ++ more }

/-- **A file path read onto the segments before it.** The segments that are
read may hold breaks. -/
def walk (p : FilePath) : List (List Char) → FilePath
  | [] => p
  | raw :: rest =>
    let s := Percent.encode Percent.inPath (unbroken raw)
    if p.segments = [] ∧ isBrokenDrive raw then (p.add [s.take 2, s.drop 2]).walk rest
    else if isDotDot s then
      ({ p with segments := up p.segments }.add (afterDots rest)).walk rest
    else if isDot s then (p.add (afterDots rest)).walk rest
    else if p.segments = [] ∧ isDrive s then
      walk { segments := [s.take 1 ++ [':']], drive := true } rest
    else (p.add [s]).walk rest

/-- A file path read relative to another: it starts from the other's directory,
or from its drive if the other ends with one. Only a drive at the start of the
path is a directory, any other one continues as a name. -/
def walkFrom (base : List (List Char)) (raws : List (List Char)) : FilePath :=
  if !base.getLast?.any isNamedDrive then (ofSegments base.dropLast).walk raws
  else if base.length = 1 then (ofSegments base).walk raws
  else
    match raws with
    | [] => ofSegments base
    | raw :: rest =>
      let s := Percent.encode Percent.inPath (unbroken raw)
      if isDotDot s then (ofSegments base).walk rest
      else if isDot s then (ofSegments (base ++ afterDots rest)).walk rest
      else (ofSegments (base.dropLast ++ [base.getLastD [] ++ s])).walk rest

/-- The finished path: it has no empty segments at its start, but at least one
segment. -/
def tidy (p : FilePath) : List (List Char) :=
  match p.segments.dropWhile (· = []) with
  | [] => [[]]
  | rest => rest

end FilePath

/-! ## The slash at the end -/

/-- **The URL with a slash at the end of its path**: an empty last segment, or
a slash after a rootless path. A file path is read again with it. -/
def withTrailingSlash (u : Url) : Url :=
  if u.path.text.getLast? = some '/' then u
  else
    match u.path with
    | .rooted segments =>
      let segments := segments ++ [[]]
      let segments :=
        if Family.of u.scheme = .file then ((FilePath.ofSegments []).walk segments).tidy
        else segments
      { u with path := .rooted segments }
    | .rootless [] => { u with path := .rootless "%2F".toList }
    | .rootless t => { u with path := .rootless (t ++ ['/']) }

end Uplink.Url
