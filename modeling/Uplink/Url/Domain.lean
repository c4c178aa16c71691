import Uplink.Text.Utf8
import Uplink.Url.Bidi
import Uplink.Url.Joiners
import Uplink.Url.Mapping.Table
import Uplink.Url.Punycode

/-!
# Domain names in ASCII

A host name may be typed in any script and any case, but it is looked up, and
compared, in one ASCII form. Every character is mapped first, and the result is
composed: upper case becomes lower case, a character that is another one in a
different shape becomes that other one, and some characters are left out. There
are characters that a host name may not contain at all. Then the name is split
at its dots. A label that is ASCII by then stays as it is; any other label
becomes `xn--` and its punycode.

A label that arrives as `xn--` is read back, and what it reads as must be
something that would have been written so: characters beyond ASCII, mapped and
composed already. Otherwise two spellings could name one host.

Writing and reading punycode takes long where a label is long, so labels that
need it have a limit; labels in ASCII have none.

Some ASCII characters would end the host or split it when the URL is read
again. They are refused in a name, whether they were typed or escaped.
-/

namespace Uplink.Url

/-! ## Characters -/

/-- **What becomes of a character** of a host name. -/
inductive Treatment where
  | kept
  | replaced (cs : List Char)
  | dropped
  | refused
deriving DecidableEq, Repr

namespace Treatment

/-- The treatment of a character. -/
def of (c : Char) : Treatment :=
  let n := c.toNat
  if n < 0x80 then if c.isUpper then .replaced [c.toLower] else .kept
  else if Mapping.refused.has n then .refused
  else if Mapping.dropped.has n then .dropped
  else
    match Mapping.shifted.find? n with
    | some e => .replaced [Char.ofNat (e.value.headD n + (n - e.first))]
    | none =>
      match Mapping.spelled.find? n with
      | some e => .replaced (e.value.map Char.ofNat)
      | none => .kept

/-- What is left of a character, or nothing if it is refused. -/
def image? (c : Char) : Option (List Char) :=
  match of c with
  | kept => some [c]
  | replaced cs => some cs
  | dropped => some []
  | refused => none

end Treatment

namespace Domain

/-! ## Labels -/

/-- ASCII characters that no name may contain. -/
def isForbidden (c : Char) : Bool :=
  c.toNat ≤ 0x20 || c.toNat == 0x7F || "%#/:<>?@[\\]^|".toList.contains c

/-- The mark of a label in punycode. -/
def mark : List Char := "xn--".toList

/-- **The mapping of a text**, undefined if a character is refused. -/
def map? (cs : List Char) : Option (List Char) := do
  return Text.Composition.ofText (← cs.mapM Treatment.image?).flatten

/-- Whether a text is ASCII. -/
def isAscii (cs : List Char) : Bool :=
  cs.all (·.toNat < 0x80)

/-- How many characters a label beyond ASCII may have. -/
def maxLength : Nat := 1000

/-- How many characters of punycode are read back. -/
def maxPunycode : Nat := 2000

/-- Whether a label beyond ASCII is well formed: it is not too long, it begins
with no mark, and its joiners fit. -/
def isWellFormed (label : List Char) : Bool :=
  label.length ≤ maxLength && !label.head?.any Text.Composition.isMark && Joiners.allFit label

/-- A label read back from punycode must be one that needed it: with a
character beyond ASCII, and mapped already. -/
def unmarked? (cs : List Char) : Option (List Char) := do
  let label ← Punycode.decode? cs
  if !isAscii label && map? label == some label then some label else none

/-- **A label as it is meant**: read back if it is in punycode. -/
def meant? (cs : List Char) : Option (List Char) := do
  let label ← match Ascii.strip? mark cs with
    | some rest =>
      if isAscii rest && rest.length ≤ maxPunycode then unmarked? rest else none
    | none => some cs
  if label.any isForbidden then none
  else if isAscii label || isWellFormed label then some label
  else none

/-- A label in ASCII. -/
def written (label : List Char) : List Char :=
  if isAscii label then label else mark ++ Punycode.encode label

/-- **The ASCII form of a name** given as bytes: undefined if they are not
UTF-8, or if some label has no ASCII form. -/
def ascii? (bs : List UInt8) : Option (List Char) := do
  let mapped ← map? (← Utf8.decode? bs)
  let labels ← (Ascii.splitOn (· == '.') mapped).mapM meant?
  if Bidi.accepts labels then some (['.'].intercalate (labels.map written)) else none

end Domain

end Uplink.Url
