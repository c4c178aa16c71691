import Uplink.Text.Ascii

/-!
# Internet addresses and their text

An endpoint is an address, and addresses cross every boundary of the program
as text: in a URL's host, in error messages, in the status report. The text is
canonical. An IPv4 address is four decimal octets without leading zeros. An
IPv6 address is written in lower case hexadecimal groups, the first longest run
of at least two zero groups compressed to two colons; an address that maps an
IPv4 address keeps the dotted form of its last two groups.

A URL's host compresses in the same way but has no dotted form, so compression
(`Ipv6.compressed`) and the text of an address (`Ipv6.text`) are two functions.

Reading is more liberal than writing: upper case, leading zeros in a group and
any position of the two colons are accepted.
-/

namespace Uplink

/-- An IPv4 address by its octets. -/
structure Ipv4 where
  a : UInt8
  b : UInt8
  c : UInt8
  d : UInt8
deriving DecidableEq, Repr

/-- An IPv6 address by its eight groups. -/
structure Ipv6 where
  groups : Vector UInt16 8
deriving DecidableEq, Repr

/-- An address of either family. -/
inductive IpAddr where
  | v4 (address : Ipv4)
  | v6 (address : Ipv6)
deriving DecidableEq, Repr

namespace Ipv4

/-- The octets in order. -/
def octets (x : Ipv4) : List UInt8 :=
  [x.a, x.b, x.c, x.d]

/-- The address whose 32 bits are a number, taken modulo 2^32. -/
def ofNat (n : Nat) : Ipv4 :=
  ⟨.ofNat (n / 0x1000000), .ofNat (n / 0x10000), .ofNat (n / 0x100), .ofNat n⟩

/-- Dotted decimal. -/
def text (x : Ipv4) : List Char :=
  ['.'].intercalate (x.octets.map fun o => Ascii.decimal o.toNat)

/-- A decimal octet: one to three digits, no leading zero, at most 255. -/
def octet? (cs : List Char) : Option UInt8 :=
  if cs ≠ [] ∧ cs.length ≤ 3 ∧ cs.all Char.isDigit ∧ ¬ (cs.length > 1 ∧ cs.head? = some '0') then
    let n := Ascii.ofDigits 10 cs
    if n < 256 then some (.ofNat n) else none
  else none

/-- Reads dotted decimal: exactly four octets. -/
def ofText? (cs : List Char) : Option Ipv4 :=
  match Ascii.splitOn (· == '.') cs with
  | [a, b, c, d] => do
    return ⟨← octet? a, ← octet? b, ← octet? c, ← octet? d⟩
  | _ => none

end Ipv4

namespace Ipv6

/-- The address of a list of groups, if there are eight. -/
def ofGroups? (gs : List UInt16) : Option Ipv6 :=
  if h : gs.toArray.size = 8 then some ⟨⟨gs.toArray, h⟩⟩ else none

/-- How many zero groups a list starts with. -/
def zeros (gs : List UInt16) : Nat :=
  (gs.takeWhile (· == 0)).length

/-- **The run to compress**: position and length of the first longest run of
zero groups, if one has at least two. -/
def longestRun (gs : List UInt16) : Option (Nat × Nat) :=
  let runs := (List.range gs.length).map fun i => (i, zeros (gs.drop i))
  runs.foldl
    (fun best run =>
      if run.2 ≥ 2 ∧ (best.elim 0 Prod.snd) < run.2 then some run else best)
    none

/-- Groups in hexadecimal, joined by colons. -/
def joined (gs : List UInt16) : List Char :=
  [':'].intercalate (gs.map fun g => Ascii.hex g.toNat)

/-- Hexadecimal groups with the longest run of zeros compressed. -/
def compressed (x : Ipv6) : List Char :=
  let gs := x.groups.toList
  match longestRun gs with
  | none => joined gs
  | some (start, length) =>
    joined (gs.take start) ++ [':', ':'] ++ joined (gs.drop (start + length))

/-- The IPv4 address that an address maps, if its groups start with five zeros
and `ffff`. -/
def mapped? (x : Ipv6) : Option Ipv4 :=
  match x.groups.toList with
  | [0, 0, 0, 0, 0, 0xFFFF, g, h] => some (.ofNat (g.toNat * 65536 + h.toNat))
  | _ => none

/-- **The text of an address**: compressed, with a mapped IPv4 address in
dotted form. -/
def text (x : Ipv6) : List Char :=
  match x.mapped? with
  | some v4 => "::ffff:".toList ++ v4.text
  | none => x.compressed

/-- One group: one to four hexadecimal digits. -/
def group? (cs : List Char) : Option UInt16 :=
  if cs ≠ [] ∧ cs.length ≤ 4 ∧ cs.all Ascii.isHexDigit then
    some (.ofNat (Ascii.ofDigits 16 cs))
  else none

/-- The groups of a text without double colon; with `dotted`, the last piece
may be an IPv4 address and counts as two groups. -/
def groups? (dotted : Bool) (cs : List Char) : Option (List UInt16) :=
  if cs = [] then some []
  else
    let pieces := Ascii.splitOn (· == ':') cs
    match pieces.getLast? with
    | none => some []
    | some last =>
      match (if dotted then Ipv4.ofText? last else none) with
      | some v4 => do
        let front ← pieces.dropLast.mapM group?
        return front ++
          [.ofNat (v4.a.toNat * 256 + v4.b.toNat), .ofNat (v4.c.toNat * 256 + v4.d.toNat)]
      | none => pieces.mapM group?

/-- The text before and after the first double colon, if there is one. -/
def atDoubleColon? : List Char → Option (List Char × List Char)
  | [] => none
  | [_] => none
  | c :: d :: cs =>
    if c = ':' ∧ d = ':' then some ([], cs)
    else (atDoubleColon? (d :: cs)).map fun p => (c :: p.1, p.2)

/-- **Reads an address**: eight groups, or fewer around one double colon that
stands for at least one zero group. A dotted IPv4 address may take the place
of the last two groups. -/
def ofText? (cs : List Char) : Option Ipv6 :=
  match atDoubleColon? cs with
  | none => do ofGroups? (← groups? true cs)
  | some (front, back) => do
    let head ← groups? false front
    let tail ← groups? true back
    if head.length + tail.length ≤ 7 then
      ofGroups? (head ++ List.replicate (8 - head.length - tail.length) 0 ++ tail)
    else none

end Ipv6

namespace IpAddr

/-- The canonical text. -/
def text : IpAddr → List Char
  | .v4 x => x.text
  | .v6 x => x.text

/-- The canonical text, as a string. -/
def toString (x : IpAddr) : String :=
  String.ofList x.text

instance : ToString IpAddr := ⟨IpAddr.toString⟩

/-- Reads an address of either family. -/
def ofText? (cs : List Char) : Option IpAddr :=
  match Ipv4.ofText? cs with
  | some x => some (.v4 x)
  | none => (Ipv6.ofText? cs).map .v6

end IpAddr

end Uplink
