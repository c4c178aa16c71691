import Uplink.Text.Ascii

/-!
# Punycode

A domain label with characters beyond ASCII travels as ASCII: its ASCII
characters, a hyphen, and a list of insertions. An insertion is one number
that says how far the cursor moves over the pairs *(code point, position)* in
increasing order, so the numbers are small. They are written least significant
digit first with digits that tell where a number ends: a digit below its
threshold is the last one.

The thresholds follow the numbers' size as the reading goes on (`adapt`).
Reading keeps one `Cursor` and consumes one digit per step, so it is a fold
over the digits; the cursor is `atRest` between two numbers, and a text that
ends elsewhere is malformed.
-/

namespace Uplink.Url.Punycode

/-- A digit's value: letters of either case for 0 to 25, then the decimal
digits. -/
def digit? (c : Char) : Option Nat :=
  if c.isLower then some (c.toNat - 'a'.toNat)
  else if c.isUpper then some (c.toNat - 'A'.toNat)
  else if c.isDigit then some (c.toNat - '0'.toNat + 26)
  else none

/-- The digit of a value below 36. -/
def digitOf (v : Nat) : Char :=
  if v < 26 then Char.ofNat ('a'.toNat + v) else Char.ofNat ('0'.toNat + (v - 26))

/-- The threshold of the digit with a given weight index `k`. -/
def threshold (bias k : Nat) : Nat :=
  max 1 (min 26 (k - bias))

/-- How far a large delta is scaled down, in steps of 36. -/
def scale (delta k : Nat) : Nat :=
  if 455 < delta then scale (delta / 35) (k + 36) else k + 36 * delta / (delta + 38)
termination_by delta

/-- **The bias after a number**: it follows the size of the last delta, spread
over the characters there are, and is damped strongly after the first. -/
def adapt (delta count : Nat) (first : Bool) : Nat :=
  let delta := if first then delta / 700 else delta / 2
  scale (delta + delta / count) 0

/-- Where the reading stands: the characters so far, the pair the last
insertion reached, and the number that is being read. -/
structure Cursor where
  chars : List Char
  codePoint : Nat
  position : Nat
  bias : Nat
  sum : Nat
  weight : Nat
  k : Nat
  atRest : Bool

/-- The cursor before the first number. -/
def Cursor.start (basic : List Char) : Cursor :=
  { chars := basic, codePoint := 0x80, position := 0, bias := 72,
    sum := 0, weight := 1, k := 36, atRest := true }

/-- The insertion that a completed number asks for. Refuses a code point that
is no scalar value. -/
def Cursor.insert? (c : Cursor) (sum : Nat) : Option Cursor :=
  let count := c.chars.length + 1
  let reached := c.position + sum
  let codePoint := c.codePoint + reached / count
  let position := reached % count
  if codePoint.isValidChar then
    some
      { chars := c.chars.take position ++ Char.ofNat codePoint :: c.chars.drop position,
        codePoint, position := position + 1,
        bias := adapt sum count (c.position == 0),
        sum := 0, weight := 1, k := 36, atRest := true }
  else none

/-- One digit of a number. Numbers and weights have 32 bits. -/
def Cursor.step? (c : Cursor) (d : Char) : Option Cursor := do
  let v ← digit? d
  let sum := c.sum + v * c.weight
  let t := threshold c.bias c.k
  let weight := c.weight * (36 - t)
  if UInt32.size ≤ sum then none
  else if v < t then c.insert? sum
  else if UInt32.size ≤ weight then none
  else some { c with sum, weight, k := c.k + 36, atRest := false }

/-- The ASCII characters and the digits: they are parted by the last hyphen,
unless it stands first. -/
def parts (cs : List Char) : List Char × List Char :=
  let pieces := Ascii.splitOn (· == '-') cs
  match pieces.dropLast, pieces.getLast? with
  | [], _ => ([], cs)
  | front, last =>
    let basic := ['-'].intercalate front
    if basic = [] then ([], cs) else (basic, last.getD [])

/-- **Reads a label back.** Defined when every number is complete and every
code point is a scalar value. -/
def decode? (cs : List Char) : Option (List Char) := do
  let (basic, digits) := parts cs
  let c ← digits.foldlM Cursor.step? (.start basic)
  if c.atRest then some c.chars else none

/-- A number's digits from weight index `k` on. -/
def number (bias k q : Nat) : List Char :=
  let t := threshold bias k
  if q < t then [digitOf q]
  else
    digitOf (t + (q - t) % (36 - t)) :: number bias (k + 36) ((q - t) / (36 - t))
termination_by q
decreasing_by
  have : 1 ≤ t := by simp only [t, threshold]; omega
  have : (q - t) / (36 - t) ≤ q - t := Nat.div_le_self ..
  change (q - t) / (36 - t) < q
  omega

/-- Where the writing stands: the distance the cursor has moved since the last
insertion, the bias, how many characters are placed, and the digits so far. -/
structure Writer where
  delta : Nat
  bias : Nat
  placed : Nat
  digits : List Char

/-- One pass over the label for the code point `m`: characters below it are
passed over, characters equal to it are inserted. -/
def Writer.pass (basic m : Nat) (w : Writer) (cs : List Char) : Writer :=
  cs.foldl (fun w c =>
    if c.toNat < m then { w with delta := w.delta + 1 }
    else if c.toNat = m then
      { delta := 0,
        bias := adapt w.delta (w.placed + 1) (w.placed == basic),
        placed := w.placed + 1,
        digits := w.digits ++ number w.bias 36 w.delta }
    else w) w

/-- The distinct code points beyond ASCII, in increasing order. -/
def codePoints (cs : List Char) : List Nat :=
  ((cs.map Char.toNat).filter (0x80 ≤ ·)).eraseDups.mergeSort

/-- **The ASCII form of a label**, without the mark that announces it. -/
def encode (cs : List Char) : List Char :=
  let basic := cs.filter (·.toNat < 0x80)
  let start : Nat × Writer := (0x80, ⟨0, 72, basic.length, []⟩)
  let (_, w) := (codePoints cs).foldl
    (fun (n, w) m =>
      let w := { w with delta := w.delta + (m - n) * (w.placed + 1) }
      let w := w.pass basic.length m cs
      (m + 1, { w with delta := w.delta + 1 }))
    start
  (if basic = [] then [] else basic ++ ['-']) ++ w.digits

end Uplink.Url.Punycode
