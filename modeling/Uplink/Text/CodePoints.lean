import Uplink.Text.Ascii

/-!
# Tables of code points

Properties of characters are given by tables, and a table is a text in lines:
entries between blanks, all numbers in hexadecimal. The code points of an entry are one
number, or two with a hyphen for all from the one to the other, or these with
`/2` for every second of them. After an equals sign stands what the entry says
of its code points: one number, or several with dots between.
-/

namespace Uplink.CodePoints

/-- **An entry**: its code points and what it says of them. -/
structure Entry where
  first : Nat
  last : Nat
  step : Nat
  value : List Nat
deriving DecidableEq, Repr

/-- Whether an entry is about a code point. -/
def Entry.covers (e : Entry) (n : Nat) : Bool :=
  e.first ≤ n && n ≤ e.last && (n - e.first) % e.step == 0

/-- The hexadecimal number of a text. -/
def number (cs : List Char) : Nat :=
  Ascii.ofDigits 16 cs

/-- The entry of a text. -/
def Entry.ofText (cs : List Char) : Entry :=
  let (points, value) := Ascii.cut (· == '=') cs
  let (range, step) := Ascii.cut (· == '/') points
  let (first, last) := Ascii.cut (· == '-') range
  { first := number first
    last := number (if last = [] then first else last.drop 1)
    step := if step = [] then 1 else number (step.drop 1)
    value := if value = [] then [] else (Ascii.splitOn (· == '.') (value.drop 1)).map number }

/-- **A table**, in the order of its text. -/
abbrev Table := Array Entry

/-- The entries of a line. -/
def entries (line : String) : List Entry :=
  ((Ascii.splitOn (· == ' ') line.toList).filter (· ≠ [])).map Entry.ofText

/-- The table of a text. -/
def Table.ofLines (lines : List String) : Table :=
  (lines.flatMap entries).toArray

/-- The entry about a code point. -/
def Table.find? (t : Table) (n : Nat) : Option Entry :=
  Array.find? (·.covers n) t

/-- Whether a code point is in the table. -/
def Table.has (t : Table) (n : Nat) : Bool :=
  (t.find? n).isSome

end Uplink.CodePoints
