/-!
# ASCII classes, digits and splitting

The formats read here (URLs, addresses, header names, numbers) are written in
ASCII and classify characters by ASCII ranges whatever the characters beyond.
`Char`'s own classes are ASCII already; what is added here is hexadecimal
digits, digit values in a radix, case folding of a text, and `splitOn`, the
splitting at a separator that keeps empty pieces.
-/

namespace Uplink.Ascii

/-- Upper case letters become lower case; everything else stays. -/
def lower (cs : List Char) : List Char :=
  cs.map Char.toLower

/-- A hexadecimal digit, in either case. -/
def isHexDigit (c : Char) : Bool :=
  c.isDigit || ('a' ≤ c && c ≤ 'f') || ('A' ≤ c && c ≤ 'F')

/-- The value of a digit in some radix up to 36. -/
def digitValue (c : Char) : Nat :=
  if c.isDigit then c.toNat - '0'.toNat
  else if c.isLower then c.toNat - 'a'.toNat + 10
  else c.toNat - 'A'.toNat + 10

/-- The number that digits write in a radix, most significant first. -/
def ofDigits (radix : Nat) (cs : List Char) : Nat :=
  cs.foldl (fun n c => n * radix + digitValue c) 0

/-- **Decimal digits of a number**, without leading zeros. -/
def decimal (n : Nat) : List Char :=
  Nat.toDigits 10 n

/-- **Hexadecimal digits of a number**, lower case, without leading zeros. -/
def hex (n : Nat) : List Char :=
  Nat.toDigits 16 n

/-- The pieces between the separators, empty pieces included: there is one
piece more than there are separators. -/
def splitOn (isSep : Char → Bool) : List Char → List (List Char)
  | [] => [[]]
  | c :: cs =>
    if isSep c then [] :: splitOn isSep cs
    else
      match splitOn isSep cs with
      | [] => [[c]]
      | piece :: pieces => (c :: piece) :: pieces

theorem splitOn_ne_nil (isSep : Char → Bool) (cs : List Char) :
    splitOn isSep cs ≠ [] := by
  cases cs with
  | nil => simp [splitOn]
  | cons c cs =>
    rw [splitOn]
    split
    · simp
    · split <;> simp

/-- The text before the first character of a class, and the text from there
on. -/
def cut (stop : Char → Bool) (cs : List Char) : List Char × List Char :=
  cs.span (fun c => !stop c)

/-- Characters of a class removed from both ends. -/
def trim (junk : Char → Bool) (cs : List Char) : List Char :=
  ((cs.dropWhile junk).reverse.dropWhile junk).reverse

/-- The text after a given beginning, if it begins so. -/
def strip? (start : List Char) (cs : List Char) : Option (List Char) :=
  if start.isPrefixOf cs then some (cs.drop start.length) else none

end Uplink.Ascii
