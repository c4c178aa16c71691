import Uplink.Text.Timestamp
import Uplink.Toml.Quoted

/-!
# Unquoted values in TOML

Truth values, numbers, dates and times stand without quotes. What they are is
decided by their text as a whole, so each is a class of texts.

Digits may be set apart by single underscores. An integer has no leading zeros
and may have a sign, or it has a radix and neither. A float has a fraction, an
exponent or both, or is one of two words. Numbers have limits: an integer has
128 bits, and a float has to be finite, unless it says that it is not.

Dates and times are checked against the calendar and are not interpreted
further, since nothing here is set by a date.
-/

namespace Uplink.Toml

/-- An unquoted value. -/
inductive Scalar where
  | boolean (b : Bool)
  | integer (n : Int)
  /-- A float, by its text. -/
  | float (text : List Char)
  /-- A date, a time or both, by their text. -/
  | moment (text : List Char)
deriving DecidableEq, Repr

namespace Scalar

/-! ## Numbers -/

/-- The digits of a class without the underscores that set them apart: one
underscore only, and only between digits. -/
def digits? (isDigit : Char → Bool) (cs : List Char) : Option (List Char) :=
  let groups := Ascii.splitOn (· == '_') cs
  if groups.all fun g => g ≠ [] && g.all isDigit then some groups.flatten else none

/-- Decimal digits without a leading zero. -/
def decimal? (cs : List Char) : Option (List Char) := do
  let ds ← digits? Char.isDigit cs
  if 1 < ds.length ∧ ds.head? = some '0' then none else some ds

/-- A sign and the text after it. -/
def sign (cs : List Char) : Bool × List Char :=
  match cs with
  | '-' :: rest => (true, rest)
  | '+' :: rest => (false, rest)
  | cs => (false, cs)

/-- How many integers 128 bits can tell apart. -/
def integers : Nat := UInt64.size * UInt64.size

/-- An integer within 128 bits, signed or unsigned. -/
def bounded? (n : Int) : Option Scalar :=
  if -integers ≤ 2 * n ∧ n < integers then some (integer n) else none

/-- **An integer.** -/
def integer? (cs : List Char) : Option Scalar :=
  let radix (r : Nat) (isDigit : Char → Bool) (cs : List Char) : Option Scalar := do
    let ds ← digits? isDigit cs
    bounded? (Ascii.ofDigits r ds)
  match cs with
  | '0' :: 'x' :: rest => radix 16 Ascii.isHexDigit rest
  | '0' :: 'o' :: rest => radix 8 (fun c => '0' ≤ c && c ≤ '7') rest
  | '0' :: 'b' :: rest => radix 2 (fun c => c == '0' || c == '1') rest
  | cs => do
    let (negative, cs) := sign cs
    let n : Nat := Ascii.ofDigits 10 (← decimal? cs)
    bounded? (if negative then -n else n)

/-- Half way from the largest finite float to the next power of two. Numbers
from here on round to infinity. -/
def overflow : Nat := 1 <<< 1024 - 1 <<< 970

/-- Whether a decimal number is finite in floating point: `mantissa` is its
digits and `exponent` the power of ten they count. Only numbers of 309 digits
have to be compared. -/
def isFinite (mantissa : List Char) (exponent : Int) : Bool :=
  let mantissa := mantissa.dropWhile (· == '0')
  let m := Ascii.ofDigits 10 mantissa
  let size := mantissa.length + exponent
  if m = 0 ∨ size < 309 then true
  else if 309 < size then false
  else if 0 ≤ exponent then m * Nat.pow 10 exponent.natAbs < overflow
  else m < overflow * Nat.pow 10 exponent.natAbs

/-- **A float.** -/
def float? (text : List Char) : Option Scalar := do
  let (_, cs) := sign text
  if cs = "inf".toList ∨ cs = "nan".toList then some (float text)
  else
    let (mantissa, exponent) := Ascii.cut (fun c => c == 'e' || c == 'E') cs
    let (whole, fraction) := Ascii.cut (· == '.') mantissa
    if exponent = [] ∧ fraction = [] then none
    else
      let whole ← decimal? whole
      let fraction ← if fraction = [] then some [] else digits? Char.isDigit (fraction.drop 1)
      let (down, exponent') := sign (exponent.drop 1)
      let exponent' ← if exponent = [] then some [] else digits? Char.isDigit exponent'
      let e : Nat := Ascii.ofDigits 10 exponent'
      let e : Int := if down then -e else e
      if isFinite (whole ++ fraction) (e - fraction.length) then some (float text) else none

/-! ## Dates and times -/

/-- Whether a text is a time of day. The second may be left out. -/
def isTime (cs : List Char) : Bool :=
  match Ascii.splitOn (· == ':') cs with
  | [h, m] => Timestamp.isClock h m
  | [h, m, s] => Timestamp.isClock h m && Timestamp.isSecond s
  | _ => false

/-- Whether a text is an offset from universal time. -/
def isOffset (cs : List Char) : Bool :=
  match cs with
  | [c] => c == 'Z' || c == 'z'
  | c :: rest => (c == '+' || c == '-') && rest.length == 5 && isTime rest
  | [] => false

/-- **A date, a time or both**, the two set apart by a `T` or a space. A time
with a date may have an offset. -/
def isMoment (cs : List Char) : Bool :=
  if isTime cs || Timestamp.isDate cs then true
  else
    let (date, rest) := (cs.take 10, cs.drop 10)
    match rest with
    | c :: rest =>
      let (time, offset) := Ascii.cut (fun c => c.isAlpha || c == '+' || c == '-') rest
      Timestamp.isDate date && (c == 'T' || c == 't' || c == ' ') && isTime time
        && (offset = [] || isOffset offset)
    | [] => false

/-- **An unquoted value.** -/
def ofText? (cs : List Char) : Option Scalar :=
  if cs = "true".toList then some (boolean true)
  else if cs = "false".toList then some (boolean false)
  else if isMoment cs then some (moment cs)
  else (integer? cs).or (float? cs)

/-- Characters that end an unquoted value. -/
def endsScalar (c : Char) : Bool :=
  isBlank c || "\r\n,=[]\x7b\x7d\"'#".toList.contains c

/-- The text of an unquoted value, and the text after it. A space inside is
part of it where it stands between a date and a time. -/
def cutOff (cs : List Char) : List Char × List Char :=
  let (text, rest) := Ascii.cut endsScalar cs
  match rest with
  | ' ' :: d :: rest' =>
    if Timestamp.isDate text && d.isDigit then
      let (time, rest'') := Ascii.cut endsScalar (d :: rest')
      (text ++ ' ' :: time, rest'')
    else (text, rest)
  | _ => (text, rest)

/-- **Reads an unquoted value.** -/
def read : Parse Scalar := fun cs => do
  let (text, rest) := cutOff cs
  return (← ofText? text, rest)

end Scalar

end Uplink.Toml
