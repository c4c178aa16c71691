/-!
# JSON numbers

A number without fraction and exponent that fits in 64 bits, signed or
unsigned, is that integer. Any other number is a floating-point number, minus
zero among them.

The value of such a number is a 64-bit significand scaled by a power of ten in
floating-point arithmetic, so it may differ in the last bit from the nearest
number. Digits that the significand has no room for count for the power of ten
only. A number beyond the floating-point range has no value; one too small for
it is zero.
-/

namespace Uplink.Json

/-- The value of a number. -/
inductive Number where
  | int (n : Int)
  | float (x : Float)

/-- **A number as it is written**: its sign and its digits, the last one
first. -/
structure Literal where
  negative : Bool
  whole : List Nat
  fraction : List Nat
  negativeExponent : Bool
  exponent : List Nat

namespace Literal

/-- A number of which at most the sign has been read. -/
def start (negative : Bool) : Literal := ⟨negative, [], [], false, []⟩

/-- One more digit before the point. -/
def pushWhole (n : Literal) (d : Nat) : Literal := { n with whole := d :: n.whole }

/-- One more digit after the point. -/
def pushFraction (n : Literal) (d : Nat) : Literal :=
  { n with fraction := d :: n.fraction }

/-- One more digit of the exponent. -/
def pushExponent (n : Literal) (d : Nat) : Literal :=
  { n with exponent := d :: n.exponent }

/-- A minus sign of the exponent. -/
def negateExponent (n : Literal) : Literal := { n with negativeExponent := true }

/-- Whether the number has neither fraction nor exponent. -/
def isWhole (n : Literal) : Bool :=
  n.fraction.isEmpty && n.exponent.isEmpty

/-- Digits taken into a number while it stays below a limit: the number and how
many digits were taken. -/
def fill (limit value : Nat) : List Nat → Nat × Nat
  | [] => (value, 0)
  | d :: ds =>
    if value * 10 + d < limit then
      let (v, taken) := fill limit (value * 10 + d) ds
      (v, taken + 1)
    else (value, 0)

/-- **Significand and power of ten**, the exponent apart. -/
def scaled (n : Literal) : Nat × Int :=
  let (s, taken) := fill UInt64.size 0 n.whole.reverse
  let dropped := n.whole.length - taken
  let (s, places) := fill UInt64.size s n.fraction.reverse
  (s, (dropped : Int) - places)

/-- A power of ten up to the largest that floating point has. -/
def power (k : Nat) : Float := Float.ofScientific 1 false k

/-- A number divided by `10 ^ k`, in steps that floating point has. A few steps
reach zero from anywhere. -/
def shrink (x : Float) : Nat → Nat → Float
  | 0, _ => 0
  | steps + 1, k =>
    if k ≤ 308 then x / power k
    else if x == 0 then x
    else shrink (x / power 308) steps (k - 308)

/-- `s · 10 ^ k` in floating point, unless it is beyond the range. -/
def scale? (s : Nat) (k : Int) : Option Float :=
  let x := (UInt64.ofNat s).toFloat
  if k < 0 then some (shrink x 8 k.natAbs)
  else if 308 < k then if s = 0 then some x else none
  else
    let y := x * power k.natAbs
    if y.isInf then none else some y

/-- The first exponent that has no room in 32 bits. -/
def exponentLimit : Nat := 0x80000000

/-- The exponent, and whether it is beyond the limit. -/
def exponentValue (n : Literal) : Int × Bool :=
  let (e, taken) := fill exponentLimit 0 n.exponent.reverse
  (if n.negativeExponent then -(e : Int) else e, taken < n.exponent.length)

/-- The floating-point value, the sign apart. -/
def magnitude? (n : Literal) : Option Float :=
  let (s, k) := n.scaled
  let (e, huge) := n.exponentValue
  if huge then if s = 0 ∨ n.negativeExponent then some 0 else none
  else scale? s (max (-exponentLimit) (min (exponentLimit - 1) (k + e)))

/-- **The value of a number**, if it has one. -/
def value? (n : Literal) : Option Number :=
  let (s, dropped) := n.scaled
  let isInt := n.isWhole && dropped == 0
  if isInt ∧ !n.negative then some (.int s)
  else if isInt ∧ 0 < s ∧ 2 * s ≤ UInt64.size then some (.int (-s))
  else n.magnitude?.map fun x => .float (if n.negative then -x else x)

end Literal

end Uplink.Json
