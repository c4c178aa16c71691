/-!
# Random words and ranges

Everything random in this library comes from one stream of 64-bit words, read
from the front. A `Random` is the stream and how many words have been taken, so
a computation that draws is a function that returns the `Random` after it.

A number below `n` is the high half of a word times `n`. The low half tells
whether the word is one of the few for which a finer fraction would have
reached the next number; then a second word decides. One draw takes one word
or two, also when there is only one number to choose from.
-/

namespace Uplink

/-- **A stream of random words**, and how many of them are taken. -/
structure Random where
  word : Nat → UInt64
  taken : Nat

/-- How much of a word is used. -/
inductive Width where
  | bits32
  | bits64
deriving DecidableEq, Repr

/-- How many values a word of a width can have. -/
def Width.size : Width → Nat
  | bits32 => UInt32.size
  | bits64 => UInt64.size

theorem Width.size_pos (b : Width) : 0 < b.size := by
  cases b <;> decide

namespace Random

/-- The stream that repeats a list of words; zeros if there are none. -/
def cycle (words : List UInt64) : Random where
  word i := words.getD (i % words.length) 0
  taken := 0

/-- The low bits of the next word. -/
def draw (r : Random) (bits : Width) : Nat × Random :=
  ((r.word r.taken).toNat % bits.size, { r with taken := r.taken + 1 })

/-- **A number below `n`**, drawn with words of a given width. -/
def below (r : Random) (bits : Width) (n : Nat) : Nat × Random :=
  let (x, r) := r.draw bits
  let high := x * n / bits.size
  let low := x * n % bits.size
  if bits.size - n < low then
    let (y, r) := r.draw bits
    if bits.size ≤ low + y * n / bits.size then (high + 1, r) else (high, r)
  else
    (high, r)

@[simp] theorem draw_taken (r : Random) (bits : Width) :
    (r.draw bits).2.taken = r.taken + 1 := rfl

@[simp] theorem draw_word (r : Random) (bits : Width) :
    (r.draw bits).2.word = r.word := rfl

theorem draw_lt (r : Random) (bits : Width) : (r.draw bits).1 < bits.size :=
  Nat.mod_lt _ (bits.size_pos)

end Random

end Uplink
