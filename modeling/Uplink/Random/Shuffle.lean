import Uplink.Random

/-!
# Shuffling

A list is shuffled from the front: each element in turn trades places with one
of the elements up to and including itself. The `m`-th element therefore needs
a position below `m`, and a list of length `n` needs one for each `m` from 2 to
`n`.

Several positions come out of one random number. A number below
`m · (m + 1) ⋯ (m + c - 1)` has one mixed-radix digit below each factor, and
the product is taken as long as it fits in 32 bits (`Positions.span`), so one
draw serves `c` positions.
-/

namespace Uplink.Random

/-- A supply of positions: the random stream, the number whose digits are being
dealt out, and how many digits are left in it. -/
structure Positions where
  random : Random
  number : Nat
  left : Nat

namespace Positions

/-- The longest product `m · (m + 1) ⋯` that fits in 32 bits, continued from a
product of `count` factors, and the number of its factors. Every factor doubles
the product at least, so 32 steps exhaust the room. -/
def extend : Nat → Nat → Nat → Nat → Nat × Nat
  | 0, _, product, count => (product, count)
  | steps + 1, m, product, count =>
    if product * (m + count) < UInt32.size then extend steps m (product * (m + count)) (count + 1)
    else (product, count)

/-- **How far one draw reaches** from the factor `m` on: the product and the
number of factors. -/
def span (m : Nat) : Nat × Nat :=
  extend 32 m m 1

/-- The supply with at least one digit left. -/
def refill (p : Positions) (m : Nat) : Positions :=
  if p.left = 0 then
    let (number, random) := p.random.below .bits32 (span m).1
    { random, number, left := (span m).2 }
  else p

/-- **A position below `m`**: the next digit of the number, the whole number if
it is the last digit. -/
def next (p : Positions) (m : Nat) : Nat × Positions :=
  let p := p.refill m
  if p.left = 1 then (p.number, { p with left := 0 })
  else (p.number % m, { p with number := p.number / m, left := p.left - 1 })

end Positions

/-- One more element at the end of a list, traded with the element at a
position. -/
def place {α : Type} (front : List α) (x : α) (position : Nat) : List α :=
  match front[position]? with
  | some y => front.set position x ++ [y]
  | none => front ++ [x]

/-- The elements `xs` shuffled into the elements already placed. -/
def shuffleOnto {α : Type} (front : List α) (p : Positions) : List α → List α × Positions
  | [] => (front, p)
  | x :: xs =>
    let (position, p) := p.next (front.length + 1)
    shuffleOnto (place front x position) p xs

/-- **A list shuffled**: the first element is placed without a draw. -/
def shuffle {α : Type} (r : Random) : List α → List α × Random
  | [] => ([], r)
  | x :: xs =>
    let (shuffled, p) := shuffleOnto [x] ⟨r, 0, 0⟩ xs
    (shuffled, p.random)

/-- Placing an element adds it and keeps the others. -/
theorem place_perm {α : Type} (front : List α) (x : α) (position : Nat) :
    (place front x position).Perm (x :: front) := by
  unfold place
  split
  · rename_i y hy
    obtain ⟨h, rfl⟩ := List.getElem?_eq_some_iff.1 hy
    have split := List.take_append_drop position front
    rw [List.drop_eq_getElem_cons h] at split
    rw [List.set_eq_take_append_cons_drop, if_pos h]
    refine (List.perm_append_singleton _ _).trans ?_
    refine (List.Perm.cons _ List.perm_middle).trans ((List.Perm.swap ..).trans ?_)
    refine List.Perm.cons _ (List.perm_middle.symm.trans ?_)
    rw [split]
  · exact List.perm_append_singleton x front

/-- **Shuffling loses and adds nothing.** -/
theorem shuffleOnto_perm {α : Type} (xs front : List α) (p : Positions) :
    (shuffleOnto front p xs).1.Perm (front ++ xs) := by
  induction xs generalizing front p with
  | nil => simp [shuffleOnto]
  | cons x xs ih =>
    rw [shuffleOnto]
    refine (ih _ _).trans ?_
    have := (place_perm front x (p.next (front.length + 1)).1).append_right xs
    exact this.trans (by simpa using List.perm_middle.symm)

end Uplink.Random
