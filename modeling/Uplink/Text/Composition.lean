import Uplink.Text.Composition.Table

/-!
# Composed text

A letter with a mark may be one character or two, and a letter with two marks
may carry them in either order. The composed form of a text is the same for all
of these: it is taken apart into letters and marks (`decompose`), the marks
after a letter are put in the order of their classes (`arrange`), and then
whatever can be one character is put together again (`compose`).

A mark joins the letter before it unless a mark of the same class, or a later
one, stands between them.
-/

namespace Uplink.Text.Composition

/-- The combining class of a character; letters have none. -/
def classOf (c : Char) : Nat :=
  match classes.find? c.toNat with
  | some e => e.value.headD 0
  | none => 0

/-- Whether a character is a mark. -/
def isMark (c : Char) : Bool :=
  marks.has c.toNat

/-! ## Hangul -/

/-- The first Hangul syllable. -/
def hangul : Nat := 0xAC00

/-- The parts of a Hangul syllable: two or three letters. -/
def hangulParts? (n : Nat) : Option (List Nat) :=
  if hangul ≤ n ∧ n < hangul + 11172 then
    let s := n - hangul
    let front := [0x1100 + s / 588, 0x1161 + s % 588 / 28]
    some (if s % 28 = 0 then front else front ++ [0x11A7 + s % 28])
  else none

/-- The Hangul syllable of two parts. -/
def hangulPair? (a b : Nat) : Option Nat :=
  if 0x1100 ≤ a ∧ a < 0x1113 ∧ 0x1161 ≤ b ∧ b < 0x1176 then
    some (hangul + ((a - 0x1100) * 21 + (b - 0x1161)) * 28)
  else if hangul ≤ a ∧ a < hangul + 11172 ∧ (a - hangul) % 28 = 0 ∧ 0x11A7 < b ∧ b < 0x11C3 then
    some (a + (b - 0x11A7))
  else none

/-! ## The three steps -/

/-- A character taken apart. Parts are taken apart in turn, four levels deep at
most. -/
def parts : Nat → Nat → List Nat
  | 0, n => [n]
  | depth + 1, n =>
    match hangulParts? n with
    | some ns => ns
    | none =>
      match pairs.find? n with
      | some e => e.value.flatMap (parts depth)
      | none => [n]

/-- A text taken apart. -/
def decompose (cs : List Char) : List Char :=
  cs.flatMap fun c => (parts 4 c.toNat).map Char.ofNat

/-- A character put among the marks at the start of a text: behind those of a
lower or the same class. -/
def insertMark (k : Nat) (c : Char) : List (Nat × Char) → List (Nat × Char)
  | [] => [(k, c)]
  | (l, d) :: rest =>
    if l ≠ 0 ∧ l < k then (l, d) :: insertMark k c rest else (k, c) :: (l, d) :: rest

/-- **Marks in the order of their classes.** -/
def arrange : List Char → List (Nat × Char)
  | [] => []
  | c :: cs =>
    let k := classOf c
    if k = 0 then (0, c) :: arrange cs else insertMark k c (arrange cs)

/-- The character of two, if there is one. -/
def pair? (a b : Char) : Option Char :=
  match hangulPair? a.toNat b.toNat with
  | some n => some (Char.ofNat n)
  | none =>
    (Array.find? (fun (e : CodePoints.Entry) => e.value == [a.toNat, b.toNat]) pairs).map
      fun e => Char.ofNat e.first

/-- Characters put together onto a letter and the marks that did not join it,
the last one first. -/
def composeOnto (letter : Char) (waiting : List (Nat × Char)) :
    List (Nat × Char) → List Char
  | [] => letter :: (waiting.reverse.map Prod.snd)
  | (k, c) :: rest =>
    let joined := match waiting with
      | [] => pair? letter c
      | (l, _) :: _ => if l < k then pair? letter c else none
    match joined with
    | some letter => composeOnto letter waiting rest
    | none =>
      if k = 0 then letter :: (waiting.reverse.map Prod.snd) ++ composeOnto c [] rest
      else composeOnto letter ((k, c) :: waiting) rest

/-- **Characters put together.** Marks before the first letter join nothing. -/
def compose : List (Nat × Char) → List Char
  | [] => []
  | (k, c) :: rest => if k = 0 then composeOnto c [] rest else c :: compose rest

/-- **The composed form of a text.** ASCII is composed already. -/
def ofText (cs : List Char) : List Char :=
  if cs.all (·.toNat < 0x80) then cs else compose (arrange (decompose cs))

end Uplink.Text.Composition
