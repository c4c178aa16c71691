/-!
# Bytes read as UTF-8 text

A response body is bytes; whoever looks at it as text must decide what a
malformed sequence means. Here a malformed sequence is replaced, and what is
replaced as one piece is the *maximal prefix* that a well-formed sequence
could still have had: `E2 82 41` reads as one replacement and an `A`.

The decoder is an automaton that consumes one byte per step, so it is defined
by recursion on the bytes. Between two bytes it holds a `Partial`: the value
collected so far and the ranges the outstanding continuation bytes must lie
in. The ranges of the first continuation byte depend on the leading byte; they
are what excludes overlong forms, surrogates and values above `10FFFF`.

`scalars` keeps well-formed and malformed pieces apart (`some` and `none`).
The lossy reading and the strict reading are two views of that one list.
-/

namespace Uplink.Utf8

/-- **What a leading byte announces**: the bits it contributes, and the
ranges its continuation bytes must lie in. `none` for a byte that cannot
start a sequence. -/
def announce (b : UInt8) : Option (Nat × List (UInt8 × UInt8)) :=
  if b < 0x80 then some (b.toNat, [])
  else if b < 0xC2 then none
  else if b < 0xE0 then some (b.toNat % 32, [(0x80, 0xBF)])
  else if b = 0xE0 then some (0, [(0xA0, 0xBF), (0x80, 0xBF)])
  else if b = 0xED then some (13, [(0x80, 0x9F), (0x80, 0xBF)])
  else if b < 0xF0 then some (b.toNat % 16, [(0x80, 0xBF), (0x80, 0xBF)])
  else if b = 0xF0 then some (0, [(0x90, 0xBF), (0x80, 0xBF), (0x80, 0xBF)])
  else if b < 0xF4 then some (b.toNat % 8, [(0x80, 0xBF), (0x80, 0xBF), (0x80, 0xBF)])
  else if b = 0xF4 then some (4, [(0x80, 0x8F), (0x80, 0xBF), (0x80, 0xBF)])
  else none

/-- A sequence that has begun: its value so far, the range of the next byte,
and the ranges after that one. -/
structure Partial where
  value : Nat
  range : UInt8 × UInt8
  later : List (UInt8 × UInt8)

/-- The state after a byte read where no sequence is open, with what that
byte completes. -/
def enter (b : UInt8) : List (Option Char) × Option Partial :=
  match announce b with
  | none => ([none], none)
  | some (value, []) => ([some (Char.ofNat value)], none)
  | some (value, range :: later) => ([], some ⟨value, range, later⟩)

/-- One step of the decoder: the pieces a byte completes, and the sequence
left open. A byte that does not fit the open sequence ends it as malformed and
is read afresh. -/
def step : Option Partial → UInt8 → List (Option Char) × Option Partial
  | none, b => enter b
  | some p, b =>
    if p.range.1 ≤ b ∧ b ≤ p.range.2 then
      let value := p.value * 64 + b.toNat % 64
      match p.later with
      | [] => ([some (Char.ofNat value)], none)
      | range :: later => ([], some ⟨value, range, later⟩)
    else
      (none :: (enter b).1, (enter b).2)

/-- The pieces of the bytes, decoding from a given state; a sequence still
open at the end is malformed. -/
def scalarsFrom : Option Partial → List UInt8 → List (Option Char)
  | none, [] => []
  | some _, [] => [none]
  | st, b :: bs => (step st b).1 ++ scalarsFrom (step st b).2 bs

/-- **The pieces of a byte string**: a scalar value for each well-formed
sequence, `none` for each maximal malformed one. -/
def scalars (bs : List UInt8) : List (Option Char) :=
  scalarsFrom none bs

/-- The character that stands for a malformed sequence. -/
def replacement : Char := Char.ofNat 0xFFFD

/-- **The lossy reading**: every malformed sequence becomes one
`replacement`. -/
def lossy (bs : List UInt8) : List Char :=
  (scalars bs).map (·.getD replacement)

/-- **The strict reading**: defined when nothing is malformed. -/
def decode? (bs : List UInt8) : Option (List Char) :=
  (scalars bs).mapM id

/-- The UTF-8 form of a text. -/
def encode (cs : List Char) : List UInt8 :=
  cs.flatMap String.utf8EncodeChar

@[simp] theorem scalars_nil : scalars [] = [] := rfl

@[simp] theorem encode_nil : encode [] = [] := rfl

@[simp] theorem encode_cons (c : Char) (cs : List Char) :
    encode (c :: cs) = String.utf8EncodeChar c ++ encode cs := rfl

theorem encode_append (cs ds : List Char) :
    encode (cs ++ ds) = encode cs ++ encode ds := by
  simp [encode]

end Uplink.Utf8
