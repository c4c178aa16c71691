import Uplink.Json.Number
import Uplink.Text.Ascii
import Uplink.Text.Utf8

/-!
# JSON tokens

A JSON text is first cut into tokens, from left to right, until it ends or
something cannot be a token. What is wrong with a text is then found in the
order of the text, because whoever reads the tokens stops at the first one that
is of no use.

Reading and skipping differ in how strict they are. Skipping wants tokens that
are well formed, and does not care what they mean: a number of any size and an
escape of half a surrogate pair will do. So such a token is there, without a
value. Where the text ends inside a token, reading and skipping may also give
different causes; the last token, `broken`, holds both.

The cutting is an automaton over the bytes (`Lexer`), defined by recursion on
them. A number ends at the first byte that cannot continue it, and that byte is
then read afresh.
-/

namespace Uplink.Json

/-- **What is wrong with a JSON text.** -/
inductive Fault where
  /-- Something that is no JSON. -/
  | malformed
  /-- The text ends too early. -/
  | truncated
  /-- JSON, but not what was asked for. -/
  | mistyped
deriving DecidableEq, Repr

/-- **A token**, or the point where the text stops making tokens. -/
inductive Token where
  | arrayStart
  | arrayEnd
  | objectStart
  | objectEnd
  | comma
  | colon
  | null
  | bool (b : Bool)
  /-- A number, without a value if it is too large. -/
  | number (value : Option Number)
  /-- A string, without a value if it is no text. -/
  | string (value : Option (List Char))
  /-- The text stops here, inside a string or not, and this is the fault for
  one who reads and for one who skips. -/
  | broken (inString : Bool) (reading skipping : Fault)

/-- White space between tokens. -/
def isSpace (b : UInt8) : Bool :=
  b == 0x20 || b == 0x09 || b == 0x0A || b == 0x0D

/-- A decimal digit. -/
def isDigit (b : UInt8) : Bool :=
  0x30 ≤ b && b ≤ 0x39

/-- The value of a hexadecimal digit. -/
def hexValue? (b : UInt8) : Option Nat :=
  let c := Char.ofNat b.toNat
  if Ascii.isHexDigit c then some (Ascii.digitValue c) else none

/-- Where in a number the reading stands. -/
inductive NumberPhase where
  /-- After the minus sign. -/
  | sign
  /-- After a leading zero. -/
  | zero
  | whole
  /-- After the point. -/
  | point
  | fraction
  /-- After the `e`. -/
  | mark
  /-- After the exponent's sign. -/
  | markSign
  | exponent

/-- Whether a number may end here. -/
def NumberPhase.isComplete : NumberPhase → Bool
  | zero | whole | fraction | exponent => true
  | _ => false

/-- One more byte of a number, if it continues the number. -/
def NumberPhase.step (p : NumberPhase) (n : Literal) (b : UInt8) :
    Option (NumberPhase × Literal) :=
  let digit := b.toNat - 0x30
  let isMark := b == 0x65 || b == 0x45
  match p with
  | sign =>
    if b == 0x30 then some (zero, n.pushWhole digit)
    else if isDigit b then some (whole, n.pushWhole digit)
    else none
  | zero =>
    if b == 0x2E then some (point, n) else if isMark then some (mark, n) else none
  | whole =>
    if isDigit b then some (whole, n.pushWhole digit)
    else if b == 0x2E then some (point, n)
    else if isMark then some (mark, n)
    else none
  | point => if isDigit b then some (fraction, n.pushFraction digit) else none
  | fraction =>
    if isDigit b then some (fraction, n.pushFraction digit)
    else if isMark then some (mark, n)
    else none
  | mark =>
    if b == 0x2B then some (markSign, n)
    else if b == 0x2D then some (markSign, n.negateExponent)
    else if isDigit b then some (exponent, n.pushExponent digit)
    else none
  | markSign => if isDigit b then some (exponent, n.pushExponent digit) else none
  | exponent => if isDigit b then some (exponent, n.pushExponent digit) else none

/-- Where in a string the reading stands. -/
inductive StringPhase where
  | plain
  /-- After a backslash. -/
  | escape
  /-- Inside a four digit escape: the digits left, the value so far, and
  whether all of them have been digits. -/
  | hex (left value : Nat) (good : Bool)

/-- A string being read: its bytes so far, the last one first, the half of a
surrogate pair that waits for the other, and whether it is still a text. -/
structure StringState where
  phase : StringPhase
  bytes : List UInt8
  high : Option Nat
  sound : Bool

namespace StringState

/-- A string at its start. -/
def start : StringState := ⟨.plain, [], none, true⟩

/-- One more byte. A half pair that waits is not completed by it. -/
def push (s : StringState) (b : UInt8) : StringState :=
  { s with phase := .plain, bytes := b :: s.bytes, high := none,
           sound := s.sound && s.high.isNone }

/-- One more character. -/
def pushChar (s : StringState) (c : Char) : StringState :=
  { s with phase := .plain, high := none,
           bytes := (String.utf8EncodeChar c).reverse ++ s.bytes }

/-- A code unit from an escape: it completes a pair, begins one, or stands for
itself. -/
def pushUnit (s : StringState) (n : Nat) : StringState :=
  let low := 0xDC00 ≤ n && n ≤ 0xDFFF
  match s.high with
  | some h =>
    if low then s.pushChar (Char.ofNat ((h - 0xD800) * 1024 + (n - 0xDC00) + 0x10000))
    else { s with phase := .plain, high := none, sound := false }
  | none =>
    if low then { s with phase := .plain, sound := false }
    else if 0xD800 ≤ n && n ≤ 0xDBFF then { s with phase := .plain, high := some n }
    else s.pushChar (Char.ofNat n)

/-- The text of a finished string. -/
def value? (s : StringState) : Option (List Char) :=
  if s.sound && s.high.isNone then Utf8.decode? s.bytes.reverse else none

/-- The byte that a simple escape stands for. -/
def simpleEscape? (b : UInt8) : Option UInt8 :=
  match Char.ofNat b.toNat with
  | '"' => some 0x22
  | '\\' => some 0x5C
  | '/' => some 0x2F
  | 'b' => some 0x08
  | 'f' => some 0x0C
  | 'n' => some 0x0A
  | 'r' => some 0x0D
  | 't' => some 0x09
  | _ => none

/-- The token of a string whose text ends too early. -/
def cutOff (s : StringState) : Token :=
  .broken true (if s.sound then .truncated else .malformed) .truncated

end StringState

/-- Where the cutting stands. -/
inductive Lexer where
  | between
  /-- Inside a word: the bytes it still needs, and its token. -/
  | word (rest : List UInt8) (token : Token)
  | number (phase : NumberPhase) (literal : Literal)
  | string (state : StringState)
  /-- Nothing more is read. -/
  | halted

namespace Lexer

/-- Tokens of one byte. -/
def punctuation? (b : UInt8) : Option Token :=
  match Char.ofNat b.toNat with
  | '[' => some .arrayStart
  | ']' => some .arrayEnd
  | '\x7b' => some .objectStart
  | '\x7d' => some .objectEnd
  | ',' => some .comma
  | ':' => some .colon
  | _ => none

/-- Words, by their first byte. -/
def word? (b : UInt8) : Option Lexer :=
  let of (rest : String) (token : Token) := some (word rest.toUTF8.toList token)
  match Char.ofNat b.toNat with
  | 'n' => of "ull" .null
  | 't' => of "rue" (.bool true)
  | 'f' => of "alse" (.bool false)
  | _ => none

/-- A byte where no token is open. -/
def enter (b : UInt8) : List Token × Lexer :=
  if isSpace b then ([], between)
  else
    match punctuation? b with
    | some token => ([token], between)
    | none =>
      match word? b with
      | some state => ([], state)
      | none =>
        if b == 0x22 then ([], string .start)
        else if b == 0x2D then ([], number .sign (.start true))
        else
          match NumberPhase.sign.step (.start false) b with
          | some (phase, literal) => ([], number phase literal)
          | none => ([.broken false .malformed .malformed], halted)

/-- The end of a number, at a byte that cannot continue it. A digit after a
leading zero is no end. -/
def numberEnd (phase : NumberPhase) (literal : Literal) (b : UInt8) : List Token × Lexer :=
  match phase with
  | .zero =>
    if isDigit b then ([.broken false .malformed .malformed], halted)
    else (.number literal.value? :: (enter b).1, (enter b).2)
  | _ =>
    if phase.isComplete then (.number literal.value? :: (enter b).1, (enter b).2)
    else ([.broken false .malformed .malformed], halted)

/-- A byte of a string. -/
def stringStep (s : StringState) (b : UInt8) : List Token × Lexer :=
  match s.phase with
  | .plain =>
    if b == 0x22 then ([.string s.value?], between)
    else if b == 0x5C then ([], string { s with phase := .escape })
    else if b < 0x20 then ([.broken true .malformed .malformed], halted)
    else ([], string (s.push b))
  | .escape =>
    if b == 0x75 then ([], string { s with phase := .hex 4 0 true })
    else
      match StringState.simpleEscape? b with
      | some c => ([], string (s.push c))
      | none => ([.broken true .malformed .malformed], halted)
  | .hex left value good =>
    let good := good && (hexValue? b).isSome
    let value := value * 16 + (hexValue? b).getD 0
    if 1 < left then ([], string { s with phase := .hex (left - 1) value good })
    else if good then ([], string (s.pushUnit value))
    else ([.broken true .malformed .malformed], halted)

/-- **One step of the cutting**: the tokens that a byte completes, and the
state after it. -/
def step : Lexer → UInt8 → List Token × Lexer
  | between, b => enter b
  | word [] token, b => (token :: (enter b).1, (enter b).2)
  | word [c] token, b =>
    if b = c then ([token], between) else ([.broken false .malformed .malformed], halted)
  | word (c :: rest) token, b =>
    if b = c then ([], word rest token)
    else ([.broken false .malformed .malformed], halted)
  | number phase literal, b =>
    match phase.step literal b with
    | some (phase, literal) => ([], number phase literal)
    | none => numberEnd phase literal b
  | string s, b => stringStep s b
  | halted, _ => ([], halted)

/-- The token that the end of the text completes or breaks. -/
def last : Lexer → List Token
  | between | halted => []
  | word [] token => [token]
  | word _ _ => [.broken false .truncated .truncated]
  | number phase literal =>
    if phase.isComplete then [.number literal.value?]
    else [.broken false .truncated .malformed]
  | string s => [s.cutOff]

/-- The tokens of the bytes, from a given state on. -/
def tokensFrom : Lexer → List UInt8 → List Token
  | state, [] => state.last
  | state, b :: bs => (state.step b).1 ++ tokensFrom (state.step b).2 bs

end Lexer

/-- **The tokens of a JSON text.** -/
def tokens (bs : List UInt8) : List Token :=
  Lexer.between.tokensFrom bs

@[simp] theorem tokens_nil : tokens [] = [] := rfl

end Uplink.Json
