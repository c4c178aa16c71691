import Uplink.Proofs.Encoding
import Uplink.Proofs.Json.Grammar

/-!
# Tokens of well-formed texts

A well-formed part of a text becomes its token whatever comes after it, and the rest is
cut as if it stood alone: `tokens (part ++ rest) = token :: tokens rest`. Only a number
needs something of the rest, which has to begin with a byte that ends a number
(`Delimited`).

The cutting is an automaton, and so each part is followed through its states. What a
string has read so far is a text and no open pair (`StringState.after`). For a number it
is enough to know how it goes on from a phase to the end (`Finishes`), and this is shown
from the end backwards.
-/

namespace Uplink.Json

open Lexer (tokensFrom)

/-! ## Steps without tokens -/

/-- A byte that completes no token leads to the next state. -/
theorem tokensFrom_of_step {state state' : Lexer} {b : UInt8} (h : state.step b = ([], state'))
    (rest : List UInt8) : state.tokensFrom (b :: rest) = state'.tokensFrom rest := by
  unfold tokensFrom
  rw [h]
  cases rest <;> rfl

/-! ## White space and punctuation -/

/-- **Where a value may end**: at the end of the text, or before white space or
punctuation. -/
def Delimited : List UInt8 → Prop
  | [] => True
  | b :: _ => isSpace b = true ∨ b ∈ [0x2C, 0x5D, 0x7D]

/-- White space makes no tokens. -/
theorem tokens_blank {bs : List UInt8} (h : Blank bs) (rest : List UInt8) :
    tokens (bs ++ rest) = tokens rest := by
  induction bs with
  | nil => rfl
  | cons b bs ih =>
    have entered : Lexer.between.step b = ([], .between) := if_pos (h b List.mem_cons_self)
    refine (tokensFrom_of_step entered (bs ++ rest)).trans ?_
    exact ih fun d hd => h d (List.mem_cons_of_mem b hd)

/-- White space before a delimiter is a delimiter. -/
theorem Delimited.append {bs rest : List UInt8} (h : Blank bs) (h' : Delimited rest) :
    Delimited (bs ++ rest) := by
  cases bs with
  | nil => exact h'
  | cons b bs => exact .inl (h b List.mem_cons_self)

@[simp] theorem tokens_arrayStart (rest : List UInt8) :
    tokens (0x5B :: rest) = .arrayStart :: tokens rest := rfl

@[simp] theorem tokens_arrayEnd (rest : List UInt8) :
    tokens (0x5D :: rest) = .arrayEnd :: tokens rest := rfl

@[simp] theorem tokens_objectStart (rest : List UInt8) :
    tokens (0x7B :: rest) = .objectStart :: tokens rest := rfl

@[simp] theorem tokens_objectEnd (rest : List UInt8) :
    tokens (0x7D :: rest) = .objectEnd :: tokens rest := rfl

@[simp] theorem tokens_comma (rest : List UInt8) :
    tokens (0x2C :: rest) = .comma :: tokens rest := rfl

@[simp] theorem tokens_colon (rest : List UInt8) :
    tokens (0x3A :: rest) = .colon :: tokens rest := rfl

/-! ## Words -/

/-- A word in a text is its token: its first letter opens it, and its last letter
completes it. -/
theorem tokens_null (rest : List UInt8) :
    tokens (Utf8.encode "null".toList ++ rest) = .null :: tokens rest := by
  have letters : "ull".toUTF8.toList = [0x75, 0x6C, 0x6C] := by decide +kernel
  show (Lexer.word "ull".toUTF8.toList .null).tokensFrom ([0x75, 0x6C, 0x6C] ++ rest) = _
  rw [letters]
  rfl

theorem tokens_bool (b : Bool) (rest : List UInt8) :
    tokens (Utf8.encode (Text.bool b) ++ rest) = .bool b :: tokens rest := by
  cases b with
  | false =>
    have letters : "alse".toUTF8.toList = [0x61, 0x6C, 0x73, 0x65] := by decide +kernel
    show (Lexer.word "alse".toUTF8.toList (.bool false)).tokensFrom
      ([0x61, 0x6C, 0x73, 0x65] ++ rest) = _
    rw [letters]
    rfl
  | true =>
    have letters : "rue".toUTF8.toList = [0x72, 0x75, 0x65] := by decide +kernel
    show (Lexer.word "rue".toUTF8.toList (.bool true)).tokensFrom ([0x72, 0x75, 0x65] ++ rest) = _
    rw [letters]
    rfl

/-! ## Strings -/

namespace StringState

/-- A string is at a character, not inside an escape. -/
def IsPlain (s : StringState) : Prop :=
  s.phase = .plain

/-- What a code unit does to a string leads back to where a character may come, from
wherever the digits of the unit have led to. -/
theorem pushUnit_phase (s : StringState) (phase : StringPhase) (n : Nat) :
    ({ s with phase } : StringState).pushUnit n = s.pushUnit n := by
  unfold pushUnit
  cases s.high <;> rfl

theorem isPlain_push (s : StringState) (b : UInt8) : (s.push b).IsPlain := rfl

theorem isPlain_pushUnit (s : StringState) (n : Nat) : (s.pushUnit n).IsPlain := by
  unfold pushUnit
  cases s.high with
  | none =>
    dsimp only
    split
    · rfl
    · split <;> rfl
  | some high =>
    dsimp only
    split <;> rfl

end StringState

section Strings

variable {s : StringState}

theorem tokensFrom_of_stringStep {s' : StringState} {b : UInt8}
    (h : Lexer.stringStep s b = ([], .string s')) (rest : List UInt8) :
    (Lexer.string s).tokensFrom (b :: rest) = (Lexer.string s').tokensFrom rest := by
  have step : (Lexer.string s).step b = ([], .string s') := h
  exact tokensFrom_of_step step rest

/-- A byte that needs no escape. -/
theorem tokensFrom_byte (plain : s.IsPlain) {b : UInt8} (visible : 0x20 ≤ b) (quote : b ≠ 0x22)
    (backslash : b ≠ 0x5C) (rest : List UInt8) :
    (Lexer.string s).tokensFrom (b :: rest) = (Lexer.string (s.push b)).tokensFrom rest := by
  have step : Lexer.stringStep s b = ([], .string (s.push b)) := by
    unfold Lexer.stringStep
    rw [show s.phase = .plain from plain]
    dsimp only
    rw [if_neg (by simpa using quote), if_neg (by simpa using backslash),
      if_neg (UInt8.not_lt.2 visible)]
  exact tokensFrom_of_stringStep step rest

/-- An escape of one letter. -/
theorem tokensFrom_letter (plain : s.IsPlain) {b d : UInt8} (unit : b ≠ 0x75)
    (meaning : StringState.simpleEscape? b = some d) (rest : List UInt8) :
    (Lexer.string s).tokensFrom (0x5C :: b :: rest)
      = (Lexer.string (s.push d)).tokensFrom rest := by
  obtain ⟨phase, bytes, high, sound⟩ := s
  obtain rfl : phase = .plain := plain
  have step : Lexer.stringStep ⟨.escape, bytes, high, sound⟩ b
      = ([], .string (StringState.push ⟨.escape, bytes, high, sound⟩ d)) := by
    unfold Lexer.stringStep
    dsimp only
    rw [if_neg (by simpa using unit), meaning]
  exact tokensFrom_of_stringStep step rest

/-- A digit of an escape of four, not the last one. -/
theorem tokensFrom_digit {left value n : Nat} {b : UInt8} (digit : hexValue? b = some n)
    (more : 1 < left) (rest : List UInt8) :
    (Lexer.string { s with phase := .hex left value true }).tokensFrom (b :: rest)
      = (Lexer.string { s with phase := .hex (left - 1) (value * 16 + n) true }).tokensFrom
          rest := by
  have step : Lexer.stringStep { s with phase := .hex left value true } b
      = ([], .string { s with phase := .hex (left - 1) (value * 16 + n) true }) := by
    unfold Lexer.stringStep
    dsimp only
    rw [if_pos more, digit]
    rfl
  exact tokensFrom_of_stringStep step rest

/-- The last one. -/
theorem tokensFrom_lastDigit {value n : Nat} {b : UInt8} (digit : hexValue? b = some n)
    (rest : List UInt8) :
    (Lexer.string { s with phase := .hex 1 value true }).tokensFrom (b :: rest)
      = (Lexer.string (s.pushUnit (value * 16 + n))).tokensFrom rest := by
  have step : Lexer.stringStep { s with phase := .hex 1 value true } b
      = ([], .string (s.pushUnit (value * 16 + n))) := by
    unfold Lexer.stringStep
    dsimp only
    rw [digit, if_neg (Nat.lt_irrefl 1), ← s.pushUnit_phase (.hex 1 value true)]
    rfl
  exact tokensFrom_of_stringStep step rest

/-- **An escape of four digits** pushes what they write. -/
theorem tokensFrom_hex4 (plain : s.IsPlain) {n : Nat} {bs : List UInt8} (h : Hex4 n bs)
    (rest : List UInt8) :
    (Lexer.string s).tokensFrom (0x5C :: 0x75 :: bs ++ rest)
      = (Lexer.string (s.pushUnit n)).tokensFrom rest := by
  have opened (ds : List UInt8) : (Lexer.string s).tokensFrom (0x5C :: 0x75 :: ds)
      = (Lexer.string { s with phase := .hex 4 0 true }).tokensFrom ds := by
    obtain ⟨phase, bytes, high, sound⟩ := s
    obtain rfl : phase = .plain := plain
    rfl
  cases h with
  | digits first second third fourth =>
    rw [List.cons_append, List.cons_append, opened]
    simp only [List.cons_append, List.nil_append]
    rw [tokensFrom_digit first (by decide), tokensFrom_digit second (by decide),
      tokensFrom_digit third (by decide), tokensFrom_lastDigit fourth, Nat.zero_mul, Nat.zero_add]

/-- The quote at the end. -/
theorem tokensFrom_quote (plain : s.IsPlain) (rest : List UInt8) :
    (Lexer.string s).tokensFrom (0x22 :: rest) = .string s.value? :: tokens rest := by
  obtain ⟨phase, bytes, high, sound⟩ := s
  obtain rfl : phase = .plain := plain
  rfl

/-- The letters of the short escapes. -/
theorem letterEscapes_spec : ∀ e ∈ letterEscapes, e.2 ≠ 0x75
    ∧ StringState.simpleEscape? e.2 = some (.ofNat e.1.toNat)
    ∧ String.utf8EncodeChar e.1 = [.ofNat e.1.toNat] := by
  decide

/-- A piece of a well-formed string leads to where the next one may come. -/
theorem tokensFrom_piece (plain : s.IsPlain) {bs : List UInt8} (h : IsPiece bs) :
    ∃ s' : StringState, s'.IsPlain ∧ ∀ rest,
      (Lexer.string s).tokensFrom (bs ++ rest) = (Lexer.string s').tokensFrom rest := by
  cases h with
  | byte visible quote backslash =>
    exact ⟨_, s.isPlain_push _, tokensFrom_byte plain visible quote backslash⟩
  | letter h =>
    obtain ⟨unit, meaning, _⟩ := letterEscapes_spec _ h
    exact ⟨_, s.isPlain_push _, tokensFrom_letter plain unit meaning⟩
  | unit h => exact ⟨_, s.isPlain_pushUnit _, tokensFrom_hex4 plain h⟩

end Strings

/-- **A well-formed string is a token**, with or without a value. -/
theorem tokens_string {bs : List UInt8} (h : IsString bs) :
    ∃ value, ∀ rest, tokens (bs ++ rest) = .string value :: tokens rest := by
  obtain ⟨h⟩ := h
  suffices inside : ∀ s : StringState, s.IsPlain → ∃ value, ∀ rest,
      (Lexer.string s).tokensFrom (_ ++ 0x22 :: rest) = .string value :: tokens rest by
    obtain ⟨value, cut⟩ := inside .start rfl
    refine ⟨value, fun rest => ?_⟩
    rw [List.append_assoc]
    exact cut rest
  induction h with
  | nil => exact fun s plain => ⟨s.value?, tokensFrom_quote plain⟩
  | cons first _ ih =>
    intro s plain
    obtain ⟨s', plain', moved⟩ := tokensFrom_piece plain first
    obtain ⟨value, cut⟩ := ih s' plain'
    refine ⟨value, fun rest => ?_⟩
    rw [List.append_assoc, moved, cut]

/-! ## Strings that stand for texts -/

namespace StringState

/-- A string of which a text has been read. -/
def after (cs : List Char) : StringState :=
  ⟨.plain, (Utf8.encode cs).reverse, none, true⟩

theorem isPlain_after (cs : List Char) : (after cs).IsPlain := rfl

theorem value?_after (cs : List Char) : (after cs).value? = some cs := by
  show Utf8.decode? (Utf8.encode cs).reverse.reverse = some cs
  rw [List.reverse_reverse, Utf8.decode?_encode]

/-- One more character. -/
theorem pushChar_after (cs : List Char) (c : Char) :
    (after cs).pushChar c = after (cs ++ [c]) := by
  unfold after pushChar
  simp [Utf8.encode_append]

/-- A character that an escape gives. -/
theorem pushUnit_after (cs : List Char) (c : Char) :
    (after cs).pushUnit c.toNat = after (cs ++ [c]) := by
  have valid : c.toNat < 0xD800 ∨ 0xDFFF < c.toNat ∧ c.toNat < 0x110000 := c.valid
  unfold pushUnit
  show (if (0xDC00 ≤ c.toNat && c.toNat ≤ 0xDFFF) = true then _
    else if (0xD800 ≤ c.toNat && c.toNat ≤ 0xDBFF) = true then _ else _) = _
  rw [if_neg (by simp; omega), if_neg (by simp; omega), Char.ofNat_toNat, pushChar_after]

/-- A character that a pair of escapes gives. -/
theorem pushUnit_pushUnit_after (cs : List Char) {c : Char} {high low : Nat} (hhigh : high < 0x400)
    (hlow : low < 0x400) (value : c.toNat = 0x10000 + high * 0x400 + low) :
    ((after cs).pushUnit (0xD800 + high)).pushUnit (0xDC00 + low) = after (cs ++ [c]) := by
  have first : (after cs).pushUnit (0xD800 + high)
      = { after cs with high := some (0xD800 + high) } := by
    unfold pushUnit
    show (if (0xDC00 ≤ 0xD800 + high && 0xD800 + high ≤ 0xDFFF) = true then _
      else if (0xD800 ≤ 0xD800 + high && 0xD800 + high ≤ 0xDBFF) = true then _ else _) = _
    rw [if_neg (by simp; omega), if_pos (by simp; omega)]
    rfl
  have same : (0xD800 + high - 0xD800) * 1024 + (0xDC00 + low - 0xDC00) + 0x10000 = c.toNat := by
    omega
  rw [first]
  unfold pushUnit
  show (if (0xDC00 ≤ 0xDC00 + low && 0xDC00 + low ≤ 0xDFFF) = true then _ else _) = _
  rw [if_pos (by simp; omega), same, Char.ofNat_toNat, ← pushChar_after]
  rfl

end StringState

/-- Bytes that need no escape. -/
theorem tokensFrom_bytes {bs : List UInt8} (h : ∀ b ∈ bs, 0x20 ≤ b ∧ b ≠ 0x22 ∧ b ≠ 0x5C)
    (acc rest : List UInt8) :
    (Lexer.string ⟨.plain, acc, none, true⟩).tokensFrom (bs ++ rest)
      = (Lexer.string ⟨.plain, bs.reverse ++ acc, none, true⟩).tokensFrom rest := by
  induction bs generalizing acc with
  | nil => rfl
  | cons b bs ih =>
    obtain ⟨visible, quote, backslash⟩ := h b List.mem_cons_self
    have plain : StringState.IsPlain ⟨.plain, acc, none, true⟩ := rfl
    have moved := ih (fun d hd => h d (List.mem_cons_of_mem b hd)) (b :: acc)
    rw [List.cons_append, tokensFrom_byte plain visible quote backslash, List.reverse_cons,
      List.append_assoc]
    exact moved

/-- **What may stand for a character is read as this character.** -/
theorem tokensFrom_spelledChar {c : Char} {bs : List UInt8} (h : SpelledChar c bs)
    (cs : List Char) (rest : List UInt8) :
    (Lexer.string (.after cs)).tokensFrom (bs ++ rest)
      = (Lexer.string (.after (cs ++ [c]))).tokensFrom rest := by
  have plain := StringState.isPlain_after cs
  cases h with
  | plain visible quote backslash =>
    have bytes := tokensFrom_bytes (fun b => visible_of_mem_encodeChar visible quote backslash)
      (Utf8.encode cs).reverse rest
    rw [← StringState.pushChar_after]
    exact bytes
  | letter h =>
    obtain ⟨unit, meaning, encoded⟩ := letterEscapes_spec _ h
    rw [← StringState.pushChar_after]
    refine (tokensFrom_letter plain unit meaning rest).trans ?_
    unfold StringState.pushChar
    rw [encoded]
    rfl
  | unit h => rw [tokensFrom_hex4 plain h, StringState.pushUnit_after]
  | pair first second hhigh hlow value =>
    rw [List.append_assoc, tokensFrom_hex4 plain first,
      tokensFrom_hex4 (StringState.isPlain_pushUnit ..) second,
      StringState.pushUnit_pushUnit_after cs hhigh hlow value]

/-- **What spells a text is its token.** -/
theorem tokens_spells {cs : List Char} {bs : List UInt8} (h : Spells cs bs) (rest : List UInt8) :
    tokens (bs ++ rest) = .string (some cs) :: tokens rest := by
  obtain ⟨h⟩ := h
  suffices inside : ∀ before, (Lexer.string (.after before)).tokensFrom (_ ++ 0x22 :: rest)
      = .string (some (before ++ cs)) :: tokens rest by
    rw [List.append_assoc]
    exact inside []
  induction h with
  | nil =>
    intro before
    rw [List.nil_append, tokensFrom_quote (StringState.isPlain_after _), StringState.value?_after,
      List.append_nil]
  | cons first _ ih =>
    intro before
    rw [List.append_assoc, tokensFrom_spelledChar first, ih, List.append_assoc]
    rfl

/-! ## Entries -/

/-- **An entry is its name, a colon and its value**, if the name is a token. -/
theorem tokens_entry {e : List UInt8 × List UInt8} {text : List UInt8} (h : IsEntry e text)
    {token : Token} (name : ∀ rest, tokens (e.1 ++ rest) = token :: tokens rest)
    (rest : List UInt8) :
    tokens (text ++ rest) = token :: .colon :: tokens (e.2 ++ rest) := by
  obtain ⟨before_, after_⟩ := h
  rw [List.append_assoc, name, List.append_assoc, tokens_blank before_, List.cons_append,
    tokens_colon, List.append_assoc, tokens_blank after_]

end Uplink.Json
