import Uplink.Json.Text
import Uplink.Json.Token

/-!
# The grammar of JSON

What a JSON text is, without any reading of it. The parts of a text are byte strings,
and every predicate says which byte strings are such a part: there may be white space
wherever the format allows it, and characters of a string may be escaped or not.

There are two notions of a string. `Spells` relates a text to everything that may
stand for it between quotes, with an escaped surrogate pair as one character. For a
value whose meaning nobody asks for it is enough that it is well formed (`IsString`):
its escapes may be any four digits, half a pair among them.
-/

namespace Uplink.Json

/-! ## Strings -/

/-- **Four hexadecimal digits** that write a number. -/
inductive Hex4 : Nat → List UInt8 → Prop
  | digits {a b c d : UInt8} {w x y z : Nat} (first : hexValue? a = some w)
      (second : hexValue? b = some x) (third : hexValue? c = some y)
      (fourth : hexValue? d = some z) : Hex4 (((w * 16 + x) * 16 + y) * 16 + z) [a, b, c, d]

/-- The characters with an escape of one letter, and the letters. -/
def letterEscapes : List (Char × UInt8) :=
  [('"', 0x22), ('\\', 0x5C), ('/', 0x2F), ('\x08', 0x62), ('\x0c', 0x66), ('\n', 0x6E),
    ('\r', 0x72), ('\t', 0x74)]

/-- What may stand for a character in a string. -/
inductive SpelledChar : Char → List UInt8 → Prop
  | plain {c : Char} (visible : 0x20 ≤ c.toNat) (quote : c ≠ '"') (backslash : c ≠ '\\') :
      SpelledChar c (String.utf8EncodeChar c)
  | letter {c : Char} {b : UInt8} (h : (c, b) ∈ letterEscapes) : SpelledChar c [0x5C, b]
  | unit {c : Char} {bs : List UInt8} (h : Hex4 c.toNat bs) : SpelledChar c (0x5C :: 0x75 :: bs)
  | pair {c : Char} {high low : Nat} {bs ds : List UInt8} (first : Hex4 (0xD800 + high) bs)
      (second : Hex4 (0xDC00 + low) ds) (hhigh : high < 0x400) (hlow : low < 0x400)
      (value : c.toNat = 0x10000 + high * 0x400 + low) :
      SpelledChar c (0x5C :: 0x75 :: bs ++ 0x5C :: 0x75 :: ds)

/-- What may stand for characters in a string. -/
inductive Spelled : List Char → List UInt8 → Prop
  | nil : Spelled [] []
  | cons {c : Char} {cs : List Char} {bs ds : List UInt8} (first : SpelledChar c bs)
      (rest : Spelled cs ds) : Spelled (c :: cs) (bs ++ ds)

/-- **A string that stands for a text.** -/
inductive Spells : List Char → List UInt8 → Prop
  | quoted {cs : List Char} {bs : List UInt8} (h : Spelled cs bs) : Spells cs (0x22 :: bs ++ [0x22])

/-- A piece of a well-formed string. -/
inductive IsPiece : List UInt8 → Prop
  | byte {b : UInt8} (visible : 0x20 ≤ b) (quote : b ≠ 0x22) (backslash : b ≠ 0x5C) : IsPiece [b]
  | letter {c : Char} {b : UInt8} (h : (c, b) ∈ letterEscapes) : IsPiece [0x5C, b]
  | unit {n : Nat} {bs : List UInt8} (h : Hex4 n bs) : IsPiece (0x5C :: 0x75 :: bs)

/-- The inside of a well-formed string. -/
inductive IsQuotable : List UInt8 → Prop
  | nil : IsQuotable []
  | cons {bs ds : List UInt8} (first : IsPiece bs) (rest : IsQuotable ds) : IsQuotable (bs ++ ds)

/-- **A well-formed string.** -/
inductive IsString : List UInt8 → Prop
  | quoted {bs : List UInt8} (h : IsQuotable bs) : IsString (0x22 :: bs ++ [0x22])

theorem IsPiece.isQuotable {bs : List UInt8} (h : IsPiece bs) : IsQuotable bs := by
  have one := IsQuotable.cons h .nil
  rwa [List.append_nil] at one

theorem IsQuotable.append {bs ds : List UInt8} (h : IsQuotable bs) (h' : IsQuotable ds) :
    IsQuotable (bs ++ ds) := by
  induction h with
  | nil => exact h'
  | cons first _ ih => exact List.append_assoc .. ▸ .cons first ih

/-- Bytes that need no escape. -/
theorem isQuotable_of_forall {bs : List UInt8}
    (h : ∀ b ∈ bs, 0x20 ≤ b ∧ b ≠ 0x22 ∧ b ≠ 0x5C) : IsQuotable bs := by
  induction bs with
  | nil => exact .nil
  | cons b bs ih =>
    obtain ⟨visible, quote, backslash⟩ := h b List.mem_cons_self
    exact .cons (.byte visible quote backslash) (ih fun d hd => h d (List.mem_cons_of_mem b hd))

/-- A byte of an encoded character is the character itself or beyond ASCII. -/
theorem toNat_of_mem_encodeChar {c : Char} {b : UInt8} (h : b ∈ String.utf8EncodeChar c) :
    b.toNat = c.toNat ∨ 0x80 ≤ b.toNat := by
  have beyond {n : Nat} (low : 0x80 ≤ n) (high : n < 256) : 0x80 ≤ (UInt8.ofNat n).toNat :=
    (UInt8.toNat_ofNat_of_lt' high).symm ▸ low
  unfold String.utf8EncodeChar at h
  dsimp only at h
  split at h
  · rename_i small
    obtain rfl := List.mem_singleton.1 h
    exact .inl (UInt8.toNat_ofNat_of_lt' (Nat.lt_of_le_of_lt small (by decide)))
  right
  split at h
  · simp only [List.mem_cons, List.not_mem_nil, or_false] at h
    obtain rfl | rfl := h <;> exact beyond (by omega) (by omega)
  split at h <;> simp only [List.mem_cons, List.not_mem_nil, or_false] at h
  · obtain rfl | rfl | rfl := h <;> exact beyond (by omega) (by omega)
  · obtain rfl | rfl | rfl | rfl := h <;> exact beyond (by omega) (by omega)

/-- A character that needs no escape is encoded in bytes that need none. -/
theorem visible_of_mem_encodeChar {c : Char} (visible : 0x20 ≤ c.toNat) (quote : c ≠ '"')
    (backslash : c ≠ '\\') {b : UInt8} (h : b ∈ String.utf8EncodeChar c) :
    0x20 ≤ b ∧ b ≠ 0x22 ∧ b ≠ 0x5C := by
  have quote : c.toNat ≠ 0x22 := fun h => quote (Char.toNat_inj.1 h)
  have backslash : c.toNat ≠ 0x5C := fun h => backslash (Char.toNat_inj.1 h)
  have byte := toNat_of_mem_encodeChar h
  simp only [UInt8.le_iff_toNat_le, ne_eq, ← UInt8.toNat_inj, UInt8.reduceToNat]
  omega

/-- **What spells a text is a well-formed string.** -/
theorem Spells.isString {cs : List Char} {bs : List UInt8} (h : Spells cs bs) : IsString bs := by
  obtain ⟨h⟩ := h
  refine .quoted ?_
  induction h with
  | nil => exact .nil
  | cons first _ ih =>
    refine IsQuotable.append ?_ ih
    cases first with
    | plain visible quote backslash =>
      exact isQuotable_of_forall fun b => visible_of_mem_encodeChar visible quote backslash
    | letter h => exact (IsPiece.letter h).isQuotable
    | unit h => exact (IsPiece.unit h).isQuotable
    | pair first second => exact .cons (.unit first) (IsPiece.unit second).isQuotable

/-! ## Numbers -/

/-- Decimal digits, at least one. -/
def IsDigits (bs : List UInt8) : Prop :=
  bs ≠ [] ∧ ∀ b ∈ bs, isDigit b = true

/-- The digits before the point. No other number than zero starts with a zero. -/
inductive IsWhole : List UInt8 → Prop
  | zero : IsWhole [0x30]
  | positive {b : UInt8} {bs : List UInt8} (digit : isDigit b = true) (nonzero : b ≠ 0x30)
      (digits : ∀ d ∈ bs, isDigit d = true) : IsWhole (b :: bs)

/-- The part from the point on, if there is one. -/
inductive IsFraction : List UInt8 → Prop
  | none : IsFraction []
  | point {bs : List UInt8} (digits : IsDigits bs) : IsFraction (0x2E :: bs)

/-- The part from the `e` on, if there is one. -/
inductive IsExponent : List UInt8 → Prop
  | none : IsExponent []
  | mark {e : UInt8} {sign bs : List UInt8} (mark : e ∈ [0x65, 0x45])
      (sign_ : sign ∈ [[], [0x2B], [0x2D]]) (digits : IsDigits bs) : IsExponent (e :: (sign ++ bs))

/-- **A number**, however large. -/
inductive IsNumber : List UInt8 → Prop
  | parts {sign whole fraction exponent : List UInt8} (sign_ : sign ∈ [[], [0x2D]])
      (whole_ : IsWhole whole) (fraction_ : IsFraction fraction)
      (exponent_ : IsExponent exponent) : IsNumber (sign ++ (whole ++ (fraction ++ exponent)))

/-! ## Values -/

/-- White space, or nothing. -/
def Blank (bs : List UInt8) : Prop :=
  ∀ b ∈ bs, isSpace b = true

/-- **Texts with commas between them**, one text or more. What the texts are is left
open. -/
inductive Listed {α : Type} (P : α → List UInt8 → Prop) : List α → List UInt8 → Prop
  | one {a : α} {before text after : List UInt8} (before_ : Blank before) (text_ : P a text)
      (after_ : Blank after) : Listed P [a] (before ++ (text ++ after))
  | more {a : α} {as : List α} {before text after bs : List UInt8} (before_ : Blank before)
      (text_ : P a text) (after_ : Blank after) (rest : Listed P as bs) :
      Listed P (a :: as) (before ++ (text ++ (after ++ 0x2C :: bs)))

/-- Such texts between brackets, or nothing between them. -/
inductive Enclosed {α : Type} (P : α → List UInt8 → Prop) (first last : UInt8) :
    List α → List UInt8 → Prop
  | none {bs : List UInt8} (blank : Blank bs) : Enclosed P first last [] (first :: (bs ++ [last]))
  | some {as : List α} {bs : List UInt8} (listed : Listed P as bs) :
      Enclosed P first last as (first :: (bs ++ [last]))

/-- One text without white space around it. -/
theorem Listed.singleton {α : Type} {P : α → List UInt8 → Prop} {a : α} {text : List UInt8}
    (h : P a text) : Listed P [a] text := by
  have one : Listed P [a] ([] ++ (text ++ [])) := .one nofun h nofun
  rwa [List.nil_append, List.append_nil] at one

/-- One more text without white space around it. -/
theorem Listed.cons {α : Type} {P : α → List UInt8 → Prop} {a : α} {as : List α}
    {text bs : List UInt8} (h : P a text) (rest : Listed P as bs) :
    Listed P (a :: as) (text ++ 0x2C :: bs) :=
  @more α P a as [] text [] bs nofun h nofun rest

/-- An entry of an object: a name and a value with a colon between them. -/
inductive IsEntry : List UInt8 × List UInt8 → List UInt8 → Prop
  | colon {name value before after : List UInt8} (before_ : Blank before) (after_ : Blank after) :
      IsEntry (name, value) (name ++ (before ++ 0x3A :: (after ++ value)))

/-- **A value.** -/
inductive IsValue : List UInt8 → Prop
  | null : IsValue (Utf8.encode "null".toList)
  | bool (b : Bool) : IsValue (Utf8.encode (Text.bool b))
  | number {bs : List UInt8} (h : IsNumber bs) : IsValue bs
  | string {bs : List UInt8} (h : IsString bs) : IsValue bs
  | array {items : List (List UInt8)} {bs : List UInt8} (values : ∀ v ∈ items, IsValue v)
      (h : Enclosed Eq 0x5B 0x5D items bs) : IsValue bs
  | object {entries : List (List UInt8 × List UInt8)} {bs : List UInt8}
      (names : ∀ e ∈ entries, IsString e.1) (values : ∀ e ∈ entries, IsValue e.2)
      (h : Enclosed IsEntry 0x7B 0x7D entries bs) : IsValue bs

/-- An entry with a text as its name. -/
def IsNamed (e : String × List UInt8) (text : List UInt8) : Prop :=
  ∃ name, Spells e.1.toList name ∧ IsEntry (name, e.2) text

/-- **An object with texts as names**: its entries in their order, each with its name
and with the bytes of its value. -/
def IsObject (entries : List (String × List UInt8)) (bs : List UInt8) : Prop :=
  Enclosed IsNamed 0x7B 0x7D entries bs

section Enclosed

variable {α β : Type} {P : α → List UInt8 → Prop} {Q : β → List UInt8 → Prop} {R : β → Prop}
  {as : List α}

/-- The same texts seen as something else. -/
theorem Listed.imp {bs : List UInt8} (h : Listed P as bs)
    (each : ∀ a ∈ as, ∀ text, P a text → ∃ b, Q b text ∧ R b) :
    ∃ ds, Listed Q ds bs ∧ ∀ d ∈ ds, R d := by
  induction h with
  | one before_ text_ after_ =>
    obtain ⟨b, hb, good⟩ := each _ List.mem_cons_self _ text_
    exact ⟨[b], .one before_ hb after_, fun d hd => List.mem_singleton.1 hd ▸ good⟩
  | more before_ text_ after_ _ ih =>
    obtain ⟨b, hb, good⟩ := each _ List.mem_cons_self _ text_
    obtain ⟨ds, listed, all⟩ := ih fun a ha => each a (List.mem_cons_of_mem _ ha)
    exact ⟨b :: ds, .more before_ hb after_ listed, List.forall_mem_cons.2 ⟨good, all⟩⟩

theorem Enclosed.imp {first last : UInt8} {bs : List UInt8} (h : Enclosed P first last as bs)
    (each : ∀ a ∈ as, ∀ text, P a text → ∃ b, Q b text ∧ R b) :
    ∃ ds, Enclosed Q first last ds bs ∧ ∀ d ∈ ds, R d := by
  cases h with
  | none blank => exact ⟨[], .none blank, nofun⟩
  | some listed =>
    obtain ⟨ds, listed, all⟩ := listed.imp each
    exact ⟨ds, .some listed, all⟩

end Enclosed

/-- **An object of values is a value.** -/
theorem IsObject.isValue {entries : List (String × List UInt8)} {bs : List UInt8}
    (h : IsObject entries bs) (values : ∀ e ∈ entries, IsValue e.2) : IsValue bs := by
  have each : ∀ e ∈ entries, ∀ text, IsNamed e text →
      ∃ raw, IsEntry raw text ∧ IsString raw.1 ∧ IsValue raw.2 := by
    rintro ⟨name, value⟩ he text ⟨spelled, spells, entry⟩
    exact ⟨(spelled, value), entry, spells.isString, values _ he⟩
  obtain ⟨raw, enclosed, all⟩ := h.imp each
  exact .object (fun e he => (all e he).1) (fun e he => (all e he).2) enclosed

end Uplink.Json
