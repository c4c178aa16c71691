import Uplink.Proofs.Json.Lexing
import Uplink.Proofs.Literal
import Uplink.Proofs.Lossy

/-!
# Tokens of numbers

A number has no last byte of its own: it ends where the next byte cannot continue it.
So its token is there only if the text ends or a delimiter follows, and each part of a
number is read in the view of all that is still to come. `Finishes p bs f` says that
from the phase `p` on the bytes `bs` finish the number, and that they make `f` of the
digits read before. The parts are taken from the last one to the first.

A natural number in decimal digits has itself as its value as long as it fits in 64
bits.
-/

namespace Uplink.Json

/-- **From a phase on some bytes finish a number**, if a delimiter follows. -/
def Finishes (p : NumberPhase) (bs : List UInt8) (f : Literal → Literal) : Prop :=
  ∀ n rest, Delimited rest →
    (Lexer.number p n).tokensFrom (bs ++ rest) = .number (f n).value? :: tokens rest

/-- A delimiter continues no number, and it ends one that is complete. -/
theorem step_delimiter {p : NumberPhase} (complete : p.isComplete = true) {b : UInt8}
    (h : isSpace b = true ∨ b ∈ [0x2C, 0x5D, 0x7D]) (n : Literal) :
    (Lexer.number p n).step b = (.number n.value? :: (Lexer.enter b).1, (Lexer.enter b).2) := by
  have other : isDigit b = false ∧ (b == 0x2E) = false ∧ (b == 0x65 || b == 0x45) = false := by
    simp only [isSpace, Bool.or_eq_true, beq_iff_eq, List.mem_cons, List.not_mem_nil,
      or_false] at h
    obtain (((rfl | rfl) | rfl) | rfl) | rfl | rfl | rfl := h <;> decide
  obtain ⟨digit, point, mark⟩ := other
  cases p with
  | zero | whole | fraction | exponent =>
    simp [Lexer.step, NumberPhase.step, Lexer.numberEnd, NumberPhase.isComplete, digit, point, mark]
  | sign | point | mark | markSign => cases complete

theorem finishes_nil {p : NumberPhase} (complete : p.isComplete = true) : Finishes p [] id := by
  intro n rest delimited
  cases rest with
  | nil =>
    show (if p.isComplete = true then _ else _) = _
    rw [if_pos complete]
    rfl
  | cons b rest =>
    show ((Lexer.number p n).step b).1 ++ ((Lexer.number p n).step b).2.tokensFrom rest = _
    rw [step_delimiter complete delimited]
    rfl

/-- A byte that continues the number comes before what finishes it. -/
theorem Finishes.cons {p q : NumberPhase} {b : UInt8} {bs : List UInt8} {f push : Literal → Literal}
    (h : Finishes q bs f) (step : ∀ n, p.step n b = some (q, push n)) :
    Finishes p (b :: bs) (f ∘ push) := by
  intro n rest delimited
  have stepped : (Lexer.number p n).step b = ([], .number q (push n)) := by
    unfold Lexer.step
    dsimp only
    rw [step n]
  exact (tokensFrom_of_step stepped (bs ++ rest)).trans (h (push n) rest delimited)

/-- So do digits that stay in the phase. -/
theorem Finishes.digits {p : NumberPhase} {ds bs : List UInt8} {f : Literal → Literal}
    {push : Literal → Nat → Literal} (h : Finishes p bs f)
    (stays : ∀ n b, isDigit b = true → p.step n b = some (p, push n (b.toNat - 0x30)))
    (digits : ∀ d ∈ ds, isDigit d = true) :
    Finishes p (ds ++ bs) fun n => f (ds.foldl (fun n b => push n (b.toNat - 0x30)) n) := by
  induction ds with
  | nil => exact h
  | cons d ds ih =>
    have rest := ih fun b hb => digits b (List.mem_cons_of_mem d hb)
    exact rest.cons fun n => stays n d (digits d List.mem_cons_self)

/-! ## The parts of a number -/

section Digits

variable {b : UInt8} (digit : isDigit b = true) (n : Literal)
include digit

theorem step_whole : NumberPhase.whole.step n b = some (.whole, n.pushWhole (b.toNat - 0x30)) :=
  if_pos digit

theorem step_point : NumberPhase.point.step n b
    = some (.fraction, n.pushFraction (b.toNat - 0x30)) :=
  if_pos digit

theorem step_fraction : NumberPhase.fraction.step n b
    = some (.fraction, n.pushFraction (b.toNat - 0x30)) :=
  if_pos digit

theorem step_markSign : NumberPhase.markSign.step n b
    = some (.exponent, n.pushExponent (b.toNat - 0x30)) :=
  if_pos digit

theorem step_exponent : NumberPhase.exponent.step n b
    = some (.exponent, n.pushExponent (b.toNat - 0x30)) :=
  if_pos digit

theorem step_mark : NumberPhase.mark.step n b
    = some (.exponent, n.pushExponent (b.toNat - 0x30)) := by
  have plus : b ≠ 0x2B := by
    rintro rfl
    exact absurd digit (by decide)
  have minus : b ≠ 0x2D := by
    rintro rfl
    exact absurd digit (by decide)
  show (if (b == 0x2B) = true then _ else if (b == 0x2D) = true then _ else _) = _
  rw [if_neg (by simpa using plus), if_neg (by simpa using minus)]
  exact if_pos digit

theorem step_sign (nonzero : b ≠ 0x30) :
    NumberPhase.sign.step n b = some (.whole, n.pushWhole (b.toNat - 0x30)) := by
  show (if (b == 0x30) = true then _ else _) = _
  rw [if_neg (by simpa using nonzero)]
  exact if_pos digit

end Digits

/-- The exponent. -/
theorem finishes_exponent {e : List UInt8} (h : IsExponent e) {p : NumberPhase}
    (complete : p.isComplete = true) (open_ : p ≠ .exponent) : ∃ f, Finishes p e f := by
  have digits {ds : List UInt8} (h : ∀ d ∈ ds, isDigit d = true) : ∃ f, Finishes .exponent ds f := by
    have finishes := (finishes_nil (p := .exponent) rfl).digits
      (fun n _ digit => step_exponent digit n) h
    rw [List.append_nil] at finishes
    exact ⟨_, finishes⟩
  cases h with
  | none => exact ⟨_, finishes_nil complete⟩
  | @mark e sign bs mark sign_ written =>
    obtain ⟨filled, written⟩ := written
    have marked : ∃ f, Finishes .mark (sign ++ bs) f := by
      cases bs with
      | nil => exact absurd rfl filled
      | cons d ds =>
        have digit := written d List.mem_cons_self
        obtain ⟨f, rest⟩ := digits fun b hb => written b (List.mem_cons_of_mem d hb)
        simp only [List.mem_cons, List.not_mem_nil, or_false] at sign_
        obtain rfl | rfl | rfl := sign_
        · exact ⟨_, rest.cons (step_mark digit)⟩
        · exact ⟨_, (rest.cons (step_markSign digit)).cons fun n => rfl⟩
        · exact ⟨_, (rest.cons (step_markSign digit)).cons fun n => rfl⟩
    obtain ⟨f, marked⟩ := marked
    have step (n : Literal) : p.step n e = some (.mark, n) := by
      simp only [List.mem_cons, List.not_mem_nil, or_false] at mark
      obtain rfl | rfl := mark
      all_goals
        cases p with
        | zero | whole | fraction => rfl
        | exponent => exact absurd rfl open_
        | sign | point | mark | markSign => cases complete
    exact ⟨_, marked.cons step⟩

/-- Fraction and exponent. -/
theorem finishes_fraction {d e : List UInt8} (h : IsFraction d) (h' : IsExponent e)
    {p : NumberPhase} (whole : p = .zero ∨ p = .whole) : ∃ f, Finishes p (d ++ e) f := by
  cases h with
  | none => obtain rfl | rfl := whole <;> exact finishes_exponent h' rfl nofun
  | @point bs written =>
    obtain ⟨filled, written⟩ := written
    cases bs with
    | nil => exact absurd rfl filled
    | cons b bs =>
      obtain ⟨f, last⟩ := finishes_exponent h' (p := .fraction) rfl nofun
      have digits := (last.digits (fun n _ digit => step_fraction digit n)
        fun c hc => written c (List.mem_cons_of_mem b hc)).cons
          (step_point (written b List.mem_cons_self))
      obtain rfl | rfl := whole
      · exact ⟨_, digits.cons fun n => rfl⟩
      · exact ⟨_, digits.cons fun n => rfl⟩

/-- Digits before the point, as they are read. -/
def pushDigits (ds : List UInt8) (n : Literal) : Literal :=
  ds.foldl (fun n b => n.pushWhole (b.toNat - 0x30)) n

/-- **A whole number**: from the sign on its digits are read, and then it depends on
what comes. -/
theorem finishes_whole {w : List UInt8} (h : IsWhole w) (bs : List UInt8) :
    ∃ p, (p = .zero ∨ p = .whole)
      ∧ ∀ {f}, Finishes p bs f → Finishes .sign (w ++ bs) (f ∘ pushDigits w) := by
  cases h with
  | zero => exact ⟨.zero, .inl rfl, fun rest => rest.cons fun n => rfl⟩
  | positive digit nonzero digits =>
    exact ⟨.whole, .inr rfl, fun rest =>
      (rest.digits (fun n _ digit => step_whole digit n) digits).cons (step_sign digit · nonzero)⟩

/-! ## Numbers -/

/-- The bytes of the digits. -/
theorem mem_of_isDigit {b : UInt8} (digit : isDigit b = true) :
    b ∈ ([0x30, 0x31, 0x32, 0x33, 0x34, 0x35, 0x36, 0x37, 0x38, 0x39] : List UInt8) := by
  simp only [isDigit, Bool.and_eq_true, decide_eq_true_eq, UInt8.le_iff_toNat_le,
    UInt8.reduceToNat] at digit
  simp only [List.mem_cons, List.not_mem_nil, or_false, ← UInt8.toNat_inj, UInt8.reduceToNat]
  omega

/-- A digit where no token is open begins a number without a sign. -/
theorem tokens_digit {b : UInt8} (digit : isDigit b = true) (bs : List UInt8) :
    tokens (b :: bs) = (Lexer.number .sign (.start false)).tokensFrom (b :: bs) := by
  have digit := mem_of_isDigit digit
  simp only [List.mem_cons, List.not_mem_nil, or_false] at digit
  rcases digit with rfl | rfl | rfl | rfl | rfl | rfl | rfl | rfl | rfl | rfl <;> rfl

/-- Every whole number begins with a digit. -/
theorem tokens_whole {w : List UInt8} (h : IsWhole w) (bs : List UInt8) :
    tokens (w ++ bs) = (Lexer.number .sign (.start false)).tokensFrom (w ++ bs) := by
  cases h with
  | zero => exact tokens_digit rfl bs
  | positive digit => exact tokens_digit digit _

/-- **A number is a token**, with or without a value, if a delimiter follows. -/
theorem tokens_number {bs : List UInt8} (h : IsNumber bs) :
    ∃ value, ∀ rest, Delimited rest → tokens (bs ++ rest) = .number value :: tokens rest := by
  cases h with
  | @parts sign whole fraction exponent sign_ whole_ fraction_ exponent_ =>
    obtain ⟨p, first, from_⟩ := finishes_whole whole_ (fraction ++ exponent)
    obtain ⟨f, finishes⟩ := finishes_fraction fraction_ exponent_ first
    replace finishes := from_ finishes
    simp only [List.mem_cons, List.not_mem_nil, or_false] at sign_
    obtain rfl | rfl := sign_
    · refine ⟨(f (pushDigits whole (.start false))).value?, fun rest delimited => ?_⟩
      rw [List.nil_append, List.append_assoc, tokens_whole whole_, ← List.append_assoc]
      exact finishes _ rest delimited
    · exact ⟨(f (pushDigits whole (.start true))).value?, finishes (.start true)⟩

/-! ## Natural numbers -/

/-- The digits that are read are all there, the last one first. -/
theorem pushDigits_eq (ds : List UInt8) (n : Literal) :
    pushDigits ds n = { n with whole := (ds.map (·.toNat - 0x30)).reverse ++ n.whole } := by
  induction ds generalizing n with
  | nil => rfl
  | cons d ds ih =>
    refine (ih (n.pushWhole (d.toNat - 0x30))).trans ?_
    simp [Literal.pushWhole]

/-- A number that stays below the limit takes all its digits. -/
theorem fill_eq {limit value : Nat} {ds : List Nat}
    (h : ds.foldl (fun n d => n * 10 + d) value < limit) :
    Literal.fill limit value ds = (ds.foldl (fun n d => n * 10 + d) value, ds.length) := by
  have grows (value : Nat) (ds : List Nat) : value ≤ ds.foldl (fun n d => n * 10 + d) value := by
    induction ds generalizing value with
    | nil => exact Nat.le_refl value
    | cons d ds ih =>
      have next := ih (value * 10 + d)
      exact Nat.le_trans (by omega) next
  induction ds generalizing value with
  | nil => rfl
  | cons d ds ih =>
    have below : value * 10 + d < limit := Nat.lt_of_le_of_lt (grows _ ds) h
    unfold Literal.fill
    rw [if_pos below, ih h]
    rfl

/-- **A natural number has itself as its value**, as long as it fits in 64 bits. -/
theorem value?_of_digits {ds : List Nat} {n : Nat} (value : ds.foldl (fun n d => n * 10 + d) 0 = n)
    (fits : n < UInt64.size) :
    ({ Literal.start false with whole := ds.reverse } : Literal).value? = some (.int n) := by
  have filled : Literal.fill UInt64.size 0 ds = _ := fill_eq (value.symm ▸ fits)
  have scaled : ({ Literal.start false with whole := ds.reverse } : Literal).scaled = (n, 0) := by
    unfold Literal.scaled
    simp [filled, value, Literal.start, Literal.fill]
  unfold Literal.value?
  rw [scaled]
  rfl

/-- The bytes of decimal digits, and their values. -/
theorem bounds_of_isDigit {c : Char} (h : c.isDigit = true) : 0x30 ≤ c.toNat ∧ c.toNat ≤ 0x39 := by
  simp only [Char.isDigit, Bool.and_eq_true, decide_eq_true_eq, ge_iff_le,
    UInt32.le_iff_toNat_le] at h
  exact h

theorem encode_of_isDigit {cs : List Char} (h : ∀ c ∈ cs, c.isDigit = true) :
    Utf8.encode cs = cs.map (·.val.toUInt8) := by
  induction cs with
  | nil => rfl
  | cons c cs ih =>
    have small := (bounds_of_isDigit (h c List.mem_cons_self)).2
    rw [Utf8.encode_cons_of_plain (Nat.lt_of_le_of_lt small (by decide)),
      ih fun d hd => h d (List.mem_cons_of_mem c hd)]
    rfl

/-- **The decimal digits of a number are a whole number.** -/
theorem isWhole_decimal (n : Nat) : IsWhole (Utf8.encode (Ascii.decimal n)) := by
  have digits : ∀ c ∈ Ascii.decimal n, c.isDigit = true := fun c =>
    Nat.isDigit_of_mem_toDigits (by decide) (by decide)
  have byte : ∀ b ∈ Utf8.encode (Ascii.decimal n), isDigit b = true := by
    rw [encode_of_isDigit digits]
    intro b hb
    obtain ⟨c, hc, rfl⟩ := List.mem_map.1 hb
    have bounds := bounds_of_isDigit (digits c hc)
    simp only [isDigit, Bool.and_eq_true, decide_eq_true_eq, UInt8.le_iff_toNat_le,
      UInt8.reduceToNat]
    rw [Utf8.toNat_toUInt8_of_plain (Nat.lt_of_le_of_lt bounds.2 (by decide))]
    exact bounds
  obtain rfl | positive := Nat.eq_zero_or_pos n
  · exact .zero
  have first : (Ascii.decimal n).head? ≠ some '0' :=
    Ascii.head?_toDigits (by decide) (by decide) positive
  rw [encode_of_isDigit digits] at byte ⊢
  cases text : Ascii.decimal n with
  | nil => exact absurd text Nat.toDigits_ne_nil
  | cons c cs =>
    rw [text] at byte first digits
    have plain := Nat.lt_of_le_of_lt (bounds_of_isDigit (digits c List.mem_cons_self)).2
      (by decide : 0x39 < 0x80)
    exact .positive (byte _ List.mem_cons_self)
      (fun zero => first (congrArg some ((Utf8.eq_ofNat_iff plain 0x30).2 zero)))
      fun d hd => byte d (List.mem_cons_of_mem _ hd)

/-- What the bytes of decimal digits write. -/
theorem foldl_decimal (n : Nat) :
    ((Utf8.encode (Ascii.decimal n)).map (·.toNat - 0x30)).foldl (fun n d => n * 10 + d) 0 = n := by
  have digits : ∀ c ∈ Ascii.decimal n, c.isDigit = true := fun c =>
    Nat.isDigit_of_mem_toDigits (by decide) (by decide)
  have values : (Utf8.encode (Ascii.decimal n)).map (·.toNat - 0x30)
      = (Ascii.decimal n).map Ascii.digitValue := by
    rw [encode_of_isDigit digits, List.map_map]
    refine List.map_congr_left fun c hc => ?_
    have bounds := bounds_of_isDigit (digits c hc)
    show c.val.toUInt8.toNat - 0x30 = if c.isDigit = true then c.toNat - '0'.toNat else _
    rw [if_pos (digits c hc),
      Utf8.toNat_toUInt8_of_plain (Nat.lt_of_le_of_lt bounds.2 (by decide))]
    rfl
  rw [values, List.foldl_map]
  exact Ascii.ofDigits_toDigits (by decide) (by decide) n

/-- **A natural number that fits in 64 bits is its token**, if a delimiter follows. -/
theorem tokens_nat {n : Nat} (fits : n < UInt64.size) {rest : List UInt8}
    (delimited : Delimited rest) :
    tokens (Utf8.encode (Text.nat n) ++ rest) = .number (some (.int n)) :: tokens rest := by
  obtain ⟨p, first, from_⟩ := finishes_whole (isWhole_decimal n) []
  have complete : p.isComplete = true := by
    obtain rfl | rfl := first <;> rfl
  have finishes := from_ (finishes_nil complete) (.start false) rest delimited
  have value : (pushDigits (Utf8.encode (Ascii.decimal n)) (.start false)).value?
      = some (.int n) := by
    rw [pushDigits_eq]
    show ({ Literal.start false with whole := _ ++ [] } : Literal).value? = _
    rw [List.append_nil]
    exact value?_of_digits (foldl_decimal n) fits
  rw [List.append_nil, ← tokens_whole (isWhole_decimal n)] at finishes
  show tokens (Utf8.encode (Ascii.decimal n) ++ rest) = _
  rw [finishes, Function.comp_apply, id, value]

end Uplink.Json
