import Uplink.Text.Utf8

/-!
# Searching a text that was read lossily

A search for ASCII in the lossy reading of some bytes is a search in the bytes.
That is not obvious, because a malformed sequence is replaced and what is replaced
may be several bytes long: it has to be excluded that a replacement takes a letter
with it, or that it lets two letters meet that did not stand side by side.

Both are excluded by how a reading is made up (`Reading`). It consists of pieces.
A piece is one byte of ASCII, which stands for itself, or it is one byte or more
beyond ASCII, which is read as one character beyond ASCII, well-formed or replaced.
The decoder keeps to this because no range of a continuation byte has a byte of
ASCII in it, and so such a byte ends every sequence that is open (`Open`).
-/

namespace Uplink.Utf8

/-! ## Readings -/

/-- A character beyond ASCII. -/
def Beyond (c : Char) : Prop :=
  0x80 ≤ c.toNat

/-- **A reading of bytes**, piece by piece: a byte of ASCII as itself, and bytes
beyond ASCII as one character beyond ASCII. -/
inductive Reading : List Char → List UInt8 → Prop
  | nil : Reading [] []
  | ascii {b : UInt8} {cs : List Char} {bs : List UInt8} (plain : b < 0x80)
      (rest : Reading cs bs) : Reading (Char.ofNat b.toNat :: cs) (b :: bs)
  | other {c : Char} {cs : List Char} {taken bs : List UInt8} (beyond : Beyond c)
      (some : taken ≠ []) (high : ∀ b ∈ taken, 0x80 ≤ b) (rest : Reading cs bs) :
      Reading (c :: cs) (taken ++ bs)

/-! ## Sequences that have begun -/

/-- **What an open sequence comes to** if bytes within its ranges follow: a
character beyond ASCII. All these bytes are beyond ASCII themselves. -/
def Wide (value : Nat) : List (UInt8 × UInt8) → Prop
  | [] => Beyond (Char.ofNat value)
  | (low, high) :: later =>
    0x80 ≤ low ∧ ∀ b, low ≤ b → b ≤ high → Wide (value * 64 + b.toNat % 64) later

/-- A number beyond ASCII that is no surrogate is a character beyond ASCII. -/
theorem wide_nil {n : Nat} (beyond : 0x80 ≤ n)
    (valid : n < 0xD800 ∨ 0xDFFF < n ∧ n < 0x110000) : Wide n [] := by
  show 0x80 ≤ (Char.ofNat n).toNat
  unfold Char.ofNat
  rw [dif_pos valid]
  exact beyond

section Ranges

variable {value : Nat} {later : List (UInt8 × UInt8)}

/-- A range of continuation bytes adds the bits from its first to its last byte. -/
theorem wide_cons (first last : Nat) {low high : UInt8} (hlow : low.toNat = 0x80 + first)
    (hhigh : high.toNat = 0x80 + last) (six : last < 64)
    (h : ∀ n, first ≤ n → n ≤ last → Wide (value * 64 + n) later) :
    Wide value ((low, high) :: later) := by
  refine ⟨UInt8.le_iff_toNat_le.2 (hlow ▸ Nat.le_add_right _ _), fun b above below => ?_⟩
  have above := UInt8.le_iff_toNat_le.1 above
  have below := UInt8.le_iff_toNat_le.1 below
  exact h (b.toNat % 64) (by omega) (by omega)

/-- The range of all continuation bytes. -/
theorem wide_next (h : ∀ n, n < 64 → Wide (value * 64 + n) later) :
    Wide value ((0x80, 0xBF) :: later) :=
  wide_cons 0 63 rfl rfl (by decide) fun n _ below => h n (Nat.lt_succ_of_le below)

end Ranges

/-- **A leading byte beyond ASCII announces characters beyond ASCII.** The ranges
that are narrower than the others keep out what is overlong, a surrogate or too
large. -/
theorem wide_of_announce {b : UInt8} (high : 0x80 ≤ b) {value : Nat}
    {ranges : List (UInt8 × UInt8)} (h : announce b = some (value, ranges)) :
    ranges ≠ [] ∧ Wide value ranges := by
  unfold announce at h
  simp only [UInt8.lt_iff_toNat_lt, ← UInt8.toNat_inj, UInt8.reduceToNat] at h
  have high : 0x80 ≤ b.toNat := UInt8.le_iff_toNat_le.1 high
  rw [if_neg (Nat.not_lt.2 high)] at h
  split at h
  · -- a continuation byte leads nothing
    cases h
  split at h
  · -- `C2` to `DF`
    cases h
    exact ⟨List.cons_ne_nil _ _, wide_next fun n _ => wide_nil (by omega) (by omega)⟩
  split at h
  · -- `E0`, nothing overlong
    cases h
    exact ⟨List.cons_ne_nil _ _, wide_cons 0x20 63 rfl rfl (by decide) fun n _ _ =>
      wide_next fun m _ => wide_nil (by omega) (by omega)⟩
  split at h
  · -- `ED`, no surrogates
    cases h
    exact ⟨List.cons_ne_nil _ _, wide_cons 0 0x1F rfl rfl (by decide) fun n _ _ =>
      wide_next fun m _ => wide_nil (by omega) (by omega)⟩
  split at h
  · -- the others to `EF`
    cases h
    exact ⟨List.cons_ne_nil _ _, wide_next fun n _ =>
      wide_next fun m _ => wide_nil (by omega) (by omega)⟩
  split at h
  · -- `F0`, nothing overlong
    cases h
    exact ⟨List.cons_ne_nil _ _, wide_cons 0x10 63 rfl rfl (by decide) fun n _ _ =>
      wide_next fun m _ => wide_next fun k _ => wide_nil (by omega) (by omega)⟩
  split at h
  · -- `F1` to `F3`
    cases h
    exact ⟨List.cons_ne_nil _ _, wide_next fun n _ =>
      wide_next fun m _ => wide_next fun k _ => wide_nil (by omega) (by omega)⟩
  split at h
  · -- `F4`, nothing above `10FFFF`
    cases h
    exact ⟨List.cons_ne_nil _ _, wide_cons 0 0x0F rfl rfl (by decide) fun n _ _ =>
      wide_next fun m _ => wide_next fun k _ => wide_nil (by omega) (by omega)⟩
  · cases h

/-! ## The decoder makes readings -/

/-- **The state of the decoder after some bytes of a sequence**, none if no
sequence is open. -/
def Open : Option Partial → List UInt8 → Prop
  | none, taken => taken = []
  | some p, taken => taken ≠ [] ∧ (∀ b ∈ taken, 0x80 ≤ b) ∧ Wide p.value (p.range :: p.later)

/-- What the decoder reads from a state on, with replacements. -/
def lossyFrom (st : Option Partial) (bs : List UInt8) : List Char :=
  (scalarsFrom st bs).map (·.getD replacement)

theorem beyond_replacement : Beyond replacement := by
  show 0x80 ≤ replacement.toNat
  decide

/-- One step of the decoder, with replacements. -/
theorem lossyFrom_cons (st : Option Partial) (b : UInt8) (bs : List UInt8) :
    lossyFrom st (b :: bs)
      = (step st b).1.map (·.getD replacement) ++ lossyFrom (step st b).2 bs := by
  unfold lossyFrom
  cases st <;> exact List.map_append

/-- **From every state the decoder reads** what the open sequence has taken and
what follows. -/
def ReadsOn (bs : List UInt8) : Prop :=
  ∀ st taken, Open st taken → Reading (lossyFrom st bs) (taken ++ bs)

section Step

variable {bs : List UInt8} (h : ReadsOn bs)
include h

/-- A byte that is read where no sequence is open. -/
theorem ReadsOn.enter (b : UInt8) : Reading (lossyFrom none (b :: bs)) (b :: bs) := by
  rw [lossyFrom_cons]
  show Reading ((Utf8.enter b).1.map _ ++ lossyFrom (Utf8.enter b).2 bs) _
  unfold Utf8.enter
  by_cases plain : b < 0x80
  · rw [show announce b = some (b.toNat, []) from if_pos plain]
    exact .ascii plain (h none [] rfl)
  · have high : ∀ c ∈ [b], 0x80 ≤ c := fun c hc => List.mem_singleton.1 hc ▸ UInt8.not_lt.1 plain
    cases announced : announce b with
    | none => exact .other beyond_replacement (List.cons_ne_nil b []) high (h none [] rfl)
    | some announcement =>
      obtain ⟨value, ranges⟩ := announcement
      obtain ⟨more, wide⟩ := wide_of_announce (UInt8.not_lt.1 plain) announced
      cases ranges with
      | nil => exact absurd rfl more
      | cons range later => exact h (some ⟨value, range, later⟩) [b] ⟨nofun, high, wide⟩

/-- A byte that continues an open sequence. -/
theorem ReadsOn.proceed {p : Partial} {taken : List UInt8} (sequence : Open (some p) taken)
    {b : UInt8} (fits : p.range.1 ≤ b ∧ b ≤ p.range.2) :
    Reading (lossyFrom (some p) (b :: bs)) (taken ++ b :: bs) := by
  obtain ⟨_, high, low, wide⟩ := sequence
  have some : taken ++ [b] ≠ [] := List.concat_ne_nil b taken
  have high : ∀ c ∈ taken ++ [b], 0x80 ≤ c := by
    intro c hc
    obtain hc | hc := List.mem_append.1 hc
    · exact high c hc
    · exact List.mem_singleton.1 hc ▸ UInt8.le_trans low fits.1
  have wide := wide b fits.1 fits.2
  rw [lossyFrom_cons, List.append_cons]
  unfold step
  dsimp only
  rw [if_pos fits]
  cases later : p.later with
  | nil =>
    rw [later] at wide
    exact .other wide some high (h none [] rfl)
  | cons range rest =>
    rw [later] at wide
    exact h (.some ⟨_, range, rest⟩) (taken ++ [b]) ⟨some, high, wide⟩

/-- A byte that does not continue an open sequence ends it and is read afresh. -/
theorem ReadsOn.reject {p : Partial} {taken : List UInt8} (sequence : Open (some p) taken)
    {b : UInt8} (misfit : ¬ (p.range.1 ≤ b ∧ b ≤ p.range.2)) :
    Reading (lossyFrom (some p) (b :: bs)) (taken ++ b :: bs) := by
  have afresh : lossyFrom (some p) (b :: bs) = replacement :: lossyFrom none (b :: bs) := by
    rw [lossyFrom_cons, lossyFrom_cons]
    unfold step
    dsimp only
    rw [if_neg misfit]
    rfl
  rw [afresh]
  exact .other beyond_replacement sequence.1 sequence.2.1 (h.enter b)

end Step

theorem readsOn (bs : List UInt8) : ReadsOn bs := by
  induction bs with
  | nil =>
    intro st taken sequence
    cases st with
    | none =>
      obtain rfl : taken = [] := sequence
      exact .nil
    | some p => exact .other beyond_replacement sequence.1 sequence.2.1 .nil
  | cons b bs ih =>
    intro st taken sequence
    cases st with
    | none =>
      obtain rfl : taken = [] := sequence
      exact ih.enter b
    | some p =>
      by_cases fits : p.range.1 ≤ b ∧ b ≤ p.range.2
      · exact ih.proceed sequence fits
      · exact ih.reject sequence fits

/-- **The lossy reading is a reading.** -/
theorem reading_lossy (bs : List UInt8) : Reading (lossy bs) bs :=
  readsOn bs none [] rfl

/-! ## Searching -/

/-- A text of ASCII. -/
def Plain (text : List Char) : Prop :=
  ∀ c ∈ text, c.toNat < 0x80

/-- The byte that a character of ASCII is encoded as. -/
theorem encode_cons_of_plain {c : Char} (plain : c.toNat < 0x80) (text : List Char) :
    encode (c :: text) = c.val.toUInt8 :: encode text := by
  have one : c.utf8Size = 1 :=
    Char.utf8Size_eq_one_iff.2 (UInt32.le_iff_toNat_le.2 (Nat.le_of_lt_succ plain))
  rw [encode_cons, String.utf8EncodeChar_eq_singleton one]
  rfl

theorem toNat_toUInt8_of_plain {c : Char} (plain : c.toNat < 0x80) :
    c.val.toUInt8.toNat = c.toNat :=
  Nat.mod_eq_of_lt (Nat.lt_trans plain (by decide))

/-- A character and a byte of ASCII are the same if the byte encodes the
character. -/
theorem eq_ofNat_iff {c : Char} (plain : c.toNat < 0x80) (b : UInt8) :
    c = Char.ofNat b.toNat ↔ c.val.toUInt8 = b := by
  have valid : b.toNat.isValidChar := .inl (Nat.lt_trans b.toNat_lt (by decide))
  rw [← UInt8.toNat_inj, toNat_toUInt8_of_plain plain]
  constructor
  · rintro rfl
    unfold Char.ofNat
    rw [dif_pos valid]
    rfl
  · intro same
    rw [← same, Char.ofNat_toNat]

/-- A character beyond ASCII is no character of ASCII. -/
theorem not_mem_singleton_of_beyond {c d : Char} (plain : c.toNat < 0x80) (beyond : Beyond d) :
    c ∉ [d] := by
  intro mem
  obtain rfl := List.mem_singleton.1 mem
  exact Nat.not_le_of_lt plain beyond

/-- No byte beyond ASCII encodes a character of ASCII. -/
theorem toUInt8_not_mem_of_high {c : Char} (plain : c.toNat < 0x80) {taken : List UInt8}
    (high : ∀ b ∈ taken, 0x80 ≤ b) : c.val.toUInt8 ∉ taken := by
  intro mem
  have above := UInt8.le_iff_toNat_le.1 (high _ mem)
  rw [toNat_toUInt8_of_plain plain] at above
  exact Nat.not_le_of_lt plain above

section Front

variable {α : Type} {a : α} {l front rest : List α}

/-- A list does not start in a part that its first element does not occur in. -/
theorem not_prefix_append (new : a ∉ front) (some : front ≠ []) : ¬ a :: l <+: front ++ rest := by
  cases front with
  | nil => exact absurd rfl some
  | cons b front =>
    intro start
    exact new ((List.cons_prefix_cons.1 start).1 ▸ List.mem_cons_self)

/-- So it is not found there either. -/
theorem infix_append_iff (new : a ∉ front) : a :: l <:+: front ++ rest ↔ a :: l <:+: rest := by
  induction front with
  | nil => exact Iff.rfl
  | cons b front ih =>
    have later := ih fun mem => new (List.mem_cons_of_mem b mem)
    rw [List.cons_append, List.infix_cons_iff, ← List.cons_append, later]
    exact or_iff_right (not_prefix_append new (List.cons_ne_nil b front))

end Front

namespace Reading

variable {text cs : List Char} {bs : List UInt8}

/-- **A text of ASCII is a beginning of a reading** if its bytes are a beginning of
the bytes. -/
theorem prefix_iff (h : Reading cs bs) (plain : Plain text) :
    text <+: cs ↔ encode text <+: bs := by
  induction h generalizing text with
  | nil =>
    cases text with
    | nil => exact iff_of_true (List.prefix_refl []) (List.prefix_refl [])
    | cons c text =>
      rw [encode_cons_of_plain (plain c List.mem_cons_self), List.prefix_nil, List.prefix_nil]
      exact iff_of_false nofun nofun
  | @ascii b cs bs low rest ih =>
    cases text with
    | nil => exact iff_of_true List.nil_prefix List.nil_prefix
    | cons c text =>
      have first := plain c List.mem_cons_self
      rw [encode_cons_of_plain first, List.cons_prefix_cons, List.cons_prefix_cons,
        eq_ofNat_iff first, ih fun d hd => plain d (List.mem_cons_of_mem c hd)]
  | @other d cs taken bs beyond some high rest ih =>
    cases text with
    | nil => exact iff_of_true List.nil_prefix List.nil_prefix
    | cons c text =>
      have first := plain c List.mem_cons_self
      rw [encode_cons_of_plain first]
      exact iff_of_false
        (not_prefix_append (not_mem_singleton_of_beyond first beyond) (List.cons_ne_nil d []))
        (not_prefix_append (toUInt8_not_mem_of_high first high) some)

/-- **A text of ASCII is in a reading** if its bytes are in the bytes. -/
theorem infix_iff (h : Reading cs bs) (plain : Plain text) :
    text <:+: cs ↔ encode text <:+: bs := by
  cases text with
  | nil => exact iff_of_true List.nil_infix List.nil_infix
  | cons c text =>
    have first := plain c List.mem_cons_self
    induction h with
    | nil =>
      rw [encode_cons_of_plain first, List.infix_nil, List.infix_nil]
      exact iff_of_false nofun nofun
    | @ascii b cs bs low rest ih =>
      have same : c :: text <:+: cs ↔ encode (c :: text) <:+: bs := ih
      rw [List.infix_cons_iff, List.infix_cons_iff, same,
        (Reading.ascii low rest).prefix_iff plain]
    | @other d cs taken bs beyond some high rest ih =>
      have same : c :: text <:+: cs ↔ encode (c :: text) <:+: bs := ih
      rw [encode_cons_of_plain first] at same ⊢
      rw [infix_append_iff (toUInt8_not_mem_of_high first high), ← same]
      exact infix_append_iff (not_mem_singleton_of_beyond first beyond)

end Reading

/-- **Searching the lossy reading is searching the bytes**, for a text of ASCII. -/
theorem infix_lossy_iff {text : List Char} (plain : Plain text) (bs : List UInt8) :
    text <:+: lossy bs ↔ encode text <:+: bs :=
  (reading_lossy bs).infix_iff plain

end Uplink.Utf8
