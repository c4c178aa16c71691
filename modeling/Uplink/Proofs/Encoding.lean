import Uplink.Text.Utf8

/-!
# Encoded text is read back

A text is encoded character by character, so it is enough that one encoded character
is read back, whatever follows it. The encoder takes a character's bits apart in groups
of six, and the decoder's value after so many bytes is what the encoder has left to
take apart: `n / 64` before the byte that carries the last six bits of `n`.

What has to be looked at is the leading byte. It announces how many bytes follow, and
after four of the leading bytes the next byte has a narrower range than the others.
-/

namespace Uplink.Utf8

/-- A byte that was made of a small number is that number. -/
theorem toNat_ofNat {n : Nat} (h : n < 256) : (UInt8.ofNat n).toNat = n :=
  UInt8.toNat_ofNat_of_lt' h

/-! ## Continuation bytes -/

/-- **A continuation byte adds six bits.** -/
theorem scalarsFrom_continuation {n : Nat} {low high : UInt8} (above : low.toNat ≤ n % 64 + 128)
    (below : n % 64 + 128 ≤ high.toNat) (later : List (UInt8 × UInt8)) (rest : List UInt8) :
    scalarsFrom (some ⟨n / 64, (low, high), later⟩) (.ofNat (n % 64 + 128) :: rest) =
      match later with
      | [] => some (Char.ofNat n) :: scalarsFrom none rest
      | range :: later => scalarsFrom (some ⟨n, range, later⟩) rest := by
  have byte : (UInt8.ofNat (n % 64 + 128)).toNat = n % 64 + 128 := toNat_ofNat (by omega)
  have value : n / 64 * 64 + (n % 64 + 128) % 64 = n := by omega
  have fits : low ≤ UInt8.ofNat (n % 64 + 128) ∧ UInt8.ofNat (n % 64 + 128) ≤ high := by
    rw [UInt8.le_iff_toNat_le, UInt8.le_iff_toNat_le, byte]
    exact ⟨above, below⟩
  show (step _ _).1 ++ scalarsFrom (step _ _).2 rest = _
  unfold step
  dsimp only
  rw [if_pos fits, byte, value]
  cases later <;> rfl

/-- A leading byte opens the sequence that it announces. -/
theorem scalarsFrom_leading {b : UInt8} {value : Nat} {range : UInt8 × UInt8}
    {later : List (UInt8 × UInt8)} (announced : announce b = some (value, range :: later))
    (rest : List UInt8) :
    scalarsFrom none (b :: rest) = scalarsFrom (some ⟨value, range, later⟩) rest := by
  show (enter b).1 ++ scalarsFrom (enter b).2 rest = _
  unfold enter
  rw [announced]
  rfl

/-! ## Leading bytes -/

section Leading

variable {v : Nat}

/-- A byte of ASCII announces nothing more. -/
theorem announce_one (h : v < 0x80) : announce (.ofNat v) = some (v, []) := by
  unfold announce
  simp only [UInt8.lt_iff_toNat_lt, UInt8.reduceToNat]
  rw [toNat_ofNat (by omega), if_pos h]

/-- Two bytes. -/
theorem announce_two (h : 0x80 ≤ v) (h' : v < 0x800) :
    announce (.ofNat (v / 64 % 32 + 192)) = some (v / 64, [(0x80, 0xBF)]) := by
  have bits : (v / 64 % 32 + 192) % 32 = v / 64 := by omega
  unfold announce
  simp only [UInt8.lt_iff_toNat_lt, UInt8.reduceToNat]
  rw [toNat_ofNat (by omega), if_neg (by omega), if_neg (by omega), if_pos (by omega), bits]

/-- **Three bytes**: the second is within the range that is announced for it. -/
theorem announce_three (h : 0x800 ≤ v) (h' : v < 0x10000) (valid : v < 0xD800 ∨ 0xDFFF < v) :
    ∃ low high : UInt8, announce (.ofNat (v / 4096 % 16 + 224))
        = some (v / 64 / 64, [(low, high), (0x80, 0xBF)])
      ∧ low.toNat ≤ v / 64 % 64 + 128 ∧ v / 64 % 64 + 128 ≤ high.toNat := by
  have byte : (UInt8.ofNat (v / 4096 % 16 + 224)).toNat = v / 4096 % 16 + 224 :=
    toNat_ofNat (by omega)
  unfold announce
  simp only [UInt8.lt_iff_toNat_lt, ← UInt8.toNat_inj, UInt8.reduceToNat, byte]
  rw [if_neg (by omega), if_neg (by omega), if_neg (by omega)]
  split
  · exact ⟨0xA0, 0xBF, by rw [show v / 64 / 64 = 0 by omega],
      show 160 ≤ _ by omega, show _ ≤ 191 by omega⟩
  split
  · exact ⟨0x80, 0x9F, by rw [show v / 64 / 64 = 13 by omega],
      show 128 ≤ _ by omega, show _ ≤ 159 by omega⟩
  · rw [if_pos (by omega), show (v / 4096 % 16 + 224) % 16 = v / 64 / 64 by omega]
    exact ⟨0x80, 0xBF, rfl, show 128 ≤ _ by omega, show _ ≤ 191 by omega⟩

/-- **Four bytes.** -/
theorem announce_four (h : 0x10000 ≤ v) (h' : v < 0x110000) :
    ∃ low high : UInt8, announce (.ofNat (v / 262144 % 8 + 240))
        = some (v / 64 / 64 / 64, [(low, high), (0x80, 0xBF), (0x80, 0xBF)])
      ∧ low.toNat ≤ v / 64 / 64 % 64 + 128 ∧ v / 64 / 64 % 64 + 128 ≤ high.toNat := by
  have byte : (UInt8.ofNat (v / 262144 % 8 + 240)).toNat = v / 262144 % 8 + 240 :=
    toNat_ofNat (by omega)
  unfold announce
  simp only [UInt8.lt_iff_toNat_lt, ← UInt8.toNat_inj, UInt8.reduceToNat, byte]
  rw [if_neg (by omega), if_neg (by omega), if_neg (by omega), if_neg (by omega),
    if_neg (by omega), if_neg (by omega)]
  split
  · exact ⟨0x90, 0xBF, by rw [show v / 64 / 64 / 64 = 0 by omega],
      show 144 ≤ _ by omega, show _ ≤ 191 by omega⟩
  split
  · rw [show (v / 262144 % 8 + 240) % 8 = v / 64 / 64 / 64 by omega]
    exact ⟨0x80, 0xBF, rfl, show 128 ≤ _ by omega, show _ ≤ 191 by omega⟩
  · rw [if_pos (by omega)]
    exact ⟨0x80, 0x8F, by rw [show v / 64 / 64 / 64 = 4 by omega],
      show 128 ≤ _ by omega, show _ ≤ 143 by omega⟩

end Leading

/-! ## Texts -/

/-- **An encoded character is read back**, whatever follows it. -/
theorem scalarsFrom_encodeChar (c : Char) (rest : List UInt8) :
    scalarsFrom none (String.utf8EncodeChar c ++ rest) = some c :: scalarsFrom none rest := by
  have valid : c.val.toNat < 0xD800 ∨ 0xDFFF < c.val.toNat ∧ c.val.toNat < 0x110000 := c.valid
  have same : Char.ofNat c.val.toNat = c := Char.ofNat_toNat c
  unfold String.utf8EncodeChar
  generalize c.val.toNat = v at valid same
  subst same
  dsimp only
  split
  · show (enter _).1 ++ scalarsFrom (enter _).2 rest = _
    unfold enter
    rw [announce_one (by omega)]
    rfl
  split
  · rw [List.cons_append, scalarsFrom_leading (announce_two (by omega) (by omega))]
    exact scalarsFrom_continuation (show 128 ≤ _ by omega) (show _ ≤ 191 by omega) [] rest
  split
  · obtain ⟨low, high, announced, above, below⟩ :=
      announce_three (v := v) (by omega) (by omega) (by omega)
    rw [List.cons_append, scalarsFrom_leading announced, List.cons_append,
      scalarsFrom_continuation above below]
    exact scalarsFrom_continuation (show 128 ≤ _ by omega) (show _ ≤ 191 by omega) [] rest
  · obtain ⟨low, high, announced, above, below⟩ :=
      announce_four (v := v) (by omega) (by omega)
    rw [List.cons_append, scalarsFrom_leading announced, List.cons_append,
      show v / 4096 = v / 64 / 64 by omega, scalarsFrom_continuation above below]
    dsimp only
    rw [List.cons_append,
      scalarsFrom_continuation (show 128 ≤ _ by omega) (show _ ≤ 191 by omega)]
    exact scalarsFrom_continuation (show 128 ≤ _ by omega) (show _ ≤ 191 by omega) [] rest

/-- **An encoded text is read back.** -/
theorem decode?_encode (cs : List Char) : decode? (encode cs) = some cs := by
  have pieces : scalars (encode cs) = cs.map some := by
    induction cs with
    | nil => rfl
    | cons c cs ih => exact (scalarsFrom_encodeChar c (encode cs)).trans (congrArg _ ih)
  unfold decode?
  rw [pieces, List.mapM_map, show id ∘ some = fun c : Char => pure (id c) from rfl,
    List.mapM_pure, List.map_id]
  rfl

end Uplink.Utf8
