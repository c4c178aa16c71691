import Uplink.Proofs.Json.Records

/-!
# What is written is JSON

A text that this library writes is one of the many that the grammar allows: it has no
white space, and it escapes no more than has to be escaped. So an object that is
written has the fields it was written with.
-/

namespace Uplink.Json

/-! ## Strings and numbers -/

/-- A control character in four digits. -/
theorem hex4_control {n : Nat} (h : n < 0x20) :
    Hex4 n (Utf8.encode ['0', '0', Nat.digitChar (n / 16), Nat.digitChar (n % 16)]) := by
  have digit : ∀ d < 16, hexValue? (.ofNat (Nat.digitChar d).toNat) = some d
      ∧ Utf8.encode [Nat.digitChar d] = [.ofNat (Nat.digitChar d).toNat] := by
    decide
  obtain ⟨third, encoded⟩ := digit (n / 16) (by omega)
  obtain ⟨fourth, encoded'⟩ := digit (n % 16) (by omega)
  have zero : hexValue? 0x30 = some 0 := by decide
  have value : ((0 * 16 + 0) * 16 + n / 16) * 16 + n % 16 = n := by omega
  have bytes : Utf8.encode ['0', '0', Nat.digitChar (n / 16), Nat.digitChar (n % 16)]
      = [0x30, 0x30, .ofNat (Nat.digitChar (n / 16)).toNat, .ofNat (Nat.digitChar (n % 16)).toNat] := by
    show 0x30 :: 0x30 :: Utf8.encode ([Nat.digitChar (n / 16)] ++ [Nat.digitChar (n % 16)]) = _
    rw [Utf8.encode_append, encoded, encoded']
    rfl
  rw [bytes]
  have digits := Hex4.digits zero zero third fourth
  rwa [value] at digits

/-- **What is written for a character may stand for it.** -/
theorem spelledChar_escape (c : Char) : SpelledChar c (Utf8.encode (Text.escape c)) := by
  unfold Text.escape
  split
  · exact .letter (b := 0x22) (by decide)
  · exact .letter (b := 0x5C) (by decide)
  · exact .letter (b := 0x62) (by decide)
  · exact .letter (b := 0x66) (by decide)
  · exact .letter (b := 0x6E) (by decide)
  · exact .letter (b := 0x72) (by decide)
  · exact .letter (b := 0x74) (by decide)
  · rename_i quote backslash _ _ _ _ _
    split
    · rename_i control
      exact .unit (hex4_control control)
    · rename_i visible
      have bytes : Utf8.encode [c] = String.utf8EncodeChar c := List.append_nil _
      rw [bytes]
      exact .plain (Nat.le_of_not_lt visible) quote backslash

theorem spelled_escape (cs : List Char) : Spelled cs (Utf8.encode (cs.flatMap Text.escape)) := by
  induction cs with
  | nil => exact .nil
  | cons c cs ih =>
    rw [List.flatMap_cons, Utf8.encode_append]
    exact .cons (spelledChar_escape c) ih

/-- **What is written for a text spells it.** -/
theorem spells_string (cs : List Char) : Spells cs (Utf8.encode (Text.string cs)) := by
  have bytes : Utf8.encode (Text.string cs)
      = 0x22 :: Utf8.encode (cs.flatMap Text.escape) ++ [0x22] :=
    Utf8.encode_append ('"' :: cs.flatMap Text.escape) ['"']
  rw [bytes]
  exact .quoted (spelled_escape cs)

theorem isNumber_nat (n : Nat) : IsNumber (Utf8.encode (Text.nat n)) := by
  have parts : IsNumber ([] ++ _) := .parts (by decide) (isWhole_decimal n) .none .none
  rwa [List.nil_append, List.nil_append, List.append_nil] at parts

/-! ## Objects -/

theorem isNamed_entry (name : String) (value : List Char) :
    IsNamed (name, Utf8.encode value)
      (Utf8.encode (Text.string name.toList ++ ':' :: value)) := by
  refine ⟨_, spells_string name.toList, ?_⟩
  rw [Utf8.encode_append]
  exact @IsEntry.colon _ _ [] [] nofun nofun

/-- Entries with commas between them. -/
theorem listed_intercalate (e : String × List Char) (entries : List (String × List Char)) :
    Listed IsNamed ((e :: entries).map fun e => (e.1, Utf8.encode e.2))
      (Utf8.encode ([','].intercalate
        ((e :: entries).map fun e => Text.string e.1.toList ++ ':' :: e.2))) := by
  induction entries generalizing e with
  | nil =>
    simpa using Listed.singleton (isNamed_entry e.1 e.2)
  | cons e' entries ih =>
    have more := Listed.cons (isNamed_entry e.1 e.2) (ih e')
    simp only [List.map_cons, List.intercalate_cons_cons] at more ⊢
    rw [Utf8.encode_append, Utf8.encode_append, List.append_assoc]
    exact more

/-- **What is written for an object is an object** of the same entries. -/
theorem isObject_object (entries : List (String × List Char)) :
    IsObject (entries.map fun e => (e.1, Utf8.encode e.2)) (Utf8.encode (Text.object entries)) := by
  have bytes : Utf8.encode (Text.object entries) = 0x7B :: (Utf8.encode ([','].intercalate
      (entries.map fun e => Text.string e.1.toList ++ ':' :: e.2)) ++ [0x7D]) :=
    Utf8.encode_append ('\x7b' :: [','].intercalate _) ['\x7d']
  rw [bytes]
  cases entries with
  | nil => exact .none nofun
  | cons e entries => exact .some (listed_intercalate e entries)

/-- An element with a name that no other has is all there is under this name. -/
theorem filter_eq_singleton {α : Type} {entries : List (String × α)} {e : String × α}
    (distinct : (entries.map Prod.fst).Nodup) (he : e ∈ entries) :
    entries.filter (·.1 = e.1) = [e] := by
  induction entries with
  | nil => cases he
  | cons d entries ih =>
    obtain ⟨new, distinct⟩ := List.nodup_cons.1 distinct
    obtain rfl | he := List.mem_cons.1 he
    · have others : entries.filter (·.1 = e.1) = [] := List.filter_eq_nil_iff.2 fun d hd same =>
        new (of_decide_eq_true same ▸ List.mem_map_of_mem hd)
      rw [List.filter_cons_of_pos (by simp), others]
    · have other : d.1 ≠ e.1 := fun same => new (same ▸ List.mem_map_of_mem he)
      rw [List.filter_cons_of_neg (by simpa using other), ih distinct he]

/-- **An object that is written has its fields**, and none is left out. -/
theorem objectOf_object {entries : List (String × List Char)} {contents : List Content}
    (h : List.Forall₂ (fun e c => e.1 = c.1 ∧ c.2 (Utf8.encode e.2)) entries contents)
    (values : ∀ e ∈ entries, IsValue (Utf8.encode e.2))
    (distinct : (entries.map Prod.fst).Nodup) :
    ObjectOf contents [] (Utf8.encode (Text.object entries)) := by
  refine .entries (isObject_object entries) (fun e he => ?_) (fun _ _ => nofun)
    (fun c hc _ => ?_)
  · obtain ⟨d, hd, rfl⟩ := List.mem_map.1 he
    exact values d hd
  · obtain ⟨e, he, name, good⟩ := exists_of_forall₂ h.flip hc
    refine ⟨Utf8.encode e.2, ?_, good⟩
    rw [List.filter_map, ← name]
    show (entries.filter (·.1 = e.1)).map _ = _
    rw [filter_eq_singleton distinct he]
    rfl

end Uplink.Json
