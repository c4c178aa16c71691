import Mathlib.Data.List.Forall2
import Uplink.Proofs.Json.Skipping

/-!
# Records from objects

What a record is read as does not depend on the order of its fields, on what else the
object has in it or on how all this is written. The fields of a record are told apart
by name, so the states in between are records of which some fields are given
(`Partition`): reading an entry gives one field more. That is the invariant of reading
the entries, and in the end the given fields are those that the object has.

An object that has certain fields (`ObjectOf`) says of each what texts its value may
have. A section is a field whose value is an object again.
-/

namespace Uplink.Json

/-! ## Objects with certain fields -/

/-- A field of an object: its name, and the texts that its value may have. -/
abbrev Content := String × (List UInt8 → Prop)

/-- **An object has certain fields**, but for some that are left out. Each of the others
is there once, in any place. What else is there has other names, and its values are
JSON. -/
inductive ObjectOf (contents : List Content) (omitted : List String) : List UInt8 → Prop
  | entries {entries : List (String × List UInt8)} {text : List UInt8}
      (object : IsObject entries text) (values : ∀ e ∈ entries, IsValue e.2)
      (absent : ∀ c ∈ contents, c.1 ∈ omitted → ∀ e ∈ entries, e.1 ≠ c.1)
      (present : ∀ c ∈ contents, c.1 ∉ omitted →
        ∃ value, entries.filter (·.1 = c.1) = [(c.1, value)] ∧ c.2 value) :
      ObjectOf contents omitted text

/-- Such an object is a value. -/
theorem ObjectOf.isValue {contents : List Content} {omitted : List String} {text : List UInt8}
    (h : ObjectOf contents omitted text) : IsValue text := by
  obtain ⟨object, values, _, _⟩ := h
  exact object.isValue values

/-! ## Records of which some fields are given -/

/-- What goes with an element. -/
theorem exists_of_forall₂ {α β : Type} {R : α → β → Prop} {as : List α} {bs : List β}
    (h : List.Forall₂ R as bs) {a : α} (ha : a ∈ as) : ∃ b ∈ bs, R a b := by
  induction h with
  | nil => cases ha
  | cons first _ ih =>
    obtain rfl | ha := List.mem_cons.1 ha
    · exact ⟨_, List.mem_cons_self, first⟩
    · obtain ⟨b, hb, related⟩ := ih ha
      exact ⟨b, List.mem_cons_of_mem _ hb, related⟩

section Records

variable {ρ : Type}

/-- A field reads a text as a change, and takes nothing more than that text. -/
def Field.Reads (f : Field ρ) (text : List UInt8) (change : ρ → ρ) : Prop :=
  ∀ rest, Delimited rest → f.read (tokens (text ++ rest)) = .ok (change, tokens rest)

/-- **A field supplies its part of a record** from some text: read where some other
fields are given already, it is given with them. -/
def Field.Supplies (f : Field ρ) (part : (String → Bool) → ρ) (text : List UInt8) : Prop :=
  ∃ change, f.Reads text change ∧ ∀ given, change (part given) = part fun n => n == f.name || given n

/-- **A record taken apart into fields**: `part` has the fields that are given, and
defaults elsewhere. Each field goes with what an object has for it. -/
structure Partition (fields : List (Field ρ)) (contents : List Content) (default_ : ρ)
    (part : (String → Bool) → ρ) : Prop where
  nothing : part (fun _ => false) = default_
  local_ : ∀ {given given'}, (∀ f ∈ fields, given f.name = given' f.name) → part given = part given'
  supplies : List.Forall₂ (fun f c => c.1 = f.name ∧ ∀ text, c.2 text → f.Supplies part text)
    fields contents
  optional : ∀ f ∈ fields, f.presence ≠ .required

/-- The names of entries that are names of fields. -/
def found (fields : List (Field ρ)) (entries : List (String × List UInt8)) : List String :=
  (entries.map Prod.fst).filter fun n => fields.any (·.name = n)

section Entries

variable {fields : List (Field ρ)} {part : (String → Bool) → ρ} {e : String × List UInt8}
  {entries : List (String × List UInt8)} {seen : List String}

theorem found_of_known {f : Field ρ} (hf : f ∈ fields) (name : f.name = e.1) :
    found fields (e :: entries) = e.1 :: found fields entries :=
  List.filter_cons_of_pos (List.any_eq_true.2 ⟨f, hf, decide_eq_true name⟩)

theorem found_of_unknown (h : ∀ f ∈ fields, f.name ≠ e.1) :
    found fields (e :: entries) = found fields entries :=
  List.filter_cons_of_neg fun known =>
    let ⟨f, hf, name⟩ := List.any_eq_true.1 known
    h f hf (of_decide_eq_true name)

theorem mem_found {n : String} :
    n ∈ found fields entries ↔ (∃ f ∈ fields, f.name = n) ∧ ∃ e ∈ entries, e.1 = n := by
  simp [found, and_comm]

/-- A named entry is its name, a colon and its value. -/
theorem tokens_named {text : List UInt8} (named : IsNamed e text) (rest : List UInt8) :
    tokens (text ++ rest) = .string (some e.1.toList) :: .colon :: tokens (e.2 ++ rest) := by
  obtain ⟨name, spells, entry⟩ := named
  exact tokens_entry entry (tokens_spells spells) rest

/-- **One entry is read**: with a known name its field is given, and otherwise it is
skipped. -/
theorem readEntry_of_named {text : List UInt8} (named : IsNamed e text) (value : IsValue e.2)
    (supplies : ∀ f ∈ fields, f.name = e.1 → f.Supplies part e.2)
    (new : (found fields [e] ++ seen).Nodup) {rest : List UInt8} (delimited : Delimited rest) :
    readEntry fields (part seen.contains) seen (tokens (text ++ rest))
      = .ok (part (found fields [e] ++ seen).contains, found fields [e] ++ seen, tokens rest) := by
  rw [tokens_named named]
  unfold readEntry
  simp only [readName, afterColon, bind, Except.bind, String.ofList_toList]
  cases known : fields.find? (·.name = e.1) with
  | none =>
    have unknown : found fields [e] = [] := found_of_unknown fun f hf name =>
      List.find?_eq_none.1 known f hf (decide_eq_true name)
    rw [unknown]
    dsimp only
    rw [value.skip_eq delimited]
    rfl
  | some f =>
    have hf := List.mem_of_find?_eq_some known
    have name : f.name = e.1 := by simpa using List.find?_some known
    have one : found fields [e] = [e.1] := found_of_known hf name
    rw [one] at new ⊢
    have fresh : f.name ∉ seen := name ▸ (List.nodup_cons.1 new).1
    obtain ⟨change, reads, gives⟩ := supplies f hf name
    have given : (fun n => n == f.name || seen.contains n) = (e.1 :: seen).contains :=
      funext fun n => by rw [name, List.contains_cons]
    dsimp only
    rw [if_neg fresh, reads rest delimited]
    show Except.ok (change (part seen.contains), f.name :: seen, tokens rest) = _
    rw [gives, given, name]
    rfl

theorem length_lt_of_named {text : List UInt8} (named : IsNamed e text) (value : IsValue e.2)
    {rest : List UInt8} (delimited : Delimited rest) :
    (tokens rest).length < (tokens (text ++ rest)).length := by
  rw [tokens_named named]
  exact Nat.lt_succ_of_lt (Nat.lt_succ_of_lt (value.length_lt delimited))

/-- An object has at least as many tokens as entries. -/
theorem length_le_of_listed {text : List UInt8} (h : Listed IsNamed entries text)
    (values : ∀ e ∈ entries, IsValue e.2) {rest : List UInt8} (delimited : Delimited rest) :
    entries.length ≤ (tokens (text ++ rest)).length := by
  induction h with
  | one before_ text_ after_ =>
    have longer := length_lt_of_named text_ (values _ List.mem_cons_self)
      (Delimited.append after_ delimited)
    rw [List.append_assoc, tokens_blank before_, List.append_assoc]
    exact Nat.succ_le_of_lt (Nat.zero_lt_of_lt longer)
  | @more a as before text after bs before_ text_ after_ _ ih =>
    have comma : Delimited (0x2C :: (bs ++ rest)) := .inr List.mem_cons_self
    have longer := length_lt_of_named text_ (values _ List.mem_cons_self) (comma.append after_)
    have shorter := ih fun e he => values e (List.mem_cons_of_mem _ he)
    simp only [List.append_assoc, List.cons_append]
    rw [tokens_blank before_]
    rw [tokens_blank after_, tokens_comma] at longer
    exact Nat.succ_le_of_lt (Nat.lt_trans (Nat.lt_succ_of_le shorter) longer)

/-- Reading goes on with an entry at the start and after a comma. -/
theorem readEntries_entry (fuel : Nat) (first : Bool) (r : ρ) (seen : List String)
    (name : List Char) (ts : List Token) :
    readEntries fields (fuel + 1) first r seen
        ((if first then [] else [.comma]) ++ .string (some name) :: ts)
      = (do
        let (r, seen, ts) ← readEntry fields r seen (.string (some name) :: ts)
        readEntries fields fuel false r seen ts) := by
  cases first <;> rfl

/-- **The entries of an object are read**, with enough fuel: what is given in the end
is what was given before and what the entries name. -/
theorem readEntries_of_listed {text : List UInt8} (h : Listed IsNamed entries text)
    (values : ∀ e ∈ entries, IsValue e.2)
    (supplies : ∀ e ∈ entries, ∀ f ∈ fields, f.name = e.1 → f.Supplies part e.2)
    (new : (found fields entries ++ seen).Nodup) {fuel : Nat} (enough : entries.length < fuel)
    (first : Bool) (rest : List UInt8) :
    ∃ seen', (∀ n, n ∈ seen' ↔ n ∈ found fields entries ∨ n ∈ seen)
      ∧ readEntries fields fuel first (part seen.contains) seen
          ((if first then [] else [.comma]) ++ tokens (text ++ 0x7D :: rest))
        = .ok ((part seen'.contains, seen'), tokens rest) := by
  induction h generalizing seen fuel first with
  | @one e before text after before_ text_ after_ =>
    obtain ⟨fuel, rfl⟩ : ∃ k, fuel = k + 1 + 1 := ⟨fuel - 2, by simp at enough; omega⟩
    have begins := tokens_named text_ (after ++ 0x7D :: rest)
    have closes : Delimited (0x7D :: rest) := .inr (by decide)
    have entry := readEntry_of_named text_ (values _ List.mem_cons_self)
      (supplies _ List.mem_cons_self) new (closes.append after_)
    refine ⟨found fields [e] ++ seen, fun n => List.mem_append, ?_⟩
    rw [List.append_assoc, tokens_blank before_, List.append_assoc, begins, readEntries_entry,
      ← begins, entry, tokens_blank after_, tokens_objectEnd]
    rfl
  | @more e es before text after bs before_ text_ after_ _ ih =>
    obtain ⟨fuel, rfl⟩ : ∃ k, fuel = k + 1 := ⟨fuel - 1, by simp at enough; omega⟩
    have begins := tokens_named text_ (after ++ 0x2C :: (bs ++ 0x7D :: rest))
    have comma : Delimited (0x2C :: (bs ++ 0x7D :: rest)) := .inr List.mem_cons_self
    have both : found fields (e :: es) = found fields [e] ++ found fields es :=
      List.filter_append [e.1] (es.map Prod.fst)
    have later : (found fields es ++ (found fields [e] ++ seen)).Nodup := by
      rw [both, List.append_assoc] at new
      rw [← List.append_assoc] at new ⊢
      exact (List.perm_append_comm.append_right seen).nodup_iff.1 new
    have entry := readEntry_of_named text_ (values _ List.mem_cons_self)
      (supplies _ List.mem_cons_self) (later.sublist (List.sublist_append_right ..))
      (comma.append after_)
    obtain ⟨seen', members, others⟩ := ih (fun e he => values e (List.mem_cons_of_mem _ he))
      (fun e he => supplies e (List.mem_cons_of_mem _ he)) later
      (Nat.lt_of_succ_lt_succ enough : es.length < fuel) false
    refine ⟨seen', fun n => ?_, ?_⟩
    · rw [members, both, List.mem_append, List.mem_append]
      exact or_left_comm.trans or_assoc.symm
    · simp only [List.append_assoc, List.cons_append]
      rw [tokens_blank before_, begins, readEntries_entry, ← begins, entry, tokens_blank after_,
        tokens_comma]
      exact others

/-- **An object is read**, from its opening on. -/
theorem readEntries_of_object {text : List UInt8} (object : IsObject entries text)
    (values : ∀ e ∈ entries, IsValue e.2)
    (supplies : ∀ e ∈ entries, ∀ f ∈ fields, f.name = e.1 → f.Supplies part e.2)
    (new : (found fields entries).Nodup) (rest : List UInt8) :
    ∃ ts seen, tokens (text ++ rest) = .objectStart :: ts
      ∧ (∀ n, n ∈ seen ↔ n ∈ found fields entries)
      ∧ readEntries fields (ts.length + 1) true (part fun _ => false) [] ts
        = .ok ((part seen.contains, seen), tokens rest) := by
  cases object with
  | @none bs blank =>
    refine ⟨.objectEnd :: tokens rest, [], ?_, fun n => Iff.rfl, rfl⟩
    rw [List.cons_append, tokens_objectStart, List.append_assoc, tokens_blank blank]
    rfl
  | @some _ bs listed =>
    have closes : Delimited (0x7D :: rest) := .inr (by decide)
    have new : (found fields entries ++ []).Nodup := (List.append_nil _).symm ▸ new
    obtain ⟨seen, members, read⟩ := readEntries_of_listed listed values supplies new
      (Nat.lt_succ_of_le (length_le_of_listed listed values closes)) true rest
    refine ⟨tokens (bs ++ 0x7D :: rest), seen, ?_, fun n => ?_, read⟩
    · rw [List.cons_append, tokens_objectStart, List.append_assoc]
      rfl
    · rw [members]
      exact or_iff_left nofun

end Entries

/-- Fields that are not required may be missing. -/
theorem forM_missing {fields : List (Field ρ)} (h : ∀ f ∈ fields, f.presence ≠ .required) :
    fields.forM (missing true) = .ok () := by
  induction fields with
  | nil => rfl
  | cons f fields ih =>
    have passes : missing true f = .ok () := by
      unfold missing
      cases presence : f.presence with
      | defaulted => rfl
      | optional => rfl
      | required => exact absurd presence (h f List.mem_cons_self)
    show (do missing true f; fields.forM (missing true)) = _
    rw [passes]
    exact ih fun g hg => h g (List.mem_cons_of_mem f hg)

section Partition

variable {fields : List (Field ρ)} {contents : List Content} {default_ : ρ}
  {part : (String → Bool) → ρ} (h : Partition fields contents default_ part)
  {omitted : List String} {entries : List (String × List UInt8)}
  (absent : ∀ c ∈ contents, c.1 ∈ omitted → ∀ e ∈ entries, e.1 ≠ c.1)
  (present : ∀ c ∈ contents, c.1 ∉ omitted →
    ∃ value, entries.filter (·.1 = c.1) = [(c.1, value)] ∧ c.2 value)
include h absent present

/-- **What the entries have for a field**: nothing if it is left out, and otherwise one
text that the field can use. -/
theorem Partition.entries_of_field {f : Field ρ} (hf : f ∈ fields) :
    f.name ∈ omitted ∧ entries.filter (·.1 = f.name) = []
      ∨ f.name ∉ omitted ∧ ∃ value, entries.filter (·.1 = f.name) = [(f.name, value)]
        ∧ f.Supplies part value := by
  obtain ⟨c, hc, name, supplies⟩ := exists_of_forall₂ h.supplies hf
  rw [← name]
  by_cases out : c.1 ∈ omitted
  · exact .inl ⟨out, List.filter_eq_nil_iff.2 fun e he same =>
      absent c hc out e he (of_decide_eq_true same)⟩
  · obtain ⟨value, only, good⟩ := present c hc out
    exact .inr ⟨out, value, only, supplies value good⟩

theorem Partition.supplies_of_mem {e : String × List UInt8} (he : e ∈ entries) {f : Field ρ}
    (hf : f ∈ fields) (name : f.name = e.1) : f.Supplies part e.2 := by
  have mem : e ∈ entries.filter (·.1 = f.name) :=
    List.mem_filter.2 ⟨he, decide_eq_true name.symm⟩
  obtain ⟨_, none⟩ | ⟨_, value, only, supplies⟩ := h.entries_of_field absent present hf
  · rw [none] at mem
    cases mem
  · rw [only] at mem
    obtain rfl := List.mem_singleton.1 mem
    exact supplies

/-- No field is there twice. -/
theorem Partition.nodup_found : (found fields entries).Nodup := by
  refine List.nodup_iff_count.2 fun n => ?_
  by_cases known : n ∈ found fields entries
  · obtain ⟨⟨f, hf, rfl⟩, _⟩ := mem_found.1 known
    have count : (found fields entries).count f.name ≤ (entries.filter (·.1 = f.name)).length := by
      refine Nat.le_trans (List.filter_sublist.count_le f.name) (Nat.le_of_eq ?_)
      rw [List.count, List.countP_map, List.countP_eq_length_filter]
      rfl
    obtain ⟨_, none⟩ | ⟨_, value, only, _⟩ := h.entries_of_field absent present hf
    · rw [none] at count
      exact Nat.le_trans count (by decide)
    · rw [only] at count
      exact count
  · rw [List.count_eq_zero_of_not_mem known]
    decide

/-- The fields that are there are those that are not left out. -/
theorem Partition.contains_iff {seen : List String}
    (members : ∀ n, n ∈ seen ↔ n ∈ found fields entries) {f : Field ρ} (hf : f ∈ fields) :
    seen.contains f.name = !omitted.contains f.name := by
  have mem : f.name ∈ seen ↔ f.name ∉ omitted := by
    rw [members, mem_found]
    obtain ⟨out, none⟩ | ⟨given, value, only, _⟩ := h.entries_of_field absent present hf
    · refine iff_of_false (fun ⟨_, e, he, name⟩ => ?_) (not_not_intro out)
      exact List.filter_eq_nil_iff.1 none e he (decide_eq_true name)
    · have mem : (f.name, value) ∈ entries.filter (·.1 = f.name) := only ▸ List.mem_singleton_self _
      exact iff_of_true ⟨⟨f, hf, rfl⟩, _, (List.mem_filter.1 mem).1, rfl⟩ given
  rw [Bool.eq_iff_iff, List.contains_iff_mem, mem]
  simp

end Partition

/-- **A record is read from an object**: the fields that the object has are given. -/
theorem readRecord_objectOf {fields : List (Field ρ)} {contents : List Content} {default_ : ρ}
    {part : (String → Bool) → ρ} (h : Partition fields contents default_ part)
    {omitted : List String} {text : List UInt8} (object : ObjectOf contents omitted text)
    (rest : List UInt8) :
    readRecord fields default_ (tokens (text ++ rest))
      = .ok (part fun n => !omitted.contains n, tokens rest) := by
  obtain ⟨object, values, absent, present⟩ := object
  obtain ⟨ts, seen, opens, members, read⟩ := readEntries_of_object object values
    (fun e he f hf => h.supplies_of_mem absent present he hf) (h.nodup_found absent present) rest
  have optional : ∀ f ∈ fields.filter (·.name ∉ seen), f.presence ≠ .required := fun f hf =>
    h.optional f (List.mem_filter.1 hf).1
  have given : part seen.contains = part fun n => !omitted.contains n :=
    h.local_ fun f hf => h.contains_iff absent present members hf
  rw [opens, ← h.nothing, ← given]
  simp only [readRecord, read, forM_missing optional, bind, Except.bind]
  rfl

end Records

end Uplink.Json
