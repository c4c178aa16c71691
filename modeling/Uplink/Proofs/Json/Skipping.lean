import Uplink.Json.Record
import Uplink.Proofs.Json.Numerals

/-!
# Values that are skipped

Skipping works without recursion: it keeps the brackets that are open and what may come
next. A value is skipped if this brings it from where a value may come to where the
value is over, with the same brackets open (`Skips`). What happens then depends on the
brackets around it (`resume`), and so the induction over values is for all brackets at
once.

Arrays and objects differ in their brackets and in what stands between the commas. Both
are `Enclosed`, and one lemma takes them through their commas.
-/

namespace Uplink.Json

/-! ## Steps -/

/-- What happens once a value is over: the end, or a separator of what is around it. -/
def resume : Brackets → List Token → Except Fault (List Token)
  | [], rest => .ok rest
  | b :: outer, rest => skipFrom (b :: outer) .separator rest

/-- A token that leads to the end of a value. -/
theorem skipFrom_of_over {open_ open' : Brackets} {expect : SkipExpect} {token : Token}
    (h : skipStep open_ expect token = .ok (open', .separator)) (rest : List Token) :
    skipFrom open_ expect (token :: rest) = resume open' rest := by
  unfold skipFrom
  rw [h]
  cases open' <;> rfl

/-- A token that leads further into a value. -/
theorem skipFrom_of_more {open_ outer : Brackets} {inObject : Bool} {expect expect' : SkipExpect}
    {token : Token} (h : skipStep open_ expect token = .ok (inObject :: outer, expect'))
    (rest : List Token) :
    skipFrom open_ expect (token :: rest) = skipFrom (inObject :: outer) expect' rest := by
  conv => lhs; unfold skipFrom
  rw [h]

/-- Where a value may come. -/
def AwaitsValue (open_ : Brackets) (expect : SkipExpect) : Prop :=
  expect = .value ∨ expect = .opened ∧ open_.head? = some false

/-- What may come first, or after a comma, between brackets. -/
def Begins (inObject : Bool) (expect : SkipExpect) : Prop :=
  expect = .opened ∨ expect = if inObject then .name else .value

/-- Tokens that are values by themselves. -/
inductive IsScalar : Token → Prop
  | null : IsScalar .null
  | bool (b : Bool) : IsScalar (.bool b)
  | number (value : Option Number) : IsScalar (.number value)
  | string (value : Option (List Char)) : IsScalar (.string value)

section Await

variable {open_ : Brackets} {expect : SkipExpect} (h : AwaitsValue open_ expect)
include h

theorem skipStep_scalar {token : Token} (scalar : IsScalar token) :
    skipStep open_ expect token = .ok (open_, .separator) := by
  obtain rfl | ⟨rfl, head⟩ := h
  · cases scalar <;> rfl
  · obtain ⟨outer, rfl⟩ := List.head?_eq_some_iff.1 head
    cases scalar <;> rfl

/-- The bracket that opens an object or an array. -/
theorem skipStep_open (inObject : Bool) :
    skipStep open_ expect (if inObject then .objectStart else .arrayStart)
      = .ok (inObject :: open_, .opened) := by
  obtain rfl | ⟨rfl, head⟩ := h
  · cases inObject <;> rfl
  · obtain ⟨outer, rfl⟩ := List.head?_eq_some_iff.1 head
    cases inObject <;> rfl

end Await

/-- The bracket that closes it, at once or after a value. -/
theorem skipStep_close {inObject : Bool} {expect : SkipExpect}
    (h : expect = .opened ∨ expect = .separator) (outer : Brackets) :
    skipStep (inObject :: outer) expect (if inObject then .objectEnd else .arrayEnd)
      = .ok (outer, .separator) := by
  obtain rfl | rfl := h <;> cases inObject <;> rfl

theorem skipStep_comma (inObject : Bool) (outer : Brackets) :
    skipStep (inObject :: outer) .separator .comma
      = .ok (inObject :: outer, if inObject then .name else .value) := by
  cases inObject <;> rfl

/-! ## Values -/

/-- **A text is skipped** wherever a value may come. -/
def Skips (text : List UInt8) : Prop :=
  ∀ rest, Delimited rest → ∀ open_ expect, AwaitsValue open_ expect →
    skipFrom open_ expect (tokens (text ++ rest)) = resume open_ (tokens rest)

/-- A text is skipped as one of those between brackets. -/
def SkipsIn (inObject : Bool) (text : List UInt8) : Prop :=
  ∀ rest, Delimited rest → ∀ outer expect, Begins inObject expect →
    skipFrom (inObject :: outer) expect (tokens (text ++ rest))
      = skipFrom (inObject :: outer) .separator (tokens rest)

/-- A single token is skipped. -/
theorem skips_of_scalar {text : List UInt8} {token : Token} (scalar : IsScalar token)
    (h : ∀ rest, Delimited rest → tokens (text ++ rest) = token :: tokens rest) : Skips text :=
  fun rest delimited _ _ awaits => h rest delimited ▸
    skipFrom_of_over (skipStep_scalar awaits scalar) (tokens rest)

section Enclosed

variable {α : Type} {P : α → List UInt8 → Prop} {as : List α} {inObject : Bool} {bs : List UInt8}

/-- **Texts with commas between them** are skipped if each of them is. -/
theorem Listed.skipsIn (h : Listed P as bs)
    (each : ∀ a ∈ as, ∀ text, P a text → SkipsIn inObject text) : SkipsIn inObject bs := by
  induction h with
  | one before_ text_ after_ =>
    intro rest delimited outer expect begins
    rw [List.append_assoc, tokens_blank before_, List.append_assoc,
      each _ List.mem_cons_self _ text_ _ (delimited.append after_) outer expect begins,
      tokens_blank after_]
  | @more a as before text after bs before_ text_ after_ _ ih =>
    intro rest delimited outer expect begins
    have comma : Delimited (after ++ 0x2C :: (bs ++ rest)) :=
      Delimited.append after_ (.inr List.mem_cons_self)
    have next := ih (fun a ha => each a (List.mem_cons_of_mem _ ha)) rest delimited outer
      (if inObject then .name else .value) (.inr rfl)
    simp only [List.append_assoc, List.cons_append]
    rw [tokens_blank before_, each _ List.mem_cons_self _ text_ _ comma outer expect begins,
      tokens_blank after_, tokens_comma, skipFrom_of_more (skipStep_comma inObject outer), next]

variable (inObject) in
/-- **What is between brackets is skipped** with them. -/
theorem Enclosed.skips
    (h : Enclosed P (if inObject then 0x7B else 0x5B) (if inObject then 0x7D else 0x5D) as bs)
    (each : ∀ a ∈ as, ∀ text, P a text → SkipsIn inObject text) : Skips bs := by
  have first (rest : List UInt8) : tokens ((if inObject then 0x7B else 0x5B) :: rest)
      = (if inObject then .objectStart else .arrayStart) :: tokens rest := by
    cases inObject <;> simp
  have last (rest : List UInt8) : tokens ((if inObject then 0x7D else 0x5D) :: rest)
      = (if inObject then .objectEnd else .arrayEnd) :: tokens rest := by
    cases inObject <;> simp
  intro rest delimited open_ expect awaits
  cases h with
  | none blank =>
    rw [List.cons_append, first, skipFrom_of_more (skipStep_open awaits inObject),
      List.append_assoc, tokens_blank blank, List.singleton_append, last,
      skipFrom_of_over (skipStep_close (.inl rfl) open_)]
  | @some _ bs listed =>
    have closed : Delimited ((if inObject then 0x7D else 0x5D) :: rest) := by
      cases inObject
      · exact .inr (by decide)
      · exact .inr (by decide)
    rw [List.cons_append, first, skipFrom_of_more (skipStep_open awaits inObject),
      List.append_assoc, List.singleton_append,
      listed.skipsIn each _ closed open_ .opened (.inl rfl), last,
      skipFrom_of_over (skipStep_close (.inr rfl) open_)]

end Enclosed

/-- A value is skipped as an item of an array. -/
theorem Skips.skipsIn {text : List UInt8} (h : Skips text) : SkipsIn false text := by
  intro rest delimited outer expect begins
  refine h rest delimited (false :: outer) expect ?_
  obtain rfl | rfl := begins
  · exact .inr ⟨rfl, rfl⟩
  · exact .inl rfl

/-- **An entry is skipped** with its name, if its value is. -/
theorem IsEntry.skipsIn {e : List UInt8 × List UInt8} {text : List UInt8} (h : IsEntry e text)
    (name_ : IsString e.1) (value_ : Skips e.2) : SkipsIn true text := by
  obtain ⟨meaning, token⟩ := tokens_string name_
  intro rest delimited outer expect begins
  have named : skipStep (true :: outer) expect (.string meaning) = .ok (true :: outer, .colon) := by
    obtain rfl | rfl := begins <;> rfl
  have colon : skipStep (true :: outer) .colon .colon = .ok (true :: outer, .value) := rfl
  rw [tokens_entry h token, skipFrom_of_more named, skipFrom_of_more colon]
  exact value_ rest delimited (true :: outer) .value (.inl rfl)

/-- **Every value is skipped.** -/
theorem IsValue.skips {text : List UInt8} (h : IsValue text) : Skips text := by
  induction h with
  | null => exact skips_of_scalar .null fun rest _ => tokens_null rest
  | bool b => exact skips_of_scalar (.bool b) fun rest _ => tokens_bool b rest
  | number h =>
    obtain ⟨value, token⟩ := tokens_number h
    exact skips_of_scalar (.number value) token
  | string h =>
    obtain ⟨value, token⟩ := tokens_string h
    exact skips_of_scalar (.string value) fun rest _ => token rest
  | array _ h ih =>
    refine Enclosed.skips false h fun v hv text same => ?_
    subst same
    exact (ih v hv).skipsIn
  | object names _ h ih =>
    exact Enclosed.skips true h fun e he text entry =>
      entry.skipsIn (names e he) (ih e he)

/-- **`skip` takes a value** and nothing more. -/
theorem IsValue.skip_eq {text : List UInt8} (h : IsValue text) {rest : List UInt8}
    (delimited : Delimited rest) : skip (tokens (text ++ rest)) = .ok (tokens rest) :=
  h.skips rest delimited [] .value (.inl rfl)

/-- What is skipped takes a token at least. -/
theorem length_lt_of_skipFrom {open_ : Brackets} {expect : SkipExpect} {ts rest : List Token}
    (h : skipFrom open_ expect ts = .ok rest) : rest.length < ts.length := by
  induction ts generalizing open_ expect with
  | nil => cases h
  | cons token ts ih =>
    unfold skipFrom at h
    split at h
    · cases h
    · cases h
      exact Nat.lt_succ_self _
    · exact Nat.lt_succ_of_lt (ih h)

theorem IsValue.length_lt {text : List UInt8} (h : IsValue text) {rest : List UInt8}
    (delimited : Delimited rest) : (tokens rest).length < (tokens (text ++ rest)).length :=
  length_lt_of_skipFrom (h.skip_eq delimited)

end Uplink.Json
