import Mathlib.Data.List.TakeWhile
import Uplink.Resolver

/-!
# Hosts that are addresses

A URL may name its host by an address. The host is text by then: decimal octets, or
hexadecimal groups in brackets with the longest run of zeros left out. Whoever looks
for the endpoints reads that text, and what is read is the address that was written,
so such a host is never looked up (`Url.literal?_v4`, `Url.literal?_v6`).

Reading back goes piece by piece. A number is read back from its digits, and digits
are no separators, so splitting at the separators gives the pieces. What takes an
argument is the place of the run that is left out. Every piece has a digit, so two
colons in a row stand for the run and for nothing else, and because the run has at
least two groups, the groups that are written are few enough to leave room for it.
-/

namespace Uplink

/-! ## Digits -/

namespace Ascii

variable {radix : Nat}

/-- A digit has the value that it writes. -/
theorem digitValue_digitChar : ∀ d < 16, digitValue d.digitChar = d := by
  decide

theorem isHexDigit_digitChar : ∀ d < 16, isHexDigit d.digitChar = true := by
  decide

theorem ofDigits_concat (radix : Nat) (cs : List Char) (c : Char) :
    ofDigits radix (cs ++ [c]) = ofDigits radix cs * radix + digitValue c :=
  List.foldl_append

@[simp] theorem ofDigits_singleton (radix : Nat) (c : Char) :
    ofDigits radix [c] = digitValue c := by
  simp [ofDigits]

/-- **Digits come one by one**: what holds of every digit, and of a number with one
more digit if it holds of the number, holds of all numbers and their digits. -/
theorem toDigits_induction {P : Nat → List Char → Prop} (h : 1 < radix)
    (one : ∀ d < radix, P d [d.digitChar])
    (more : ∀ n cs, 0 < n → P n cs → ∀ d < radix, P (radix * n + d) (cs ++ [d.digitChar]))
    (n : Nat) : P n (Nat.toDigits radix n) := by
  induction n using Nat.strongRecOn with
  | ind n ih =>
    have zero : 0 < radix := Nat.lt_trans Nat.zero_lt_one h
    by_cases small : n < radix
    · exact Nat.toDigits_of_lt_base small ▸ one n small
    · have large : radix ≤ n := Nat.le_of_not_lt small
      have shorter : n / radix < n := Nat.div_lt_self (Nat.lt_of_lt_of_le zero large) h
      have step := more (n / radix) _ (Nat.div_pos large zero) (ih _ shorter)
        (n % radix) (Nat.mod_lt n zero)
      rwa [Nat.div_add_mod, ← Nat.toDigits_of_base_le h large] at step

/-- **A number is read back from its digits.** -/
theorem ofDigits_toDigits (h : 1 < radix) (h' : radix ≤ 16) (n : Nat) :
    ofDigits radix (Nat.toDigits radix n) = n := by
  refine toDigits_induction (P := fun n cs => ofDigits radix cs = n) h (fun d hd => ?_)
    (fun n cs _ read d hd => ?_) n
  · rw [ofDigits_singleton]
    exact digitValue_digitChar d (Nat.lt_of_lt_of_le hd h')
  · rw [ofDigits_concat, read, Nat.mul_comm]
    exact congrArg (radix * n + ·) (digitValue_digitChar d (Nat.lt_of_lt_of_le hd h'))

/-- Digits of a radix up to 16 are hexadecimal digits. -/
theorem isHexDigit_of_mem_toDigits (h : 1 < radix) (h' : radix ≤ 16) (n : Nat) :
    ∀ c ∈ Nat.toDigits radix n, isHexDigit c = true := by
  have digit {c : Char} {d : Nat} (hd : d < radix) (hc : c ∈ [d.digitChar]) :
      isHexDigit c = true :=
    List.mem_singleton.1 hc ▸ isHexDigit_digitChar d (Nat.lt_of_lt_of_le hd h')
  refine toDigits_induction (P := fun _ cs => ∀ c ∈ cs, isHexDigit c = true) h
    (fun d hd c => digit hd) (fun n cs _ earlier d hd c hc => ?_) n
  exact (List.mem_append.1 hc).elim (earlier c) (digit hd)

/-- **Only zero starts with a zero.** -/
theorem head?_toDigits (h : 1 < radix) (h' : radix ≤ 16) {n : Nat} (positive : 0 < n) :
    (Nat.toDigits radix n).head? ≠ some '0' := by
  have nonzero : ∀ d < 16, 0 < d → d.digitChar ≠ '0' := by decide
  have first : ∃ c rest, Nat.toDigits radix n = c :: rest ∧ (0 < n → c ≠ '0') := by
    refine toDigits_induction (P := fun n cs => ∃ c rest, cs = c :: rest ∧ (0 < n → c ≠ '0')) h
      (fun d hd => ⟨d.digitChar, [], rfl, nonzero d (Nat.lt_of_lt_of_le hd h')⟩)
      (fun n cs hn earlier d _ => ?_) n
    obtain ⟨c, rest, rfl, hc⟩ := earlier
    exact ⟨c, rest ++ [d.digitChar], rfl, fun _ => hc hn⟩
  obtain ⟨c, rest, text, hc⟩ := first
  rw [text]
  exact fun zero => hc positive (Option.some.inj zero)

/-! ## Splitting -/

/-- A text without separators is one piece. -/
theorem splitOn_of_not {isSep : Char → Bool} {cs : List Char} (h : ∀ c ∈ cs, isSep c = false) :
    splitOn isSep cs = [cs] := by
  induction cs with
  | nil => rfl
  | cons c cs ih =>
    unfold splitOn
    rw [h c List.mem_cons_self, ih fun d hd => h d (List.mem_cons_of_mem c hd)]
    rfl

/-- **The first piece ends at the first separator.** -/
theorem splitOn_append {isSep : Char → Bool} {piece : List Char}
    (h : ∀ c ∈ piece, isSep c = false) {sep : Char} (hs : isSep sep = true) (cs : List Char) :
    splitOn isSep (piece ++ sep :: cs) = piece :: splitOn isSep cs := by
  induction piece with
  | nil => exact if_pos hs
  | cons c piece ih =>
    rw [List.cons_append, splitOn, h c List.mem_cons_self,
      ih fun d hd => h d (List.mem_cons_of_mem c hd)]
    rfl

/-- **Pieces without the separator are read back from the text that joins
them.** -/
theorem splitOn_intercalate {sep : Char} {pieces : List (List Char)} (nonempty : pieces ≠ [])
    (h : ∀ piece ∈ pieces, sep ∉ piece) :
    splitOn (· == sep) ([sep].intercalate pieces) = pieces := by
  have plain {piece : List Char} (mem : piece ∈ pieces) : ∀ c ∈ piece, (c == sep) = false :=
    fun c hc => beq_eq_false_iff_ne.2 fun same => h piece mem (same ▸ hc)
  induction pieces with
  | nil => exact absurd rfl nonempty
  | cons piece rest ih =>
    cases rest with
    | nil =>
      rw [List.intercalate_singleton]
      exact splitOn_of_not (plain List.mem_cons_self)
    | cons next rest =>
      rw [List.intercalate_cons_cons, List.append_assoc, List.singleton_append,
        splitOn_append (plain List.mem_cons_self) (beq_self_eq_true sep),
        ih (List.cons_ne_nil _ _) (fun p hp => h p (List.mem_cons_of_mem _ hp))
          (fun mem => plain (List.mem_cons_of_mem _ mem))]

/-- What is in a joined text is a separator or from one of the pieces. -/
theorem mem_intercalate {sep c : Char} {pieces : List (List Char)}
    (h : c ∈ [sep].intercalate pieces) : (∃ piece ∈ pieces, c ∈ piece) ∨ c = sep := by
  induction pieces with
  | nil => cases h
  | cons piece rest ih =>
    cases rest with
    | nil =>
      rw [List.intercalate_singleton] at h
      exact .inl ⟨piece, List.mem_cons_self, h⟩
    | cons next rest =>
      rw [List.intercalate_cons_cons, List.append_assoc, List.singleton_append] at h
      obtain h | h := List.mem_append.1 h
      · exact .inl ⟨piece, List.mem_cons_self, h⟩
      obtain rfl | h := List.mem_cons.1 h
      · exact .inr rfl
      · exact (ih h).imp (fun ⟨p, hp, hc⟩ => ⟨p, List.mem_cons_of_mem piece hp, hc⟩) id

end Ascii

/-! ## IPv4 addresses -/

namespace Ipv4

/-- **An octet is read back.** -/
theorem octet?_decimal (o : UInt8) : octet? (Ascii.decimal o.toNat) = some o := by
  have small : o.toNat < 256 := o.toNat_lt
  have short : (Ascii.decimal o.toNat).length ≤ 3 :=
    (Nat.length_toDigits_le_iff (by decide) (by decide)).2 (Nat.lt_trans small (by decide))
  have digits : (Ascii.decimal o.toNat).all Char.isDigit = true :=
    List.all_eq_true.2 fun c hc => Nat.isDigit_of_mem_toDigits (by decide) (by decide) hc
  have leading : ¬ ((Ascii.decimal o.toNat).length > 1
      ∧ (Ascii.decimal o.toNat).head? = some '0') := by
    rintro ⟨long, first⟩
    refine Ascii.head?_toDigits (by decide) (by decide) (Nat.pos_of_ne_zero fun zero => ?_) first
    rw [zero] at long
    exact absurd long (by decide)
  have value : Ascii.ofDigits 10 (Ascii.decimal o.toNat) = o.toNat :=
    Ascii.ofDigits_toDigits (by decide) (by decide) o.toNat
  unfold octet?
  rw [if_pos ⟨Nat.toDigits_ne_nil, short, digits, leading⟩, value]
  exact (if_pos small).trans (congrArg some UInt8.ofNat_toNat)

/-- No decimal octet has a dot in it. -/
theorem dot_notMem_decimal (n : Nat) : '.' ∉ Ascii.decimal n := fun mem =>
  absurd (Nat.isDigit_of_mem_toDigits (by decide) (by decide) mem) (by decide)

/-- **An IPv4 address is read back from its text.** -/
theorem ofText?_text (x : Ipv4) : ofText? x.text = some x := by
  have pieces : Ascii.splitOn (· == '.') x.text = x.octets.map fun o => Ascii.decimal o.toNat := by
    refine Ascii.splitOn_intercalate nofun fun piece hp => ?_
    obtain ⟨o, _, rfl⟩ := List.mem_map.1 hp
    exact dot_notMem_decimal o.toNat
  unfold ofText?
  rw [pieces]
  simp [octets, octet?_decimal]

/-- An IPv4 address is written with digits and dots. -/
theorem mem_text {x : Ipv4} {c : Char} (h : c ∈ x.text) : c.isDigit = true ∨ c = '.' := by
  refine (Ascii.mem_intercalate h).imp (fun ⟨piece, mem, hc⟩ => ?_) id
  obtain ⟨o, _, rfl⟩ := List.mem_map.1 mem
  exact Nat.isDigit_of_mem_toDigits (by decide) (by decide) hc

/-- A text without dots is no IPv4 address. -/
theorem ofText?_eq_none {cs : List Char} (h : '.' ∉ cs) : ofText? cs = none := by
  have single : Ascii.splitOn (· == '.') cs = [cs] :=
    Ascii.splitOn_of_not fun c hc => beq_eq_false_iff_ne.2 fun same => h (same ▸ hc)
  unfold ofText?
  rw [single]

end Ipv4

/-! ## IPv6 addresses -/

namespace Ipv6

/-- **A group is read back.** -/
theorem group?_hex (g : UInt16) : group? (Ascii.hex g.toNat) = some g := by
  have short : (Ascii.hex g.toNat).length ≤ 4 :=
    (Nat.length_toDigits_le_iff (by decide) (by decide)).2 g.toNat_lt
  have digits : (Ascii.hex g.toNat).all Ascii.isHexDigit = true :=
    List.all_eq_true.2 (Ascii.isHexDigit_of_mem_toDigits (by decide) (by decide) g.toNat)
  have value : Ascii.ofDigits 16 (Ascii.hex g.toNat) = g.toNat :=
    Ascii.ofDigits_toDigits (by decide) (by decide) g.toNat
  unfold group?
  rw [if_pos ⟨Nat.toDigits_ne_nil, short, digits⟩, value, UInt16.ofNat_toNat]

/-- What is no hexadecimal digit is not in a group. -/
theorem notMem_hex {c : Char} (h : Ascii.isHexDigit c = false) (n : Nat) : c ∉ Ascii.hex n :=
  fun mem => by
    rw [Ascii.isHexDigit_of_mem_toDigits (by decide) (by decide) n c mem] at h
    cases h

theorem joined_singleton (g : UInt16) : joined [g] = Ascii.hex g.toNat :=
  List.intercalate_singleton

theorem joined_cons_cons (g g' : UInt16) (gs : List UInt16) :
    joined (g :: g' :: gs) = Ascii.hex g.toNat ++ ':' :: joined (g' :: gs) := by
  unfold joined
  rw [List.map_cons, List.map_cons, List.intercalate_cons_cons, List.append_assoc]
  rfl

/-- Some groups are written as a text that starts with a digit. -/
theorem joined_cons (g : UInt16) (gs : List UInt16) :
    ∃ d cs, d ≠ ':' ∧ joined (g :: gs) = d :: cs := by
  obtain ⟨d, cs, first⟩ := List.exists_cons_of_ne_nil (Nat.toDigits_ne_nil (b := 16) (n := g.toNat))
  have digit : d ≠ ':' := fun colon =>
    notMem_hex (c := d) (colon ▸ by decide) g.toNat
      ((congrArg (d ∈ ·) first).mpr List.mem_cons_self)
  cases gs with
  | nil => exact ⟨d, cs, digit, (joined_singleton g).trans first⟩
  | cons g' gs =>
    rw [joined_cons_cons]
    exact ⟨d, cs ++ ':' :: joined (g' :: gs), digit, congrArg (· ++ _) first⟩

/-- Groups are written with hexadecimal digits and colons. -/
theorem mem_joined {gs : List UInt16} {c : Char} (h : c ∈ joined gs) :
    Ascii.isHexDigit c = true ∨ c = ':' := by
  refine (Ascii.mem_intercalate h).imp (fun ⟨piece, mem, hc⟩ => ?_) id
  obtain ⟨g, _, rfl⟩ := List.mem_map.1 mem
  exact Ascii.isHexDigit_of_mem_toDigits (by decide) (by decide) g.toNat c hc

theorem mapM_group?_hex (gs : List UInt16) :
    (gs.map fun g => Ascii.hex g.toNat).mapM group? = some gs := by
  induction gs with
  | nil => rfl
  | cons g gs ih =>
    rw [List.map_cons, List.mapM_cons, group?_hex, ih]
    rfl

/-- **Groups are read back**, as the front or as the back of an address. -/
theorem groups?_joined (dotted : Bool) (gs : List UInt16) :
    groups? dotted (joined gs) = some gs := by
  cases gs with
  | nil => rfl
  | cons g gs =>
    obtain ⟨d, cs, _, text⟩ := joined_cons g gs
    have pieces : Ascii.splitOn (· == ':') (joined (g :: gs))
        = (g :: gs).map fun g => Ascii.hex g.toNat := by
      refine Ascii.splitOn_intercalate nofun fun piece hp => ?_
      obtain ⟨g', _, rfl⟩ := List.mem_map.1 hp
      exact notMem_hex (by decide) g'.toNat
    -- no piece has a dot, so the last one is not taken for an IPv4 address
    have undotted (g : UInt16) :
        (if dotted then Ipv4.ofText? (Ascii.hex g.toNat) else none) = none := by
      rw [Ipv4.ofText?_eq_none (notMem_hex (by decide) g.toNat), ite_self]
    unfold groups?
    rw [if_neg (text ▸ List.cons_ne_nil d cs), pieces]
    dsimp only
    rw [List.getLast?_map, List.getLast?_eq_some_getLast (List.cons_ne_nil g gs)]
    dsimp only [Option.map_some]
    rw [undotted]
    exact mapM_group?_hex (g :: gs)

/-! ### The double colon -/

/-- A character that is no colon is before the double colon. -/
theorem atDoubleColon?_cons {c : Char} (h : c ≠ ':') (cs : List Char) :
    atDoubleColon? (c :: cs) = (atDoubleColon? cs).map fun p => (c :: p.1, p.2) := by
  cases cs with
  | nil => rfl
  | cons d cs => exact if_neg fun both => h both.1

theorem atDoubleColon?_append {piece : List Char} (h : ':' ∉ piece) (cs : List Char) :
    atDoubleColon? (piece ++ cs) = (atDoubleColon? cs).map fun p => (piece ++ p.1, p.2) := by
  induction piece with
  | nil => exact Option.map_id'.symm
  | cons c piece ih =>
    rw [List.cons_append, atDoubleColon?_cons fun same => h (same ▸ List.mem_cons_self),
      ih fun mem => h (List.mem_cons_of_mem c mem), Option.map_map]
    rfl

/-- **There is no double colon in groups**, so the first one is the one after
them. -/
theorem atDoubleColon?_joined (gs : List UInt16) (cs : List Char) :
    atDoubleColon? (joined gs ++ cs)
      = (atDoubleColon? cs).map fun p => (joined gs ++ p.1, p.2) := by
  induction gs with
  | nil => exact Option.map_id'.symm
  | cons g gs ih =>
    have digits := notMem_hex (c := ':') (by decide) g.toNat
    cases gs with
    | nil =>
      rw [joined_singleton]
      exact atDoubleColon?_append digits cs
    | cons g' gs =>
      obtain ⟨d, rest, digit, text⟩ := joined_cons g' gs
      have colon : atDoubleColon? (':' :: (joined (g' :: gs) ++ cs))
          = (atDoubleColon? (joined (g' :: gs) ++ cs)).map fun p => (':' :: p.1, p.2) := by
        rw [text]
        exact if_neg fun both => digit both.2
      rw [joined_cons_cons, List.append_assoc, List.cons_append, atDoubleColon?_append digits,
        colon, ih, Option.map_map, Option.map_map]
      simp [Function.comp_def]

/-! ### The run that is left out -/

/-- A list starts with as many zeros as are counted. -/
theorem eq_zeros_append (gs : List UInt16) :
    gs = List.replicate (zeros gs) 0 ++ gs.drop (zeros gs) := by
  have all : ∀ g ∈ gs.takeWhile (· == 0), g = 0 := fun g hg =>
    beq_iff_eq.1 (List.all_eq_true.1 List.all_takeWhile g hg)
  have front : gs.takeWhile (· == 0) = List.replicate (zeros gs) 0 :=
    List.eq_replicate_iff.2 ⟨rfl, all⟩
  have taken := List.prefix_iff_eq_take.1 (List.takeWhile_prefix (l := gs) (· == 0))
  rw [front, List.length_replicate] at taken
  rw [taken, List.take_append_drop]

/-- What is chosen while going through a list was better than something when its
turn came. -/
theorem of_foldl_choose {α : Type} {better : Option α → α → Prop}
    [∀ best a, Decidable (better best a)] {P : α → Prop} {as : List α} {best : Option α}
    (chosen : ∀ a ∈ as, ∀ best, better best a → P a) (before : ∀ a, best = some a → P a) :
    ∀ a, as.foldl (fun best a => if better best a then some a else best) best = some a → P a := by
  induction as generalizing best with
  | nil => exact before
  | cons first as ih =>
    refine ih (fun a mem => chosen a (List.mem_cons_of_mem first mem)) fun a kept => ?_
    dsimp only at kept
    by_cases turn : better best first
    · rw [if_pos turn] at kept
      exact Option.some.inj kept ▸ chosen first List.mem_cons_self best turn
    · rw [if_neg turn] at kept
      exact before a kept

/-- **The run to compress is a run of zeros**, of at least two. -/
theorem longestRun_spec {gs : List UInt16} {start length : Nat}
    (h : longestRun gs = some (start, length)) :
    2 ≤ length ∧ gs = gs.take start ++ List.replicate length 0 ++ gs.drop (start + length) := by
  have run : 2 ≤ length ∧ length = zeros (gs.drop start) := by
    refine of_foldl_choose (P := fun run => 2 ≤ run.2 ∧ run.2 = zeros (gs.drop run.1))
      (fun run mem best better => ⟨better.1, ?_⟩) nofun (start, length) h
    obtain ⟨i, _, rfl⟩ := List.mem_map.1 mem
    rfl
  refine ⟨run.1, ?_⟩
  have split := eq_zeros_append (gs.drop start)
  rw [← run.2, List.drop_drop] at split
  rw [List.append_assoc, ← split, List.take_append_drop]

/-- Eight groups make the address that they are the groups of. -/
theorem ofGroups?_groups (x : Ipv6) : ofGroups? x.groups.toList = some x := by
  have size : x.groups.toList.toArray.size = 8 := x.groups.size_toArray
  unfold ofGroups?
  rw [dif_pos size]
  rfl

/-- **An IPv6 address is read back from its compressed text.** -/
theorem ofText?_compressed (x : Ipv6) : ofText? x.compressed = some x := by
  have eight : x.groups.toList.length = 8 := x.groups.size_toArray
  unfold ofText? compressed
  dsimp only
  cases found : longestRun x.groups.toList with
  | none =>
    -- all eight groups are written, and there is no double colon to find
    have whole := atDoubleColon?_joined x.groups.toList []
    rw [List.append_nil] at whole
    rw [whole]
    dsimp only [atDoubleColon?, Option.map_none]
    rw [groups?_joined]
    exact ofGroups?_groups x
  | some run =>
    obtain ⟨start, length⟩ := run
    -- the double colon parts the groups before the run from those after it, and the
    -- zeros that are put in between are as many as were left out
    obtain ⟨two, split⟩ := longestRun_spec found
    dsimp only
    generalize x.groups.toList.take start = head at split ⊢
    generalize x.groups.toList.drop (start + length) = tail at split ⊢
    have sum : head.length + length + tail.length = 8 := by
      rw [← eight, split, List.length_append, List.length_append, List.length_replicate]
    have room : 8 - head.length - tail.length = length := by omega
    rw [List.append_assoc, atDoubleColon?_joined]
    dsimp only [atDoubleColon?, List.cons_append, Option.map_some]
    rw [if_pos ⟨rfl, rfl⟩]
    dsimp only [Option.map_some]
    rw [List.append_nil, groups?_joined, List.nil_append, groups?_joined]
    show (if head.length + tail.length ≤ 7 then _ else none) = some x
    rw [if_pos (by omega), room, ← split]
    exact ofGroups?_groups x

/-- The compressed text has hexadecimal digits and colons only. -/
theorem mem_compressed {x : Ipv6} {c : Char} (h : c ∈ x.compressed) :
    Ascii.isHexDigit c = true ∨ c = ':' := by
  unfold compressed at h
  dsimp only at h
  split at h
  · exact mem_joined h
  · obtain h | h := List.mem_append.1 h
    · obtain h | h := List.mem_append.1 h
      · exact mem_joined h
      · right
        simpa using h
    · exact mem_joined h

end Ipv6

/-! ## Literals -/

/-- Nothing is dropped from a text in which nothing is to be dropped. -/
theorem Ascii.dropWhile_of_not {p : Char → Bool} {cs : List Char} (h : ∀ c ∈ cs, p c = false) :
    cs.dropWhile p = cs :=
  List.dropWhile_eq_self_iff.2 fun some => Bool.eq_false_iff.1 (h _ (List.getElem_mem some))

namespace Url

/-- **A text without brackets is read as it is.** -/
theorem literal?_of_plain {cs : List Char} (plain : ∀ c ∈ cs, c ≠ '[' ∧ c ≠ ']') :
    literal? cs = IpAddr.ofText? cs := by
  unfold literal?
  rw [Ascii.dropWhile_of_not fun c hc => beq_false_of_ne (plain c hc).1,
    Ascii.dropWhile_of_not fun c hc => beq_false_of_ne (plain c (List.mem_reverse.1 hc)).2,
    List.reverse_reverse]

/-- **Brackets around a text are taken off.** -/
theorem literal?_bracketed {cs : List Char} (plain : ∀ c ∈ cs, c ≠ '[' ∧ c ≠ ']') :
    literal? ('[' :: cs ++ [']']) = IpAddr.ofText? cs := by
  have front : ('[' :: cs ++ [']']).dropWhile (· == '[') = cs ++ [']'] := by
    refine (List.dropWhile_cons_of_pos rfl).trans (Ascii.dropWhile_of_not fun c hc => ?_)
    obtain hc | hc := List.mem_append.1 hc
    · exact beq_false_of_ne (plain c hc).1
    · obtain rfl := List.mem_singleton.1 hc
      rfl
  have back : (cs ++ [']']).reverse.dropWhile (· == ']') = cs.reverse := by
    rw [List.reverse_append]
    exact (List.dropWhile_cons_of_pos rfl).trans (Ascii.dropWhile_of_not fun c hc =>
      beq_false_of_ne (plain c (List.mem_reverse.1 hc)).2)
  unfold literal?
  rw [front, back, List.reverse_reverse]

/-- **A host that is an IPv4 address is read as this address.** -/
theorem literal?_v4 (a : Ipv4) : literal? (Host.v4 a).text = some (.v4 a) := by
  refine (literal?_of_plain fun c mem => ⟨?_, ?_⟩).trans ?_
  · rintro rfl
    exact absurd (Ipv4.mem_text mem) (by decide)
  · rintro rfl
    exact absurd (Ipv4.mem_text mem) (by decide)
  · show IpAddr.ofText? a.text = _
    unfold IpAddr.ofText?
    rw [Ipv4.ofText?_text]

/-- **A host that is an IPv6 address is read as this address.** -/
theorem literal?_v6 (a : Ipv6) : literal? (Host.v6 a).text = some (.v6 a) := by
  refine (literal?_bracketed fun c mem => ⟨?_, ?_⟩).trans ?_
  · rintro rfl
    exact absurd (Ipv6.mem_compressed mem) (by decide)
  · rintro rfl
    exact absurd (Ipv6.mem_compressed mem) (by decide)
  · have undotted : '.' ∉ a.compressed := fun mem =>
      absurd (Ipv6.mem_compressed mem) (by decide)
    unfold IpAddr.ofText?
    rw [Ipv4.ofText?_eq_none undotted, Ipv6.ofText?_compressed]
    rfl

end Url

end Uplink
