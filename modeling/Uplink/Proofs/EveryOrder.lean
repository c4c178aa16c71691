import Mathlib.Data.List.Induction
import Uplink.Proofs.Arrangement

/-!
# Every order of the alternates comes up

Shuffling spreads the load of a failover only if it can put the alternates into every
order, and here it is shown that it can: for every order there are random words that
make it, a finite number of them, read from any stream that begins with them.

The words are found backwards, in three stages. Any order comes of trading positions
(`exists_positions`): the element that was placed last stands somewhere, and the one
that stands at the end was traded for it. Any positions in range are the digits of
numbers that fit (`exists_words_deal`), and it does not matter that a number is only
drawn when the digits of the one before are used up, because the digits that follow
are fixed before the number is. And any number below a bound is drawn
(`exists_words_below`), since the bound does not exceed the number of words: one of
them lies in every part of the range, and where the rest asks for a correction the
next word can refuse it.
-/

namespace Uplink

namespace Random

/-! ## Streams that begin with given words -/

/-- **The next words of a stream** are these. -/
def Begins (r : Random) (words : List UInt64) : Prop :=
  ∀ i x, words[i]? = some x → r.word (r.taken + i) = x

/-- The stream with so many words more taken. -/
def skip (r : Random) (count : Nat) : Random :=
  { r with taken := r.taken + count }

theorem skip_skip (r : Random) (m n : Nat) : (r.skip m).skip n = r.skip (m + n) :=
  congrArg (Random.mk r.word) (Nat.add_assoc r.taken m n)

theorem begins_append {r : Random} {xs ys : List UInt64} :
    r.Begins (xs ++ ys) ↔ r.Begins xs ∧ (r.skip xs.length).Begins ys := by
  constructor
  · refine fun h => ⟨fun i x hx => h i x ?_, fun i y hy => ?_⟩
    · have inside := (List.getElem?_eq_some_iff.1 hx).1
      rw [List.getElem?_append_left inside, hx]
    · refine (congrArg r.word (Nat.add_assoc ..)).trans (h (xs.length + i) y ?_)
      rw [List.getElem?_append_right (Nat.le_add_right ..), Nat.add_sub_cancel_left, hy]
  · rintro ⟨first, rest⟩ i x hx
    by_cases inside : i < xs.length
    · rw [List.getElem?_append_left inside] at hx
      exact first i x hx
    · have behind := Nat.le_of_not_lt inside
      rw [List.getElem?_append_right behind] at hx
      have place : (r.skip xs.length).taken + (i - xs.length) = r.taken + i := by
        show r.taken + xs.length + (i - xs.length) = r.taken + i
        omega
      rw [← place]
      exact rest (i - xs.length) x hx

/-- A repeated list begins with the list. -/
theorem begins_cycle (words : List UInt64) : (cycle words).Begins words := by
  intro i x hx
  have inside := (List.getElem?_eq_some_iff.1 hx).1
  show words.getD ((0 + i) % words.length) 0 = x
  rw [Nat.zero_add, Nat.mod_eq_of_lt inside, List.getD_eq_getElem?_getD, hx]
  rfl

/-! ## Every number is drawn -/

/-- A word of 32 bits is drawn as it is. -/
theorem draw_of_begins {r : Random} {x : Nat} {words : List UInt64} (small : x < UInt32.size)
    (h : r.Begins (.ofNat x :: words)) : r.draw .bits32 = (x, r.skip 1) := by
  have first : r.word r.taken = .ofNat x := h 0 (.ofNat x) rfl
  have word : x < UInt64.size := Nat.lt_trans small (by decide)
  unfold draw
  rw [first, UInt64.toNat_ofNat_of_lt' word]
  exact Prod.ext (Nat.mod_eq_of_lt small) rfl

/-- **Some word lies in every part of the range**, if the range is cut into no more parts
than there are words. -/
theorem exists_word {k n size : Nat} (below : k < n) (fits : n ≤ size) :
    ∃ x, x < size ∧ x * n / size = k := by
  -- the first multiple of `n` that reaches `k` parts, which is less than `n` beyond them
  have whole : n * ((k * size + (n - 1)) / n) + (k * size + (n - 1)) % n = k * size + (n - 1) :=
    Nat.div_add_mod _ n
  have rest : (k * size + (n - 1)) % n < n := Nat.mod_lt _ (Nat.zero_lt_of_lt below)
  have parts : (k + 1) * size ≤ n * size := Nat.mul_le_mul_right size below
  rw [Nat.succ_mul] at parts
  refine ⟨(k * size + (n - 1)) / n, ?_, ?_⟩
  · refine Nat.lt_of_mul_lt_mul_left (a := n) ?_
    omega
  · rw [Nat.mul_comm _ n]
    refine Nat.div_eq_of_lt_le ?_ ?_
    · omega
    · rw [Nat.succ_mul]
      omega

/-- **Every number below a bound is drawn**, with one word or two. -/
theorem exists_words_below {k n : Nat} (below : k < n) (fits : n ≤ UInt32.size) :
    ∃ words, ∀ r : Random, r.Begins words → r.below .bits32 n = (k, r.skip words.length) := by
  obtain ⟨x, word, number⟩ := exists_word below fits
  by_cases carry : UInt32.size - n < x * n % UInt32.size
  · -- the second word is zero and corrects nothing
    refine ⟨[.ofNat x, 0], fun r h => ?_⟩
    have rest : (r.skip 1).Begins [.ofNat 0] := (begins_append.1 h : r.Begins [.ofNat x] ∧ _).2
    have second : (r.skip 1).draw .bits32 = (0, (r.skip 1).skip 1) :=
      draw_of_begins (by decide) rest
    have stays : ¬ UInt32.size ≤ x * n % UInt32.size := Nat.not_le_of_lt (Nat.mod_lt _ (by decide))
    unfold Random.below
    rw [draw_of_begins word h]
    simp only [Width.size, carry, if_true, second, Nat.zero_mul, Nat.zero_div, Nat.add_zero,
      stays, if_false, number, skip_skip]
    rfl
  · refine ⟨[.ofNat x], fun r h => ?_⟩
    unfold Random.below
    rw [draw_of_begins word h]
    simp only [Width.size, carry, if_false, number]
    rfl

namespace Positions

/-! ## All positions are dealt -/

/-- So many positions, one after the other, below `m` and the numbers after it. -/
def deal (p : Positions) (m : Nat) : Nat → List Nat × Positions
  | 0 => ([], p)
  | count + 1 =>
    let (position, p) := p.next m
    let (rest, p) := p.deal (m + 1) count
    (position :: rest, p)

/-- **Positions in range**: the first one is below `m`, the one after it below
`m + 1`, and so on. -/
def InRange (m : Nat) : List Nat → Prop
  | [] => True
  | d :: ds => d < m ∧ InRange (m + 1) ds

theorem inRange_concat {m d : Nat} {ds : List Nat} :
    InRange m (ds ++ [d]) ↔ InRange m ds ∧ d < m + ds.length := by
  induction ds generalizing m with
  | nil => simp [InRange]
  | cons c ds ih =>
    show c < m ∧ InRange (m + 1) (ds ++ [d]) ↔ (c < m ∧ InRange (m + 1) ds) ∧ _
    rw [ih, and_assoc, List.length_cons, Nat.add_right_comm, Nat.add_assoc]

theorem deal_succ (p : Positions) (m count : Nat) :
    p.deal m (count + 1)
      = ((p.next m).1 :: ((p.next m).2.deal (m + 1) count).1,
          ((p.next m).2.deal (m + 1) count).2) := rfl

/-- What is dealt from a supply is dealt from it once it is filled up. -/
theorem next_refill {p : Positions} {m : Nat} (some_ : (p.refill m).left ≠ 0) :
    (p.refill m).next m = p.next m := by
  unfold next
  rw [show (p.refill m).refill m = p.refill m from if_neg some_]

/-- **A supply of so many digits deals some positions** if it has a certain number. With
no digit left it deals them whatever its number is. -/
structure Serves (m left number : Nat) (words : List UInt64) (ds : List Nat) : Prop where
  fits : left ≠ 0 → number < m.ascFactorial left
  deals : ∀ p : Positions, p.left = left → (left ≠ 0 → p.number = number) →
    p.random.Begins words →
    (p.deal m ds.length).1 = ds ∧ (p.deal m ds.length).2.random = p.random.skip words.length

section Serves

variable {m d left number : Nat} {words words' : List UInt64} {ds : List Nat}

theorem serves_nil (positive : 0 < m) (left : Nat) : Serves m left 0 [] [] where
  fits := fun _ => by
    obtain ⟨k, rfl⟩ := Nat.exists_eq_add_of_le' positive
    exact Nat.ascFactorial_pos k left
  deals := fun _ _ _ _ => ⟨rfl, rfl⟩

/-- The last digit of a number is the number. -/
theorem Serves.last (h : Serves (m + 1) 0 number words ds) (range : d < m) :
    Serves m 1 d words (d :: ds) where
  fits := fun _ => by simpa [Nat.ascFactorial] using range
  deals := by
    intro p left is begins
    have next : p.next m = (d, { p with left := 0 }) := by
      unfold next
      rw [show p.refill m = p from if_neg (by rw [left]; decide), if_pos left, is (by decide)]
    obtain ⟨dealt, random⟩ := h.deals { p with left := 0 } rfl (absurd rfl) begins
    rw [List.length_cons, deal_succ, next]
    exact ⟨congrArg (d :: ·) dealt, random⟩

/-- A digit more makes a number that is as many times larger as the digit has values. -/
theorem Serves.more (h : Serves (m + 1) (left + 1) number words ds) (range : d < m) :
    Serves m (left + 2) (d + m * number) words (d :: ds) where
  fits := fun _ => by
    have fits := h.fits (Nat.succ_ne_zero left)
    rw [Nat.ascFactorial_succ, ← Nat.succ_ascFactorial]
    calc d + m * number < m + m * number := Nat.add_lt_add_right range _
      _ = m * (number + 1) := by rw [Nat.mul_succ, Nat.add_comm]
      _ ≤ m * (m + 1).ascFactorial (left + 1) := Nat.mul_le_mul_left m fits
  deals := by
    intro p full is begins
    have positive : 0 < m := Nat.zero_lt_of_lt range
    have next : p.next m = (d, { p with number := number, left := left + 1 }) := by
      unfold next
      rw [show p.refill m = p from if_neg (by rw [full]; exact Nat.succ_ne_zero _),
        if_neg (by rw [full]; omega), is (Nat.succ_ne_zero _), full, Nat.add_mul_mod_self_left,
        Nat.mod_eq_of_lt range, Nat.add_mul_div_left _ _ positive, Nat.div_eq_of_lt range,
        Nat.zero_add]
      rfl
    obtain ⟨dealt, random⟩ :=
      h.deals { p with number := number, left := left + 1 } rfl (fun _ => rfl) begins
    rw [List.length_cons, deal_succ, next]
    exact ⟨congrArg (d :: ·) dealt, random⟩

/-- A supply without digits draws the number it needs. -/
theorem Serves.drawn (h : Serves m left number words (d :: ds)) (some_ : left ≠ 0)
    (span : span m = (m.ascFactorial left, left))
    (draws : ∀ r : Random, r.Begins words' →
      r.below .bits32 (m.ascFactorial left) = (number, r.skip words'.length)) :
    Serves m 0 0 (words' ++ words) (d :: ds) where
  fits := absurd rfl
  deals := by
    intro p empty _ begins
    obtain ⟨first, rest⟩ := begins_append.1 begins
    have refill : p.refill m = ⟨p.random.skip words'.length, number, left⟩ := by
      unfold Positions.refill
      rw [if_pos empty, span, draws p.random first]
    have same : (p.refill m).next m = p.next m :=
      next_refill (by rw [refill]; exact some_)
    obtain ⟨dealt, random⟩ := h.deals (p.refill m) (by rw [refill]) (fun _ => by rw [refill])
      (by rw [refill]; exact rest)
    rw [List.length_cons, deal_succ] at dealt random ⊢
    rw [same] at dealt random
    refine ⟨dealt, random.trans ?_⟩
    rw [refill, List.length_append, skip_skip]

/-- **All positions in range are dealt**, from any number of digits on. -/
theorem exists_serves (positive : 0 < m) (small : m + ds.length ≤ UInt32.size)
    (range : InRange m ds) (left : Nat) : ∃ number words, Serves m left number words ds := by
  induction ds generalizing m left with
  | nil => exact ⟨0, [], serves_nil positive left⟩
  | cons d ds ih =>
    obtain ⟨first, rest⟩ := range
    rw [List.length_cons] at small
    have small' : m + 1 + ds.length ≤ UInt32.size := by omega
    -- with a digit left: the digits behind it first
    have filled (left : Nat) : ∃ number words, Serves m (left + 1) number words (d :: ds) := by
      obtain ⟨number, words, served⟩ := ih (Nat.succ_pos m) small' rest left
      cases left with
      | zero => exact ⟨d, words, served.last first⟩
      | succ left => exact ⟨d + m * number, words, served.more first⟩
    cases left with
    | succ left => exact filled left
    | zero =>
      obtain ⟨count, some_, span, fits⟩ := span_spec m
      obtain ⟨count, rfl⟩ := Nat.exists_eq_add_of_le' some_
      obtain ⟨number, words, served⟩ := filled count
      obtain ⟨words', draws⟩ :=
        exists_words_below (served.fits (Nat.succ_ne_zero count)) (Nat.le_of_lt (fits (by omega)))
      exact ⟨0, words' ++ words, served.drawn (Nat.succ_ne_zero count) span draws⟩

end Serves

end Positions

/-! ## Every order comes of positions -/

section Place

variable {α : Type}

/-- Elements placed one after the other, at given positions. -/
def placeOnto (front : List α) : List α → List Nat → List α
  | x :: xs, d :: ds => placeOnto (place front x d) xs ds
  | _, _ => front

/-- Shuffling is placing at the positions that are dealt. -/
theorem shuffleOnto_eq (front xs : List α) (p : Positions) :
    shuffleOnto front p xs
      = (placeOnto front xs (p.deal (front.length + 1) xs.length).1,
          (p.deal (front.length + 1) xs.length).2) := by
  induction xs generalizing front p with
  | nil => rfl
  | cons x xs ih =>
    rw [shuffleOnto, List.length_cons, Positions.deal_succ]
    dsimp only
    rw [ih, length_place]
    rfl

theorem placeOnto_concat (front xs : List α) (x : α) {ds : List Nat} (d : Nat)
    (length : ds.length = xs.length) :
    placeOnto front (xs ++ [x]) (ds ++ [d]) = place (placeOnto front xs ds) x d := by
  induction xs generalizing front ds with
  | nil =>
    obtain rfl := List.length_eq_zero_iff.1 length
    rfl
  | cons y ys ih =>
    cases ds with
    | nil => cases length
    | cons c ds => exact ih (place front y c) (Nat.succ_inj.1 length)

/-- **The last step can be taken back**: in any order of some elements, one of them is
the one placed last. -/
theorem exists_place {order rest : List α} {x : α} (h : order.Perm (x :: rest)) :
    ∃ front d, front.Perm rest ∧ d ≤ rest.length ∧ place front x d = order := by
  obtain ⟨before, behind, rfl⟩ := List.append_of_mem (h.mem_iff.2 List.mem_cons_self)
  have others : (before ++ behind).Perm rest := (List.perm_middle.symm.trans h).cons_inv
  obtain rfl | ⟨behind, y, rfl⟩ := List.eq_nil_or_concat behind
  · -- it stands at the end, so it was placed there
    rw [List.append_nil] at others
    refine ⟨before, before.length, others, Nat.le_of_eq others.length_eq, ?_⟩
    unfold place
    rw [List.getElem?_eq_none (Nat.le_refl _)]
  · -- the element at the end has given its place away
    rw [List.concat_eq_append] at others ⊢
    refine ⟨before ++ y :: behind, before.length, ?_, ?_, ?_⟩
    · refine List.Perm.trans (List.Perm.append_left before ?_) others
      exact (List.perm_append_singleton y behind).symm
    · rw [← others.length_eq, List.length_append]
      exact Nat.le_add_right ..
    · unfold place
      rw [List.getElem?_append_right (Nat.le_refl _), Nat.sub_self]
      simp

/-- **Every order comes of positions in range.** -/
theorem exists_positions {first : α} {xs order : List α} (h : order.Perm (first :: xs)) :
    ∃ ds, ds.length = xs.length ∧ Positions.InRange 2 ds ∧ placeOnto [first] xs ds = order := by
  -- what is placed last is undone first
  induction xs using List.reverseRecOn generalizing order with
  | nil =>
    obtain rfl := List.perm_singleton.1 h
    exact ⟨[], rfl, trivial, rfl⟩
  | append_singleton xs x ih =>
    obtain ⟨front, d, placed, range, last⟩ :=
      exists_place (h.trans (List.perm_append_singleton x (first :: xs)))
    obtain ⟨ds, length, inRange, rfl⟩ := ih placed
    refine ⟨ds ++ [d], by simp [length], ?_, ?_⟩
    · rw [List.length_cons] at range
      exact Positions.inRange_concat.2 ⟨inRange, by omega⟩
    · rw [placeOnto_concat [first] xs x d length, last]

/-- **Every order of a list comes of a shuffle.** -/
theorem exists_words_shuffle {xs order : List α} (small : xs.length < UInt32.size)
    (h : order.Perm xs) :
    ∃ words, ∀ r : Random, r.Begins words → r.shuffle xs = (order, r.skip words.length) := by
  cases xs with
  | nil =>
    obtain rfl := h.eq_nil
    exact ⟨[], fun _ _ => rfl⟩
  | cons first xs =>
    obtain ⟨ds, length, range, placed⟩ := exists_positions h
    rw [List.length_cons] at small
    obtain ⟨number, words, served⟩ :=
      Positions.exists_serves (by decide) (by omega) range 0
    refine ⟨words, fun r begins => ?_⟩
    obtain ⟨dealt, random⟩ := served.deals ⟨r, 0, 0⟩ rfl (absurd rfl) begins
    rw [length] at dealt random
    show ((shuffleOnto [first] ⟨r, 0, 0⟩ xs).1, (shuffleOnto [first] ⟨r, 0, 0⟩ xs).2.random) = _
    rw [shuffleOnto_eq]
    exact Prod.ext (dealt ▸ placed) random

end Place

end Random

/-! ## Sets of addresses -/

namespace EndpointSet

/-- Nothing is dropped from addresses that are all different. -/
theorem distinct_of_nodup {addresses : List IpAddr} (h : addresses.Nodup) :
    distinct addresses = addresses := by
  induction addresses with
  | nil => rfl
  | cons a rest ih =>
    obtain ⟨new, nodup⟩ := List.nodup_cons.1 h
    unfold distinct
    rw [ih nodup, List.filter_eq_self.2]
    intro b hb
    exact decide_eq_true fun same => new (same ▸ hb)

/-- **Every order of the alternates comes up.** Let the settings ask for several endpoints,
let the addresses be different and fewer than words of 32 bits, and put those after the
first one into any order. Then there are finitely many random words such that every stream
that begins with them makes the set with the first address preferred and the alternates in
this order, and these words are all that is taken. One such stream repeats the words. -/
theorem attains_every_order {settings : CommunicationSettings}
    (several : settings.supportsMultiEndpoint = true) {first : IpAddr}
    {others order : List IpAddr} (nodup : (first :: others).Nodup)
    (small : (first :: others).length < UInt32.size) (rearranged : order.Perm others)
    (now : Instant) :
    ∃ words : List UInt64, (Random.cycle words).Begins words
      ∧ ∀ r : Random, r.Begins words →
        ofAddresses? (first :: others) settings now r
          = (some ⟨.new first settings now, order.map (Endpoint.new · settings now)⟩,
            r.skip words.length) := by
  have rest : others.length < UInt32.size := Nat.lt_of_succ_lt small
  obtain ⟨words, shuffled⟩ := Random.exists_words_shuffle rest rearranged
  refine ⟨words, Random.begins_cycle words, fun r begins => ?_⟩
  rw [ofAddresses?_of_multi settings now r first others several, distinct_of_nodup nodup,
    List.tail_cons, shuffled r begins]

/-- Three alternates, of which the last one is to be tried first. -/
theorem attains_every_order_rehearsed :
    let settings : CommunicationSettings := { supportsMultiEndpoint := true }
    let address := fun n : UInt8 => IpAddr.v4 ⟨10, 0, 0, n⟩
    ∃ words, (ofAddresses? [address 1, address 2, address 3, address 4] settings 0
        (.cycle words)).1.map addresses
      = some [address 1, address 4, address 2, address 3] := by
  intro settings address
  have several : settings.supportsMultiEndpoint = true := rfl
  have nodup : [address 1, address 2, address 3, address 4].Nodup := by decide
  have rearranged : [address 4, address 2, address 3].Perm [address 2, address 3, address 4] := by
    decide
  obtain ⟨words, begins, made⟩ := attains_every_order several nodup (by decide) rearranged 0
  refine ⟨words, ?_⟩
  rw [made _ begins]
  rfl

end EndpointSet

end Uplink
