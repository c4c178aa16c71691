import Uplink.Proofs.WellFormed

/-!
# Drawing a down period in 64 bits

A down period is computed from words of 64 bits, and here it is computed from
numbers of any size. The two agree, because nothing on the way leaves 64 bits as
soon as the longest period that the settings allow fits. To say so, the computation
is done once more in words, by operations that notice an overflow and then give no
result (`Word.add?`, `Word.mul?`). It always gives a result, and the same one
(`Endpoint.sampleInWords?_eq`).

The one place where a word could overflow unexpectedly is the correction of the draw.
It adds one to the quotient, and the quotient is below the bound of the draw, so the
sum is a word even if the correction were wrong. That the sum is below the bound
itself is what `Random.below_lt` says.

So a period has the bounds that it is meant to have, and they hold of every period
that is ever drawn: the endpoints of every history keep the period they last drew,
also when it is over, and an open breaker keeps its own.
-/

namespace Uplink

/-! ## Words that notice an overflow -/

namespace Word

/-- The sum of two words, if it is a word. -/
def add? (x y : UInt64) : Option UInt64 :=
  if x.toNat + y.toNat < UInt64.size then some (x + y) else none

/-- The product of two words, if it is a word. -/
def mul? (x y : UInt64) : Option UInt64 :=
  if x.toNat * y.toNat < UInt64.size then some (x * y) else none

/-- The high word of a product that has two. -/
def high (x y : UInt64) : UInt64 :=
  .ofNat (x.toNat * y.toNat / UInt64.size)

theorem ofNat_toNat_of_lt {n : Nat} (h : n < UInt64.size) : (UInt64.ofNat n).toNat = n :=
  UInt64.toNat_ofNat_of_lt' h

theorem isNone_add? (x y : UInt64) :
    (add? x y).isNone ↔ UInt64.size ≤ x.toNat + y.toNat := by
  simp [add?]

theorem add?_ofNat {m n : Nat} (h : m + n < UInt64.size) :
    add? (.ofNat m) (.ofNat n) = some (.ofNat (m + n)) := by
  unfold add?
  rw [ofNat_toNat_of_lt (by omega), ofNat_toNat_of_lt (by omega), if_pos h, UInt64.ofNat_add]

theorem mul?_ofNat {m n : Nat} (hm : m < UInt64.size) (hn : n < UInt64.size)
    (h : m * n < UInt64.size) : mul? (.ofNat m) (.ofNat n) = some (.ofNat (m * n)) := by
  unfold mul?
  rw [ofNat_toNat_of_lt hm, ofNat_toNat_of_lt hn, if_pos h, UInt64.ofNat_mul]

theorem toNat_mul_ofNat (x : UInt64) {n : Nat} (h : n < UInt64.size) :
    (x * .ofNat n).toNat = x.toNat * n % UInt64.size := by
  rw [UInt64.toNat_mul, ofNat_toNat_of_lt h]

theorem toNat_neg_ofNat {n : Nat} (positive : 0 < n) (h : n < UInt64.size) :
    (-UInt64.ofNat n).toNat = UInt64.size - n := by
  rw [UInt64.toNat_neg, ofNat_toNat_of_lt h]
  exact Nat.mod_eq_of_lt (Nat.sub_lt (Nat.zero_lt_of_lt h) positive)

theorem high_ofNat (x : UInt64) {n : Nat} (h : n < UInt64.size) :
    high x (.ofNat n) = .ofNat (x.toNat * n / UInt64.size) := by
  unfold high
  rw [ofNat_toNat_of_lt h]

/-- The high word of a product is below a factor, so it is a word. -/
theorem quotient_lt (x : UInt64) {n : Nat} (positive : 0 < n) :
    x.toNat * n / UInt64.size < n :=
  Nat.div_lt_of_lt_mul (Nat.mul_lt_mul_of_pos_right x.toNat_lt_size positive)

theorem toNat_high_ofNat (x : UInt64) {n : Nat} (positive : 0 < n) (h : n < UInt64.size) :
    (high x (.ofNat n)).toNat = x.toNat * n / UInt64.size := by
  rw [high_ofNat x h, ofNat_toNat_of_lt (Nat.lt_trans (quotient_lt x positive) h)]

end Word

/-! ## A draw in words -/

open Word

/-- **A number below `n`, drawn in words.** The bound is negated as a word, so zero
stands for 2^64 there. The first sum may overflow and is only asked whether it does;
the second may not. -/
def Random.belowInWords? (r : Random) (n : UInt64) : Option UInt64 × Random :=
  let x := r.word r.taken
  let r := { r with taken := r.taken + 1 }
  if -n < x * n then
    let y := r.word r.taken
    ( if (add? (x * n) (high y n)).isNone then add? (high x n) 1 else some (high x n),
      { r with taken := r.taken + 1 } )
  else (some (high x n), r)

/-- A draw of 64 bits is a word. -/
theorem Random.draw_bits64 (r : Random) : (r.draw .bits64).1 = (r.word r.taken).toNat :=
  Nat.mod_eq_of_lt (r.word r.taken).toNat_lt_size

/-- **A draw in words gives the number that is drawn**, and takes as many of them. -/
theorem Random.belowInWords?_eq (r : Random) {n : Nat} (positive : 0 < n)
    (fits : n < UInt64.size) :
    r.belowInWords? (.ofNat n)
      = (some (.ofNat (r.below .bits64 n).1), (r.below .bits64 n).2) := by
  have negated : -UInt64.ofNat n < r.word r.taken * .ofNat n
      ↔ UInt64.size - n < (r.word r.taken).toNat * n % UInt64.size := by
    rw [UInt64.lt_iff_toNat_lt, toNat_neg_ofNat positive fits, toNat_mul_ofNat _ fits]
  have overflows :
      (add? (r.word r.taken * .ofNat n) (high (r.word (r.taken + 1)) (.ofNat n))).isNone
      ↔ UInt64.size ≤ (r.word r.taken).toNat * n % UInt64.size
        + (r.word (r.taken + 1)).toNat * n / UInt64.size := by
    rw [isNone_add?, toNat_mul_ofNat _ fits, toNat_high_ofNat _ positive fits]
  have corrected : add? (high (r.word r.taken) (.ofNat n)) 1
      = some (.ofNat ((r.word r.taken).toNat * n / UInt64.size + 1)) := by
    rw [high_ofNat _ fits]
    exact add?_ofNat (Nat.lt_of_le_of_lt (quotient_lt _ positive) fits)
  unfold belowInWords? below
  simp only [negated, overflows, corrected, draw_bits64, draw_taken, draw_word]
  rw [high_ofNat _ fits]
  by_cases carry : UInt64.size - n < (r.word r.taken).toNat * n % UInt64.size
  · by_cases spills : UInt64.size ≤ (r.word r.taken).toNat * n % UInt64.size
        + (r.word (r.taken + 1)).toNat * n / UInt64.size
    · simp [carry, spills, Width.size, draw]
    · simp [carry, spills, Width.size, draw]
  · simp [carry, Width.size, draw]

/-! ## A down period in words -/

namespace Endpoint

/-- **A down period in seconds, computed in words.** -/
def sampleInWords? (e : Endpoint) (r : Random) : Option UInt64 × Random :=
  let (jitter, r) :=
    if e.downInterval = 0 then (some 0, r) else r.belowInWords? (.ofNat e.downInterval)
  ( do mul? (← add? (.ofNat e.minDownMinutes) (← jitter)) 60, r )

/-- **Nothing overflows on the way to a down period**, if the longest one fits: in words
the same period is computed. -/
theorem sampleInWords?_eq (e : Endpoint) (r : Random)
    (fits : (e.minDownMinutes + e.downInterval) * 60 < UInt64.size) :
    e.sampleInWords? r = (some (.ofNat (e.sampleDownPeriod r).1), (e.sampleDownPeriod r).2) := by
  have minutes {jitter : Nat} (small : jitter ≤ e.downInterval) :
      (add? (.ofNat e.minDownMinutes) (.ofNat jitter)).bind (mul? · (.ofNat 60))
        = some (.ofNat ((e.minDownMinutes + jitter) * 60)) := by
    have longest : (e.minDownMinutes + jitter) * 60 < UInt64.size := by omega
    rw [add?_ofNat (by omega)]
    exact mul?_ofNat (by omega) (by decide) longest
  unfold sampleInWords? sampleDownPeriod
  by_cases none : e.downInterval = 0
  · rw [if_pos none, if_pos none]
    exact congrArg (·, r) (minutes (Nat.zero_le _))
  · have positive := Nat.pos_of_ne_zero none
    have word : e.downInterval < UInt64.size := by omega
    have jitter := r.below_lt .bits64 positive (Nat.le_of_lt word)
    rw [if_neg none, if_neg none, r.belowInWords?_eq positive word]
    exact congrArg (·, (r.below .bits64 e.downInterval).2) (minutes (Nat.le_of_lt jitter))

/-! ## The periods of a history -/

/-- **What the endpoint last drew is what the settings allow**: it has drawn nothing and
is up, or it has a period that is allowed, also when that period is over. -/
structure Drew (settings : CommunicationSettings) (e : Endpoint) : Prop where
  configured : e.Configured settings
  drawn : (e.liveness = .up ∧ e.downPeriod = 0) ∨ settings.AllowsDownPeriod e.downPeriod

theorem drew_new (a : IpAddr) (settings : CommunicationSettings) (now : Instant) :
    (Endpoint.new a settings now).Drew settings :=
  ⟨rfl, .inl ⟨rfl, rfl⟩⟩

/-- A check draws an allowed period or none. -/
theorem lasting_drew (settings : CommunicationSettings) (start : Instant) :
    Lasting start (Drew settings) where
  check := by
    intro e e' now r r' yes _ h check
    refine ⟨h.configured.of_bare (bare_check check), ?_⟩
    cases checked_of_check check with
    | rested => exact h.drawn.imp_left fun fresh => ⟨rfl, fresh.2⟩
    | resting => exact h.drawn
    | healthy => exact h.drawn
    | lapsed _ _ drawn =>
      have allowed := h.configured.allows r
      rw [drawn] at allowed
      exact .inr allowed
  answer := fun _ h =>
    ⟨h.configured.of_bare rfl, h.drawn.imp_left fun fresh => ⟨rfl, fresh.2⟩⟩

end Endpoint

namespace Manager

variable {σ : Type} {v : Service σ} {m : Manager} {P : Endpoint → Prop}

/-- A property of all endpoints, once they are known. -/
def Each (P : Endpoint → Prop) (m : Manager) : Prop :=
  ∀ s, m = .ready s → ∀ e ∈ s.endpoints.toList, P e

/-- **What lasts of an endpoint from its creation on lasts of all of them through a
call**, the one that finds them included. -/
theorem Each.sendIn (hP : Endpoint.Lasting 0 P) (fresh : ∀ a now, P (.new a v.settings now))
    (h : m.Each P) (mode : Mode) (q : Request) (w : World σ) :
    (m.sendIn v mode q w).state.Each P := by
  have found : (m.resolve v w).1.Each P := by
    cases m with
    | failed f => exact nofun
    | ready s => exact h
    | unresolved =>
      intro s hs e he
      obtain ⟨set, rfl, _, made⟩ := exists_ofSet_of_resolve hs
      obtain ⟨a, rfl⟩ := made e he
      exact fresh a w.now
  cases hm : (m.resolve v w).1 with
  | unresolved => exact absurd hm (resolve_ne_unresolved v m w)
  | failed f =>
    rw [sendIn_of_failed q hm]
    exact nofun
  | ready s =>
    rw [sendIn_of_ready q hm]
    intro s' hs'
    obtain rfl := Manager.ready.inj hs'
    exact Selection.lasting_sendIn hP (Nat.zero_le _) (found s hm) mode v.transport q

end Manager

namespace Scene

variable {σ : Type} {v : Service σ} {P : Endpoint → Prop}

/-- An operation keeps what lasts of all endpoints. -/
theorem each_perform (hP : Endpoint.Lasting 0 P) (fresh : ∀ a now, P (.new a v.settings now))
    {s : Scene σ} (h : s.manager.Each P) (op : Operation) : (s.perform v op).manager.Each P := by
  cases op with
  | call mode q => exact h.sendIn hP fresh mode q s.world
  | status => exact h
  | order => exact h
  | wait ms => exact h

/-- **What lasts of an endpoint from its creation on holds of all endpoints of a
history.** -/
theorem each_history (hP : Endpoint.Lasting 0 P) (fresh : ∀ a now, P (.new a v.settings now))
    (ops : List Operation) (w : World σ) : (history v ops w).manager.Each P :=
  run_keeps (I := fun s => s.manager.Each P) (each_perform hP fresh) ops (s := start w) nofun

/-- **Every down period has its bounds, and no word overflows on the way to it.** Let the
longest period that a least one and an interval allow fit in a word of seconds. Then an
endpoint with these bounds draws a whole number of minutes: the least one or more and less
than the interval on top of it, and just the least one, without a word taken, if there is
no interval. Computed in words that notice an overflow it is the same period from the same
random words. And in every history of a manager with these settings, every endpoint that
has ever gone down has such a period as the last one it drew, and an open breaker has one
too. -/
theorem down_periods_in_bounds {least interval : Nat}
    (fits : (least + interval) * 60 < UInt64.size) :
    (∀ (e : Endpoint) (r : Random), e.minDownMinutes = least → e.downInterval = interval →
      WithinMinutes least interval (e.sampleDownPeriod r).1
        ∧ (interval = 0 → e.sampleDownPeriod r = (least * 60, r))
        ∧ (e.sampleInWords? r).1.map UInt64.toNat = some (e.sampleDownPeriod r).1
        ∧ (e.sampleInWords? r).2 = (e.sampleDownPeriod r).2)
      ∧ ∀ {σ : Type} (v : Service σ) (ops : List Operation) (w₀ : World σ) (s : Selection),
        v.settings.minDownPeriodMinutes.toNat = least →
        v.settings.downPeriodIntervalMinutes.toNat = interval →
        (history v ops w₀).manager = .ready s →
        (∀ e ∈ s.endpoints.toList,
          (e.liveness = .up ∧ e.downPeriod = 0) ∨ WithinMinutes least interval e.downPeriod)
          ∧ ∀ since period, s.breaker = .open since period →
            WithinMinutes least interval period := by
  constructor
  · rintro e r rfl rfl
    have within := e.withinMinutes_sampleDownPeriod r (by omega)
    refine ⟨within, fun none => ?_, ?_, ?_⟩
    · unfold Endpoint.sampleDownPeriod
      exact if_pos none
    · obtain ⟨minutes, period, bounds, alone⟩ := within
      have least : minutes ≤ e.minDownMinutes + e.downInterval := by
        by_cases none : e.downInterval = 0
        · exact Nat.le_of_eq ((alone none).trans (none ▸ rfl))
        · exact Nat.le_of_lt (bounds (Nat.pos_of_ne_zero none)).2
      have small : minutes * 60 < UInt64.size :=
        Nat.lt_of_le_of_lt (Nat.mul_le_mul_right 60 least) fits
      rw [e.sampleInWords?_eq r fits, period]
      exact congrArg some (ofNat_toNat_of_lt small)
    · rw [e.sampleInWords?_eq r fits]
  · rintro σ v ops w₀ s rfl rfl known
    have drew := each_history (Endpoint.lasting_drew v.settings 0)
      (Endpoint.drew_new · v.settings ·) ops w₀ s known
    have drawn := drawn_run ops (s := start w₀) nofun s known
    refine ⟨fun e he => ?_, fun since period opened => ?_⟩
    · rw [← CommunicationSettings.allowsDownPeriod_iff]
      exact (drew e he).drawn
    · rw [← CommunicationSettings.allowsDownPeriod_iff]
      exact (drawn.breaker since period opened).2

/-- The bounds that hold by default, at the largest word there is: the last minute before
the excluded bound is drawn, and not the bound. -/
theorem down_periods_in_bounds_rehearsed :
    let e := Endpoint.new (.v4 ⟨10, 0, 0, 1⟩) {} 0
    let r := Random.cycle [0xFFFFFFFFFFFFFFFF]
    (5 + 10) * 60 < UInt64.size ∧ WithinMinutes 5 10 (e.sampleDownPeriod r).1
      ∧ (e.sampleInWords? r).1.map UInt64.toNat = some (14 * 60) := by
  intro e r
  have fits : (5 + 10) * 60 < UInt64.size := by decide
  obtain ⟨within, _, words, _⟩ := (down_periods_in_bounds fits).1 e r rfl rfl
  refine ⟨fits, within, words.trans ?_⟩
  decide +kernel

end Scene

end Uplink
