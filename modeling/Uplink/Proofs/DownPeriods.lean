import Uplink.Proofs.Health

/-!
# How long a down period is

The settings say how long a down period may be: a whole number of minutes, the
least one or more and less than the interval on top of it. Every down period is
drawn, and a draw is a division with a correction, so there is something to prove:
the correction adds one where a finer fraction would have reached the next number,
and it must not reach the excluded bound. It does not, because at the last number
before the bound the rest of the division is never large enough to ask for it
(`succ_div_lt`).
-/

namespace Uplink

/-- **A length that a down period may have.** -/
def CommunicationSettings.AllowsDownPeriod (s : CommunicationSettings) (period : Seconds) :
    Prop :=
  ∃ minutes, period = minutes * 60 ∧ s.minDownPeriodMinutes.toNat ≤ minutes
    ∧ (s.downPeriodIntervalMinutes = 0 → minutes = s.minDownPeriodMinutes.toNat)
    ∧ (s.downPeriodIntervalMinutes ≠ 0 →
      minutes < s.minDownPeriodMinutes.toNat + s.downPeriodIntervalMinutes.toNat)

/-- **A whole number of minutes within bounds**: the least one or more, less than the
interval on top of it, and the least one if there is no interval. -/
def WithinMinutes (least interval : Nat) (period : Seconds) : Prop :=
  ∃ minutes, period = minutes * 60
    ∧ (0 < interval → least ≤ minutes ∧ minutes < least + interval)
    ∧ (interval = 0 → minutes = least)

/-- The settings give the bounds. -/
theorem CommunicationSettings.allowsDownPeriod_iff (s : CommunicationSettings)
    (period : Seconds) : s.AllowsDownPeriod period
      ↔ WithinMinutes s.minDownPeriodMinutes.toNat s.downPeriodIntervalMinutes.toNat period := by
  have zero : s.downPeriodIntervalMinutes = 0 ↔ s.downPeriodIntervalMinutes.toNat = 0 :=
    UInt64.toNat_inj.symm
  unfold AllowsDownPeriod WithinMinutes
  rw [ne_eq, zero]
  refine exists_congr fun minutes => and_congr_right fun _ => ?_
  constructor
  · exact fun ⟨least, alone, below⟩ => ⟨fun some => ⟨least, below (Nat.ne_of_gt some)⟩, alone⟩
  · refine fun ⟨within, alone⟩ => ⟨?_, alone, fun some => (within (Nat.pos_of_ne_zero some)).2⟩
    by_cases none : s.downPeriodIntervalMinutes.toNat = 0
    · exact Nat.le_of_eq (alone none).symm
    · exact (within (Nat.pos_of_ne_zero none)).1

/-! ## Drawing below a bound -/

/-- **The correction never reaches the bound**: if the rest of the division is
large enough for it, the quotient is not the last number below the bound. -/
theorem succ_div_lt {x n size : Nat} (word : x < size) (fits : n ≤ size)
    (carry : size - n < x * n % size) : x * n / size + 1 < n := by
  refine Nat.lt_of_not_le fun last => ?_
  have whole : size * (x * n / size) + x * n % size = x * n := Nat.div_add_mod (x * n) size
  have word' : x * n + n ≤ size * n := by
    rw [← Nat.succ_mul]
    exact Nat.mul_le_mul_right n word
  have last' : size * n ≤ size * (x * n / size) + size := by
    rw [← Nat.mul_succ]
    exact Nat.mul_le_mul_left size last
  omega

/-- **A number drawn below a bound is below it**, if the words are wide enough
for the bound. -/
theorem Random.below_lt (r : Random) (bits : Width) {n : Nat} (positive : 0 < n)
    (fits : n ≤ bits.size) : (r.below bits n).1 < n := by
  have word : (r.draw bits).1 < bits.size := draw_lt r bits
  have quotient : (r.draw bits).1 * n / bits.size < n :=
    Nat.div_lt_of_lt_mul (Nat.mul_lt_mul_of_pos_right word positive)
  unfold below
  dsimp only
  split
  · rename_i carry
    have next := succ_div_lt word fits carry
    split
    · exact next
    · exact quotient
  · exact quotient

/-- If there are more numbers than words, the quotient leaves room for the correction. -/
theorem succ_div_lt_of_lt {x n size : Nat} (word : x < size) (large : size < n) :
    x * n / size + 1 < n := by
  have positive : 0 < size := Nat.zero_lt_of_lt word
  have word' : x * n + n ≤ size * n := by
    rw [← Nat.succ_mul]
    exact Nat.mul_le_mul_right n word
  refine Nat.add_lt_of_lt_sub (Nat.div_lt_of_lt_mul ?_)
  rw [Nat.mul_sub_one]
  omega

/-- **A number drawn below a bound is below it**, however large the bound is. -/
theorem Random.below_lt_of_pos (r : Random) (bits : Width) {n : Nat} (positive : 0 < n) :
    (r.below bits n).1 < n := by
  obtain large | fits := Nat.lt_or_ge bits.size n
  · have next := succ_div_lt_of_lt (draw_lt r bits) large
    unfold below
    dsimp only
    split
    · split
      · exact next
      · exact Nat.lt_of_succ_lt next
    · exact Nat.lt_of_succ_lt next
  · exact r.below_lt bits positive fits

namespace Endpoint

/-- **The endpoint has the configured periods.** -/
def Configured (settings : CommunicationSettings) (e : Endpoint) : Prop :=
  e.bare = (Endpoint.new e.address settings 0).bare

variable {settings : CommunicationSettings} {e e' : Endpoint}

theorem Configured.of_bare (h : e.Configured settings) (same : e'.bare = e.bare) :
    e'.Configured settings := by
  have address : e'.address = e.address :=
    show e'.bare.address = e.bare.address from congrArg Endpoint.address same
  unfold Configured
  rw [same, address]
  exact h

/-- **A down period is a whole number of minutes within the endpoint's bounds**, if the
interval is a word. -/
theorem withinMinutes_sampleDownPeriod (e : Endpoint) (r : Random)
    (fits : e.downInterval ≤ UInt64.size) :
    WithinMinutes e.minDownMinutes e.downInterval (e.sampleDownPeriod r).1 := by
  unfold sampleDownPeriod
  split
  · rename_i none
    exact ⟨e.minDownMinutes, rfl, fun some => absurd none (Nat.ne_of_gt some), fun _ => rfl⟩
  · rename_i some
    have jitter := r.below_lt .bits64 (Nat.pos_of_ne_zero some) fits
    exact ⟨_, rfl, fun _ => ⟨Nat.le_add_right _ _, Nat.add_lt_add_left jitter _⟩,
      fun none => absurd none some⟩

/-- **The settings allow every down period that is drawn.** -/
theorem Configured.allows (h : e.Configured settings) (r : Random) :
    settings.AllowsDownPeriod (e.sampleDownPeriod r).1 := by
  have least : e.minDownMinutes = settings.minDownPeriodMinutes.toNat :=
    congrArg minDownMinutes h
  have interval : e.downInterval = settings.downPeriodIntervalMinutes.toNat :=
    congrArg downInterval h
  rw [CommunicationSettings.allowsDownPeriod_iff, ← least, ← interval]
  refine e.withinMinutes_sampleDownPeriod r ?_
  rw [interval]
  exact Nat.le_of_lt settings.downPeriodIntervalMinutes.toNat_lt

/-- **The settings allow the endpoint's down period**, if it is down. -/
structure Rests (settings : CommunicationSettings) (e : Endpoint) : Prop where
  configured : e.Configured settings
  down : ∀ since, e.liveness = .down since → settings.AllowsDownPeriod e.downPeriod

theorem rests_new (a : IpAddr) (settings : CommunicationSettings) (now : Instant) :
    (Endpoint.new a settings now).Rests settings :=
  ⟨rfl, nofun⟩

/-- **An endpoint goes down for a period that the settings allow**, and it keeps
it. -/
theorem lasting_rests (settings : CommunicationSettings) (start : Instant) :
    Lasting start (Rests settings) where
  check := by
    intro e e' now r r' yes _ h check
    refine ⟨h.configured.of_bare (bare_check check), ?_⟩
    cases checked_of_check check with
    | rested => exact nofun
    | resting => exact h.down
    | healthy => exact h.down
    | lapsed _ _ drawn =>
      have allowed := h.configured.allows r
      rw [drawn] at allowed
      exact fun _ _ => allowed
  answer := fun _ h => ⟨h.configured.of_bare rfl, nofun⟩

end Endpoint

end Uplink
