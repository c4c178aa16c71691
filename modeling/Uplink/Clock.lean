/-!
# The clock

Time is a count of milliseconds since the clock started. Periods are whole
seconds, because every configured period is.

The clock has a last second. An instant plus a period may lie beyond it, and
then there is no such instant: `later` fails with a `ClockOverflow`, and an
operation that needed the instant fails with it. Differences never overflow.
-/

namespace Uplink

/-- A point in time, in milliseconds. -/
abbrev Instant := Nat

/-- A length of time, in seconds. -/
abbrev Seconds := Nat

/-- An instant beyond the clock's last second was asked for. -/
inductive ClockOverflow where
  | beyondRange
deriving DecidableEq, Repr

namespace Instant

/-- The first second that the clock cannot show. -/
def limit : Seconds := 0x8000000000000000

/-- **The instant a period later**, if the clock can show it. -/
def later (t : Instant) (d : Seconds) : Except ClockOverflow Instant :=
  if (t + 1000 * d) / 1000 < limit then .ok (t + 1000 * d) else .error .beyondRange

/-- The time from an earlier instant, in milliseconds; zero if it is not
earlier. -/
def since (t earlier : Instant) : Nat :=
  t - earlier

/-- Whether more than a period has passed since an earlier instant. -/
def exceeds (t earlier : Instant) (d : Seconds) : Bool :=
  1000 * d < t.since earlier

/-- The whole seconds from an earlier instant. -/
def secondsSince (t earlier : Instant) : Seconds :=
  t.since earlier / 1000

/-- Within the clock's range a period later is a sum. -/
theorem later_of_lt {t : Instant} {d : Seconds} (h : (t + 1000 * d) / 1000 < limit) :
    t.later d = .ok (t + 1000 * d) :=
  if_pos h

end Instant

end Uplink
