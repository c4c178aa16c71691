import Uplink.Clock

/-!
# The breaker

When every endpoint has failed, trying them again at once is of no use. The
breaker then stays open for a down period and requests fail without any
contact. Its window includes its end: a request at the last instant still
fails.

A breaker whose window is over does not close by itself. The next request finds
it over, closes it and goes through.
-/

namespace Uplink

/-- **Whether requests are let through.** -/
inductive Breaker where
  | closed
  | open (since : Instant) (period : Seconds)
deriving DecidableEq, Repr

namespace Breaker

/-- Whether the breaker stops a request at an instant. -/
def blocks (b : Breaker) (now : Instant) : Bool :=
  match b with
  | closed => false
  | .open since period => !now.exceeds since period

/-- How many milliseconds of the window are left, if the breaker has not been
closed. -/
def remaining (b : Breaker) (now : Instant) : Except ClockOverflow (Option Nat) :=
  match b with
  | closed => .ok none
  | .open since period => do
    let ending ← since.later period
    return some (ending.since now)

@[simp] theorem blocks_closed (now : Instant) : closed.blocks now = false := rfl

end Breaker

end Uplink
