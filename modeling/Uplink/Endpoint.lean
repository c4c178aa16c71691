import Uplink.Net.Address
import Uplink.Settings
import Uplink.Transport

/-!
# Endpoints

An endpoint is one address of the management server together with what is known
about its health. It is *up* until no request has succeeded for the fail
period. Then it is *down* for a random period, and after that it is up again,
though its last success is as old as before: one request gets through, and if
that fails the next check puts the endpoint down again.

Health is not watched, it is evaluated when somebody asks (`check`), and asking
is what changes it. Only a success renews the last success, and it also ends a
down period.

What an endpoint answers is judged here (`judge`). Some statuses mean that the
server cannot serve, and a success status can still carry a denial: then a
header announces an error and the body names it.
-/

namespace Uplink

/-- Whether an endpoint is believed to serve. -/
inductive Liveness where
  | up
  | down (since : Instant)
deriving DecidableEq, Repr

/-- **One address of the server and its health.** -/
structure Endpoint where
  address : IpAddr
  failPeriod : Seconds
  /-- The bounds of a down period, in minutes. -/
  minDownMinutes : Nat
  downInterval : Nat
  lastSuccess : Instant
  liveness : Liveness
  /-- The period drawn when the endpoint last went down. -/
  downPeriod : Seconds
deriving DecidableEq, Repr

/-! ## Judging an answer -/

namespace Response

/-- Statuses of a server that cannot serve now. -/
def unreachableStatuses : List UInt16 := [503, 404]

/-- The header that announces an error. -/
def errorHeader : String := "X-error-response"

/-- The text that names a denial. -/
def denialMarker : String := "AgentUnauthorizedException"

/-- Whether a text contains another. -/
def containsText (marker : List Char) : List Char → Bool
  | [] => marker.isEmpty
  | c :: cs => marker.isPrefixOf (c :: cs) || containsText marker cs

/-- Whether the answer denies the agent. -/
def isDenial (r : Response) : Bool :=
  r.status == 200 && r.hasHeader errorHeader
    && containsText denialMarker.toList (Utf8.lossy r.body)

/-- **What an answer means** for the request it answers. -/
def judge (r : Response) (address : IpAddr) : Outcome :=
  if unreachableStatuses.contains r.status then
    .error (.notReachable address.toString r.status)
  else if r.isDenial then
    .error (.unauthorized address.toString)
  else
    .ok r

end Response

namespace Endpoint

/-- An endpoint as it starts: up, and as good as if it had just answered. -/
def new (address : IpAddr) (settings : CommunicationSettings) (now : Instant) :
    Endpoint where
  address
  failPeriod := settings.failPeriod
  minDownMinutes := settings.minDownPeriodMinutes.toNat
  downInterval := settings.downPeriodIntervalMinutes.toNat
  lastSuccess := now
  liveness := .up
  downPeriod := 0

/-- Whether the endpoint is down. -/
def isDown (e : Endpoint) : Bool :=
  match e.liveness with
  | .up => false
  | .down _ => true

/-! ## Health -/

/-- **A down period**: the least one and a random number of minutes below the
interval. Without an interval nothing is drawn. Sum and product are exact; a
machine that works with words of 64 bits has them where the least period and the
interval together are below `UInt64.size` in seconds. For such a machine, what is
proved of runs is about settings below this bound. -/
def sampleDownPeriod (e : Endpoint) (r : Random) : Seconds × Random :=
  if e.downInterval = 0 then (e.minDownMinutes * 60, r)
  else
    let (jitter, r) := r.below .bits64 e.downInterval
    ((e.minDownMinutes + jitter) * 60, r)

/-- **Whether the endpoint may be tried now**, and its health after the
question. A down period has to be over, not just to end now. -/
def check (e : Endpoint) (now : Instant) (r : Random) :
    Except ClockOverflow (Bool × Endpoint × Random) :=
  match e.liveness with
  | .down since =>
    if now.exceeds since e.downPeriod then .ok (true, { e with liveness := .up }, r)
    else .ok (false, e, r)
  | .up => do
    let expiry ← e.lastSuccess.later e.failPeriod
    if expiry ≤ now then
      let (downPeriod, r) := e.sampleDownPeriod r
      return (false, { e with liveness := .down now, downPeriod }, r)
    else
      return (true, e, r)

/-- The endpoint after a success. A down period ends with it. -/
def succeeded (e : Endpoint) (now : Instant) : Endpoint :=
  { e with lastSuccess := now, liveness := .up }

/-- The endpoint with a fresh fail period, as if it had just answered. -/
def rearm (e : Endpoint) (now : Instant) : Endpoint :=
  e.succeeded now

/-! ## Sending -/

/-- **Sends a request to the endpoint**, whatever its health, and judges the
answer. -/
def send {σ : Type} (t : Transport σ) (q : Request) (e : Endpoint) (w : World σ) :
    Outcome × Endpoint × World σ :=
  match t.run q e.address w with
  | (.error f, w) => (.error f, e, w)
  | (.ok r, w) =>
    match r.judge e.address with
    | .error f => (.error f, e, w)
    | .ok r => (.ok r, e.succeeded w.now, w)

/-! ## Reporting -/

/-- An endpoint's part in the set. -/
inductive Role where
  | preferred
  | alternate
deriving DecidableEq, Repr

/-- What is reported about an endpoint. -/
structure Status where
  address : IpAddr
  role : Role
  isDown : Bool
  secondsSinceSuccess : Seconds
  /-- How much of the down period is left, if the endpoint is down. -/
  downRemaining : Option Seconds
deriving DecidableEq, Repr

/-- **The endpoint's state at an instant**, in whole seconds. -/
def status (e : Endpoint) (role : Role) (now : Instant) : Except ClockOverflow Status := do
  let downRemaining ← match e.liveness with
    | .up => pure none
    | .down since => do
      let ending ← since.later e.downPeriod
      pure (some (ending.secondsSince now))
  return { address := e.address, role, isDown := e.isDown,
           secondsSinceSuccess := now.secondsSince e.lastSuccess, downRemaining }

@[simp] theorem address_succeeded (e : Endpoint) (now : Instant) :
    (e.succeeded now).address = e.address := rfl

@[simp] theorem address_rearm (e : Endpoint) (now : Instant) :
    (e.rearm now).address = e.address := rfl

/-- **A failed request leaves the endpoint as it was.** -/
theorem send_eq_of_error {σ : Type} {t : Transport σ} {q : Request} {e : Endpoint}
    {w : World σ} {f : Failure} (h : (e.send t q w).1 = .error f) :
    (e.send t q w).2.1 = e := by
  unfold send at h ⊢
  split <;> (try split) <;> simp_all

end Endpoint

end Uplink
