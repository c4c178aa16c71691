import Uplink.Clock
import Uplink.Failure
import Uplink.Http.Message
import Uplink.Random

/-!
# The world outside

Selecting endpoints needs three things from outside: the time, random words,
and an exchange with an address. They are one value, the `World`, which every
operation takes and returns. What the wire remembers between two attempts is a
type `σ` of its own, so statements about the selection hold for every way the
wire may behave.

A `Transport` makes one attempt: it sends a request to an address and says what
came back and how long that took. Time passes during attempts and nowhere else
in this library.

What an operation did outside is a list of `Event`s, in order: lookups of the
host and contacts with addresses. A contact keeps its outcome, so a list of
events tells the whole story of a call.
-/

namespace Uplink

/-- How a request ends. -/
abbrev Outcome := Except Failure Response

/-- The time, the random words and the state of the wire. -/
structure World (σ : Type) where
  now : Instant
  random : Random
  wire : σ

/-- One attempt's result and the milliseconds it took. -/
structure Attempt where
  outcome : Outcome
  delay : Nat

/-- **Something that sends a request to an address.** -/
structure Transport (σ : Type) where
  attempt : Request → IpAddr → Instant → σ → Attempt × σ

/-- What happened outside during an operation. -/
inductive Event where
  /-- The addresses of a host were asked for. -/
  | lookup (host : String) (port : UInt16)
  /-- A request was sent to an address, and this is how it ended. -/
  | contact (address : IpAddr) (request : Request) (started finished : Instant)
      (outcome : Outcome)

/-- The address and request of a contact. -/
def Event.contact? : Event → Option (IpAddr × Request)
  | contact address request .. => some (address, request)
  | lookup .. => none

/-- The instants at which a contact started and finished. -/
def Event.span? : Event → Option (Instant × Instant)
  | contact _ _ started finished _ => some (started, finished)
  | lookup .. => none

/-- The host and port of a lookup. -/
def Event.lookup? : Event → Option (String × UInt16)
  | lookup host port => some (host, port)
  | contact .. => none

/-- A world in which a while has passed. -/
def World.wait {σ : Type} (w : World σ) (ms : Nat) : World σ :=
  { w with now := w.now + ms }

/-- One attempt made in a world: time passes while it lasts. -/
def Transport.run {σ : Type} (t : Transport σ) (q : Request) (address : IpAddr)
    (w : World σ) : Outcome × World σ :=
  let (attempt, wire) := t.attempt q address w.now w.wire
  (attempt.outcome, { w with now := w.now + attempt.delay, wire })

@[simp] theorem Transport.run_random {σ : Type} (t : Transport σ) (q : Request)
    (address : IpAddr) (w : World σ) : (t.run q address w).2.random = w.random := rfl

/-- **An attempt never turns the clock back.** -/
theorem Transport.now_le_run {σ : Type} (t : Transport σ) (q : Request)
    (address : IpAddr) (w : World σ) : w.now ≤ (t.run q address w).2.now :=
  Nat.le_add_right ..

end Uplink
