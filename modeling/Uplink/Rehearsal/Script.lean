import Uplink.Endpoint

/-!
# Scripted networks

A rehearsal runs the selection of endpoints against a network whose every
answer is written down beforehand, on a clock that only the script moves. Each
address has a queue of reactions. An attempt takes the first one and leaves the
rest; the last one stays. An address without reactions refuses.
-/

namespace Uplink

/-- What an attempt meets. -/
inductive Reaction where
  | answer (r : Response)
  | refuse
  | fail (f : Failure)
deriving DecidableEq, Repr

/-- A reaction, and the milliseconds that pass before it. -/
structure Cue where
  reaction : Reaction
  delay : Nat := 0
deriving DecidableEq, Repr

/-- **The reactions of every address**, in the order in which they come. -/
abbrev Script := List (IpAddr × List Cue)

namespace Reaction

/-- A plain answer. -/
def ok : Reaction := .answer { status := 200, body := Utf8.encode "ok".toList }

/-- An answer that denies the agent. -/
def deny : Reaction :=
  .answer
    { status := 200
      headers := [Header.of "X-error-response" (Utf8.encode "true".toList)]
      body := Utf8.encode "AgentUnauthorizedException: agent token rejected".toList }

/-- An answer with a status and nothing else. -/
def status (n : UInt16) : Reaction := .answer { status := n }

/-- The outcome of an attempt at an address. -/
def outcome (address : IpAddr) : Reaction → Outcome
  | .answer r => .ok r
  | .refuse => .error (.connection address.toString "connection refused")
  | .fail f => .error f

end Reaction

namespace Script

/-- The script with other reactions for some addresses. -/
def update (s : Script) (changes : Script) : Script :=
  changes ++ s.filter fun e => (changes.lookup e.1).isNone

/-- **The reaction to the next attempt at an address**, and the script after
it. -/
def next (s : Script) (address : IpAddr) : Cue × Script :=
  match s.lookup address with
  | none | some [] => ({ reaction := .refuse }, s)
  | some [cue] => (cue, s)
  | some (cue :: rest) => (cue, s.update [(address, rest)])

/-- **A script as a transport.** -/
def transport : Transport Script where
  attempt _ address _ s :=
    let (cue, s) := s.next address
    (⟨cue.reaction.outcome address, cue.delay⟩, s)

end Script

end Uplink
