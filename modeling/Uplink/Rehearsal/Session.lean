import Uplink.Agent
import Uplink.Rehearsal.Script
import Uplink.Report
import Uplink.Text.Timestamp

/-!
# Rehearsed sessions

A session is a manager, a client and an agent over a scripted network. It goes
through a list of steps and reports after each of them what it came to, whom it
contacted and in which state it left the manager.

The agent holds the client as it was at the start. Requests that are started
together wait for the manager in the order in which they were started, and the
manager serves one at a time. How many attempts have been in flight together is
read off the instants at which the contacts started and finished.

If an instant leaves the clock's range the step in which it happens has no
result, and the session ends there.

Bare posts all carry one request. Where its path has no URL the session fails
with the first bare post, and not before: a session that has none goes through.
-/

namespace Uplink

/-- One step of a session. -/
inductive Step where
  /-- A bare post to the heartbeat path, in a mode. -/
  | send (mode : Mode)
  | get (path : String)
  | post (mode : Mode) (path : String) (params : List (String × String))
  /-- Bare posts that are started together. -/
  | together (modes : List Mode)
  | register
  | ping
  | logStatus
  | status
  /-- New reactions for some addresses. -/
  | script (changes : Script)
  | setToken (token : String)
  | wait (ms : Nat)

/-- What a step came to. -/
inductive StepResult where
  | done
  | outcome (o : Outcome)
  /-- The outcomes of posts started together, and the most attempts that have
  been in flight together so far. -/
  | outcomes (os : List Outcome) (inFlight : Nat)
  | registered (r : Except CommandError Unit)
  | pinged (r : Except CommandError Nat)
  | logged (line : String)
  | status (s : ManagerStatus)

/-- **A session in progress.** -/
structure Session where
  service : Service Script
  manager : Manager
  client : Client
  agent : Agent
  /-- The request of a bare post, or why there is none. -/
  probe : Except Failure Request
  world : World Script
  /-- What has been done outside since the start. -/
  events : List Event

/-- What a step reports: its result, what it did outside, and the state it
leaves. -/
structure StepReport where
  result : StepResult
  events : List Event
  order : List IpAddr
  status : ManagerStatus
  now : Instant
  drawn : Nat

namespace Session

/-- **A session at its start.** -/
def start (service : Service Script) (base : Url) (agentName : String)
    (token : Option String) (world : World Script) : Session :=
  let client := Client.ofUrl base token
  { service, manager := .unresolved, client,
    agent := .ofClient client agentName (token.getD ""),
    probe := client.request .post Agent.pingPath, world, events := [] }

/-- The session after a call. -/
def after (s : Session) (events : List Event) (manager : Manager) (world : World Script) :
    Session :=
  { s with manager, world, events := s.events ++ events }

/-- The most attempts in flight together, from their spans, the latest one first:
at the start of an attempt those in flight are this one and all that have not
finished by then. -/
def mostTogether : List (Instant × Instant) → Nat
  | [] => 0
  | (started, _) :: earlier =>
    max (earlier.countP (started < ·.2) + 1) (mostTogether earlier)

/-- The most attempts in flight together since the start. -/
def mostInFlight (s : Session) : Nat :=
  mostTogether (s.events.filterMap Event.span?).reverse

/-- A step's result, what it did outside, and the session after it. -/
abbrev Turn := Except ClockOverflow StepResult × List Event × Session

/-- A call of the manager. -/
def call (s : Session) (mode : Mode) (q : Except Failure Request) : Turn :=
  let reply := Client.call s.service mode q s.manager s.world
  (reply.result.map .outcome, reply.events, s.after reply.events reply.state reply.world)

/-- Bare posts one after the other, as the manager serves them. -/
def serve (s : Session) : List Mode →
    Except Failure (Except ClockOverflow (List Outcome) × List Event × Session)
  | [] => return (.ok [], [], s)
  | mode :: modes => do
    let reply := s.manager.sendIn s.service mode (← s.probe) s.world
    let s := s.after reply.events reply.state reply.world
    match reply.result with
    | .error e => return (.error e, reply.events, s)
    | .ok o =>
      let (os, events, s) ← s.serve modes
      return (os.map (o :: ·), reply.events ++ events, s)

/-- The manager's status now. -/
def statusNow (s : Session) : Except ClockOverflow ManagerStatus :=
  s.manager.status s.service s.world.now

/-- **One step.** Only a bare post can fail: when its request cannot be made. -/
def step (s : Session) : Step → Except Failure Turn
  | .send mode => return s.call mode (.ok (← s.probe))
  | .get path => return s.call .affinity (s.client.request .get path)
  | .post mode path params => return s.call mode (s.client.postRequest path params)
  | .together modes => do
    let (os, events, s) ← s.serve modes
    return (os.map (.outcomes · s.mostInFlight), events, s)
  | .register =>
    let c := s.agent.register s.service (Timestamp.text s.world.now) s.manager s.world
    return (c.result.map .registered, c.events,
      { s.after c.events c.manager c.world with agent := c.agent })
  | .ping =>
    let c := s.agent.ping s.service (Timestamp.text s.world.now) s.manager s.world
    return (c.result.map fun r => .pinged (r.map UInt64.toNat), c.events,
      { s.after c.events c.manager c.world with agent := c.agent })
  | .logStatus => return (s.statusNow.map fun st => .logged st.line, [], s)
  | .status => return (s.statusNow.map .status, [], s)
  | .script changes =>
    return (.ok .done, [],
      { s with world := { s.world with wire := s.world.wire.update changes } })
  | .setToken token => return (.ok .done, [], { s with client := s.client.setToken token })
  | .wait ms => return (.ok .done, [], { s with world := s.world.wait ms })

/-- The report of a step. -/
def report (turn : Turn) : Except ClockOverflow StepReport := do
  let (result, events, s) := turn
  let result ← result
  let status ← s.statusNow
  return { result, events, order := s.manager.exhaustiveOrder, status, now := s.world.now,
           drawn := s.world.random.taken }

/-- **A session's steps one after the other**: their reports, the last of which
may be missing because the clock overflowed, and all that was done outside. -/
def run (s : Session) :
    List Step → Except Failure (List (Except ClockOverflow StepReport) × List Event)
  | [] => return ([], [])
  | step :: steps => do
    let turn ← s.step step
    match report turn with
    | .error e => return ([.error e], turn.2.1)
    | .ok r =>
      let (reports, events) ← turn.2.2.run steps
      return (.ok r :: reports, turn.2.1 ++ events)

end Session

/-! ## One endpoint -/

/-- One step of a rehearsal of a single endpoint. -/
inductive EndpointStep where
  | check
  | sample
  | wait (ms : Nat)
  | send (cue : Cue)
  | status (role : Endpoint.Role)

/-- What a step of an endpoint came to. -/
inductive EndpointResult where
  | done
  | available (yes : Bool)
  | sampled (period : Seconds)
  | outcome (o : Outcome)
  | status (s : Endpoint.Status)

/-- What a step of an endpoint reports. -/
structure EndpointReport where
  result : EndpointResult
  endpoint : Endpoint
  now : Instant
  drawn : Nat

namespace Endpoint

/-- **One step of an endpoint.** -/
def step (q : Request) (e : Endpoint) (w : World Script) :
    EndpointStep → Except ClockOverflow (EndpointResult × Endpoint × World Script)
  | .check => do
    let (yes, e, random) ← e.check w.now w.random
    return (.available yes, e, { w with random })
  | .sample =>
    let (period, random) := e.sampleDownPeriod w.random
    return (.sampled period, e, { w with random })
  | .wait ms => return (.done, e, w.wait ms)
  | .send cue =>
    let (o, e, w) := e.send Script.transport q { w with wire := [(e.address, [cue])] }
    return (.outcome o, e, w)
  | .status role => return (.status (← e.status role w.now), e, w)

/-- **An endpoint's steps one after the other.** The last report is missing if
the clock overflowed in its step. -/
def run (q : Request) (e : Endpoint) (w : World Script) :
    List EndpointStep → List (Except ClockOverflow EndpointReport)
  | [] => []
  | s :: steps =>
    match e.step q w s with
    | .error o => [.error o]
    | .ok (result, e, w) =>
      .ok ⟨result, e, w.now, w.random.taken⟩ :: e.run q w steps

end Endpoint

end Uplink
