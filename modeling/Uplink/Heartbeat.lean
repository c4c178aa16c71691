import Uplink.Agent
import Uplink.Report

/-!
# An agent on duty

An agent registers when it starts. If that fails it goes on all the same: the
server sees it with the first heartbeat that arrives. From then on it lives in
cycles. Each of them sends one heartbeat, and after every so many cycles the
manager's status is logged, whatever came of the heartbeats. Nothing that a
server answers ends the agent; only the end of the clock does.

What an agent has to say is a list of `Notice`s. Saying it and waiting for the
next cycle is left to the caller.
-/

namespace Uplink

/-- **A line of the log**, by its weight. -/
inductive Notice where
  | info (text : String)
  | warning (text : String)
  | error (text : String)
deriving DecidableEq, Repr

/-- The text of a line. -/
def Notice.line : Notice → String
  | info text => "INFO " ++ text
  | warning text => "WARN " ++ text
  | error text => "ERROR " ++ text

/-- **An agent on duty**: the cycles behind it, and after how many the status
is logged. -/
structure Duty (σ : Type) where
  service : Service σ
  agent : Agent
  manager : Manager
  cycle : Nat
  statusEvery : Nat

/-- What a part of the duty leads to: what is said, and the state after it. -/
structure Shift (σ : Type) where
  notices : List Notice
  duty : Duty σ
  world : World σ

namespace Duty

variable {σ : Type}

/-- The notice of an agent that starts. -/
def greeting (s : AgentSettings) : Notice :=
  let many := s.communication.supportsMultiEndpoint
  .info s!"Starting agent {s.agentName} reporting to {s.serverUrl} (multi-endpoint: {many})"

/-- The duty after a command. -/
def after {ρ : Type} (d : Duty σ) (c : Command σ ρ) : Duty σ :=
  { d with agent := c.agent, manager := c.manager }

/-- What is said after a registration. -/
def registered (name : String) : Except CommandError Unit → List Notice
  | .ok () => [.info s!"Agent {name} registered with management server"]
  | .error e =>
    let reason := e.message
    [.error s!"Initial registration failed: {reason}",
     .warning ("Continuing with heartbeats; the server will see the agent " ++
       "once it is reachable")]

/-- What is said after a heartbeat. -/
def beaten : Except CommandError UInt64 → List Notice
  | .ok _ => []
  | .error e => [.warning e.message]

/-- **Registers the agent.** -/
def start (time : String) (d : Duty σ) (w : World σ) : Except ClockOverflow (Shift σ) := do
  let c := d.agent.register d.service time d.manager w
  return ⟨registered c.agent.name (← c.result), d.after c, c.world⟩

/-- Whether the status is logged after the cycles so far. -/
def isStatusDue (d : Duty σ) : Bool :=
  d.cycle % d.statusEvery == 0

/-- **One cycle**: a heartbeat, and the status when it is due. -/
def beat (time : String) (d : Duty σ) (w : World σ) : Except ClockOverflow (Shift σ) := do
  let c := d.agent.ping d.service time d.manager w
  let notices := beaten (← c.result)
  let d := { d.after c with cycle := d.cycle + 1 }
  if d.isStatusDue then
    let status ← d.manager.status d.service c.world.now
    return ⟨notices ++ [.info status.line], d, c.world⟩
  else
    return ⟨notices, d, c.world⟩

end Duty

end Uplink
