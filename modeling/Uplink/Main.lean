import Std.Time.DateTime.Timestamp
import Uplink.Heartbeat
import Uplink.Settings.Toml
import Uplink.Text.Timestamp

/-!
# The agent's command line

The program takes the path of its configuration file, loads the settings,
registers and then sends a heartbeat at every interval, for as long as it runs.
Notices go to standard output. Settings that cannot be used, and an instant
beyond the clock, end it with an error.

It is bound to the silent network: without an embedding program that carries
requests every endpoint counts as unreachable, and so the log shows.
-/

namespace Uplink

/-- Where the configuration is if nothing else is said. -/
def defaultPath : String := "config/agent.toml"

/-- How many random words a run draws from before they repeat. -/
def wordCount : Nat := 4096

/-- What the agent on the command line works with. -/
abbrev Wire := Http.Pool Unit

/-- Milliseconds since 1970. -/
def wallClock : IO Nat :=
  return (← Std.Time.Timestamp.now).toMillisecondsSinceUnixEpoch.toInt.toNat

/-- Random words. -/
def freshWords : IO (List UInt64) :=
  (List.range wordCount).mapM fun _ => return .ofNat (← IO.rand 0 (UInt64.size - 1))

/-- Ends the program with a message. -/
def quit (message : String) : IO UInt32 := do
  IO.eprintln s!"Error: {message}"
  return 1

/-- Says what a turn has to say. -/
def say (notices : List Notice) : IO Unit :=
  notices.forM fun n => IO.println n.line

/-- **Goes through cycles**, one at every interval, the first one at once. -/
partial def keepOn (interval : Nat) (due : Nat) (d : Duty Wire) (w : World Wire) :
    IO UInt32 := do
  let now ← IO.monoMsNow
  IO.sleep (.ofNat (due - now))
  match d.beat (Timestamp.text (← wallClock)) { w with now := ← IO.monoMsNow } with
  | .error .beyondRange => quit "an instant is beyond the clock"
  | .ok ⟨notices, d, w⟩ =>
    say notices
    keepOn interval (due + interval) d w

/-- **Puts an agent on duty.** -/
def serve (s : AgentSettings) : IO UInt32 := do
  say [Duty.greeting s]
  let bytes ← IO.getRandomBytes (.ofNat Token.size)
  let token := Token.ofBytes bytes.toList
  if s.agentToken.isNone then
    say [.info s!"No agent token configured, generated {token}"]
  match Agent.new s token with
  | .error e => quit e.message
  | .ok (agent, built) =>
    let service : Service Wire :=
      { url := built.server, settings := s.communication, resolver := .literals,
        transport := built.http.transport .silent }
    let d : Duty Wire :=
      { service, agent, manager := .unresolved, cycle := 0,
        statusEvery := s.statusLogEvery.toNat }
    let w : World Wire :=
      { now := ← IO.monoMsNow, random := .cycle (← freshWords), wire := ⟨[], ()⟩ }
    match d.start (Timestamp.text (← wallClock)) w with
    | .error .beyondRange => quit "an instant is beyond the clock"
    | .ok ⟨notices, d, w⟩ =>
      say notices
      keepOn (1000 * s.heartbeatIntervalSeconds.toNat) (← IO.monoMsNow) d w

end Uplink

open Uplink in
/-- **Runs an agent** with the configuration at a path. -/
def main (args : List String) : IO UInt32 := do
  let path := args.headD defaultPath
  let file ← try pure (some (← IO.FS.readBinFile path).toList) catch _ => pure none
  match Settings.load file with
  | .error e => quit (e.message path)
  | .ok s => serve s
