import Uplink.Settings.Schema
import Uplink.Text.Utf8
import Uplink.Toml.Document

/-!
# Settings in TOML

The agent's settings come from a TOML file. They are read from its table by
their schema. A section is a table, or an array of its values in the order of
the schema. A date or time in its place counts as a table with no name that the
schema knows. Such names are passed over; what they hold has to be TOML.

Three things can be wrong with a file, and the first of them is reported: it is
no text, its text is not TOML that gives the settings, or the settings cannot
be used.

A name that consists of white space only is as good as no name, and white
space means the Unicode property `White_Space`: no-break spaces have it and
zero-width ones do not.
-/

namespace Uplink.Settings

open Toml (Node Entries Scalar)

/-- The change that a single value makes, if it is of the right kind. -/
def Kind.readToml {ρ : Type} : Kind ρ → Node → Option (ρ → ρ)
  | .flag set, .scalar (.boolean b) => some (set b)
  | .number bound set, .scalar (.integer n) =>
    if 0 ≤ n ∧ n < bound then some (set n.toNat) else none
  | .text set, .text s => some (set (String.ofList s))
  | .optionalText set, .text s => some (set (some (String.ofList s)))
  | _, _ => none

/-- Whether a single value may be missing from an array of values. -/
def Leaf.hasDefault {ρ : Type} (l : Leaf ρ) : Bool :=
  match l.kind with
  | .optionalText _ => false
  | _ => !l.required

/-- A record changed by the single values of a table. -/
def readTable {ρ : Type} (leaves : List (Leaf ρ)) (r : ρ) (es : Entries) : Option ρ :=
  leaves.foldlM
    (fun r l =>
      match es.lookup l.name.toList with
      | some v => do return (← l.kind.readToml v) r
      | none => if l.required then none else some r)
    r

/-- A record changed by values in the order of the schema. -/
def readArray {ρ : Type} (r : ρ) : List (Leaf ρ) → List Node → Option ρ
  | [], _ => some r
  | leaves, [] => if leaves.all Leaf.hasDefault then some r else none
  | l :: leaves, v :: vs => do readArray ((← l.kind.readToml v) r) leaves vs

/-- A section. -/
def readSection {ρ : Type} (leaves : List (Leaf ρ)) (r : ρ) : Node → Option ρ
  | .table _ es => readTable leaves r es
  | .array _ items => readArray r leaves items
  | .scalar (.moment _) => readTable leaves r []
  | _ => none

/-- A record changed by one of its members. -/
def Member.readToml {ρ : Type} (es : Entries) (r : ρ) : Member ρ → Option ρ
  | .leaf l => readTable [l] r es
  | .part name leaves default_ set =>
    match es.lookup name.toList with
    | some v => do return set (← readSection leaves default_ v) r
    | none => some r

/-- **Reads an agent's settings** from the table of a document. -/
def agentOfToml (es : Entries) : Option AgentSettings :=
  agentMembers.foldlM (fun r m => m.readToml es r) { serverUrl := "", agentName := "" }

/-- Why an agent has no settings. -/
inductive LoadError where
  /-- There is no file, or it is no text. -/
  | unreadable
  /-- The text does not give the settings. -/
  | unparsable
  /-- The settings cannot be used. -/
  | unusable (reason : String)
deriving DecidableEq, Repr

/-- The text of an error about the file at a path. -/
def LoadError.message (path : String) : LoadError → String
  | unreadable => s!"Failed to read agent config {path}"
  | unparsable => s!"Failed to parse {path}"
  | unusable reason => reason

/-- The Unicode property `White_Space`. -/
def isBlank (c : Char) : Bool :=
  let n := c.toNat
  (0x09 ≤ n && n ≤ 0x0D) || n == 0x20 || n == 0x85 || n == 0xA0 || n == 0x1680
    || (0x2000 ≤ n && n ≤ 0x200A) || n == 0x2028 || n == 0x2029 || n == 0x202F
    || n == 0x205F || n == 0x3000

/-- **Checks an agent's settings.** -/
def validateAgent (s : AgentSettings) : Except LoadError Unit := do
  if s.agentName.toList.all isBlank then
    throw (.unusable "agent_name must not be empty")
  if s.heartbeatIntervalSeconds = 0 then
    throw (.unusable "heartbeat_interval_seconds must be greater than zero")
  if s.statusLogEvery = 0 then
    throw (.unusable "status_log_every must be greater than zero")
  match (s.client none).validate with
  | .ok () => return ()
  | .error e =>
    let text := e.message
    throw (.unusable s!"Invalid transport configuration: {text}")

/-- **Loads an agent's settings** from the bytes of a file, if there is one. -/
def load (file : Option (List UInt8)) : Except LoadError AgentSettings := do
  let some bytes := file | throw .unreadable
  let some text := Utf8.decode? bytes | throw .unreadable
  let some es := Toml.ofText? text | throw .unparsable
  let some s := agentOfToml es | throw .unparsable
  validateAgent s
  return s

end Uplink.Settings
