import Uplink.Json.Record
import Uplink.Settings.Schema

/-!
# Settings in JSON

The client's settings are read from JSON by their schema. A text that cannot be
null has to be given as a string, and a section as an object or an array.
-/

namespace Uplink.Settings

open Json (Fault Reader)

/-- Reads a single value as the change it makes. -/
def Kind.readJson {ρ : Type} : Kind ρ → Reader (ρ → ρ)
  | .flag set, ts => do
    let (x, ts) ← Json.readBool ts
    return (set x, ts)
  | .number bound set, ts => do
    let (x, ts) ← Json.readNat bound ts
    return (set x, ts)
  | .text set, ts => do
    let (x, ts) ← Json.readText ts
    return (set x, ts)
  | .optionalText set, ts => do
    let (x, ts) ← Json.readText? ts
    return (set x, ts)

/-- A single value as a field. -/
def Leaf.jsonField {ρ : Type} (l : Leaf ρ) : Json.Field ρ where
  name := l.name
  presence :=
    match l.kind with
    | .optionalText _ => .optional
    | _ => if l.required then .required else .defaulted
  read := l.kind.readJson

/-- A member as a field. -/
def Member.jsonField {ρ : Type} : Member ρ → Json.Field ρ
  | .leaf l => l.jsonField
  | .part name leaves default_ set =>
    { name, presence := .defaulted,
      read := fun ts => do
        let (x, ts) ← Json.readRecord (leaves.map Leaf.jsonField) default_ ts
        return (set x, ts) }

/-- **Reads communication settings.** -/
def communicationOfJson (bs : List UInt8) : Except Fault CommunicationSettings :=
  Json.ofBytes (communicationLeaves.map Leaf.jsonField) {} bs

/-- **Reads HTTP settings.** -/
def httpOfJson (bs : List UInt8) : Except Fault HttpSettings :=
  Json.ofBytes (httpLeaves.map Leaf.jsonField) {} bs

/-- **Reads a client's settings.** -/
def clientOfJson (bs : List UInt8) : Except Fault ClientSettings :=
  Json.ofBytes (clientMembers.map Member.jsonField) {} bs

end Uplink.Settings
