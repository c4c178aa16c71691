import Uplink.Json.Value
import Uplink.Main
import Uplink.Proofs.Classification
import Uplink.Proofs.ContactOrder
import Uplink.Proofs.Finality
import Uplink.Proofs.Idle
import Uplink.Proofs.Plan
import Uplink.Proofs.Provenance
import Uplink.Proofs.Serialization
import Uplink.Proofs.Snapshot
import Uplink.Proofs.Sweep
import Uplink.Proofs.Unsendable
import Uplink.Proofs.WellFormed
import Uplink.Proofs.Window
import Uplink.Rehearsal.Session
import Uplink.Settings.Json
import Uplink.Proofs.Draws
import Uplink.Proofs.Arrangement
import Uplink.Proofs.References
import Uplink.Proofs.PlainPaths
import Uplink.Proofs.Retirement
import Uplink.Proofs.BodyLimit
import Uplink.Proofs.Numbering
import Uplink.Proofs.PartialSettings
import Uplink.Proofs.EveryOrder
import Uplink.Proofs.Halting.Calls
import Uplink.Proofs.Halting.Runs
