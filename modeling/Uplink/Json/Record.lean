import Uplink.Json.Token

/-!
# Records read from JSON

A record is read from an object, whose entries are its fields in any order, or
from an array, whose items are its fields in the order of declaration. Reading
starts from the record's defaults and every field that is found replaces one.
So a `Field` of a record `ρ` has a name, a presence, and a reader whose value is
the change it makes.

Entries with unknown names are skipped (`skip`): their values have to be JSON
and nothing more. A known name that occurs twice is refused, and so is a field
without default that is missing.

A reader consumes tokens from the front and stops at the first fault. Each of
its steps takes a token at least, so their number is fuel enough for a record.
-/

namespace Uplink.Json

/-- A reader of a value: what it reads, and the tokens after that. -/
abbrev Reader (α : Type) := List Token → Except Fault (α × List Token)

/-- Whether a field may be missing. -/
inductive Presence where
  /-- It may, since there is a default. -/
  | defaulted
  /-- It may in an object, and counts as null then. -/
  | optional
  /-- It may not. -/
  | required
deriving DecidableEq, Repr

/-- **A field of a record**: its reader gives the change that its value
makes. -/
structure Field (ρ : Type) where
  name : String
  presence : Presence
  read : Reader (ρ → ρ)

/-! ## Single values -/

/-- The fault of a value that is not of the kind that was asked for. A word, a
number or a string has to be read to its end before it is of the wrong kind. -/
def wrongKind : List Token → Fault
  | [] => .truncated
  | .broken _ reading _ :: _ => reading
  | .number none :: _ => .malformed
  | .string none :: _ => .malformed
  | .arrayEnd :: _ | .objectEnd :: _ | .comma :: _ | .colon :: _ => .malformed
  | _ => .mistyped

/-- Reads a truth value. -/
def readBool : Reader Bool
  | .bool b :: rest => .ok (b, rest)
  | ts => .error (wrongKind ts)

/-- Reads an integer from zero to below a bound. -/
def readNat (bound : Nat) : Reader Nat
  | .number (some (.int n)) :: rest =>
    if 0 ≤ n ∧ n < bound then .ok (n.toNat, rest) else .error .mistyped
  | ts => .error (wrongKind ts)

/-- Reads a text. -/
def readText : Reader String
  | .string (some s) :: rest => .ok (String.ofList s, rest)
  | ts => .error (wrongKind ts)

/-- Reads a text or null. -/
def readText? : Reader (Option String)
  | .null :: rest => .ok (none, rest)
  | ts => do
    let (s, rest) ← readText ts
    return (some s, rest)

/-! ## Skipping -/

/-- What may come next in a value that is skipped. -/
inductive SkipExpect where
  | value
  /-- A value or name, or the end of what has just been opened. -/
  | opened
  | separator
  | name
  | colon

/-- An open bracket of a value that is skipped: whether it is an object's. -/
abbrev Brackets := List Bool

/-- **One token of a value that is skipped**: the brackets open after it and
what may come then, or nothing more if the value is over. -/
def skipStep (open_ : Brackets) (expect : SkipExpect) (token : Token) :
    Except Fault (Brackets × SkipExpect) :=
  let after (open_ : Brackets) : Except Fault (Brackets × SkipExpect) := .ok (open_, .separator)
  let value : Except Fault (Brackets × SkipExpect) :=
    match token with
    | .null | .bool _ | .number _ | .string _ => after open_
    | .arrayStart => .ok (false :: open_, .opened)
    | .objectStart => .ok (true :: open_, .opened)
    | .broken _ _ skipping => .error skipping
    | _ => .error .malformed
  let name : Except Fault (Brackets × SkipExpect) :=
    match token with
    | .string _ => .ok (open_, .colon)
    | .broken true _ skipping => .error skipping
    | _ => .error .malformed
  match expect, open_ with
  | .value, _ => value
  | .opened, true :: outer =>
    match token with
    | .objectEnd => after outer
    | _ => name
  | .opened, _ =>
    match token with
    | .arrayEnd => after open_.tail
    | _ => value
  | .name, _ => name
  | .colon, _ =>
    match token with
    | .colon => .ok (open_, .value)
    | _ => .error .malformed
  | .separator, inObject :: outer =>
    match token, inObject with
    | .comma, true => .ok (open_, .name)
    | .comma, false => .ok (open_, .value)
    | .objectEnd, true => after outer
    | .arrayEnd, false => after outer
    | _, _ => .error .malformed
  | .separator, [] => .error .malformed

/-- Skips the rest of a value. -/
def skipFrom (open_ : Brackets) (expect : SkipExpect) : List Token → Except Fault (List Token)
  | [] => .error .truncated
  | token :: rest =>
    match skipStep open_ expect token with
    | .error e => .error e
    | .ok ([], .separator) => .ok rest
    | .ok (open_, expect) => skipFrom open_ expect rest

/-- **Skips a value.** -/
def skip (ts : List Token) : Except Fault (List Token) :=
  skipFrom [] .value ts

/-! ## Records -/

/-- The fault where a certain token was expected and another one is there. -/
def unexpected : List Token → Fault
  | [] => .truncated
  | _ => .malformed

/-- The name of an entry, and the tokens after it. -/
def readName : Reader (List Char)
  | .string (some name) :: rest => .ok (name, rest)
  | .string none :: _ => .error .malformed
  | .broken true reading _ :: _ => .error reading
  | ts => .error (unexpected ts)

/-- The tokens after a colon. -/
def afterColon : List Token → Except Fault (List Token)
  | .colon :: rest => .ok rest
  | ts => .error (unexpected ts)

/-- The change that a record makes of a missing field, if it may be missing. -/
def missing {ρ : Type} (inObject : Bool) (f : Field ρ) : Except Fault Unit :=
  match f.presence with
  | .defaulted => .ok ()
  | .optional => if inObject then .ok () else .error .mistyped
  | .required => .error .mistyped

/-- **One entry of an object**, from its name on: the record with the change it
makes, and the names of the fields found. -/
def readEntry {ρ : Type} (fields : List (Field ρ)) (r : ρ) (seen : List String)
    (ts : List Token) : Except Fault (ρ × List String × List Token) := do
  let (name, ts) ← readName ts
  match fields.find? (·.name = String.ofList name) with
  | none =>
    let ts ← skip (← afterColon ts)
    return (r, seen, ts)
  | some f =>
    if f.name ∈ seen then throw .mistyped
    let (change, ts) ← f.read (← afterColon ts)
    return (change r, f.name :: seen, ts)

/-- The entries of an object, after its opening: `first` before the first
one. -/
def readEntries {ρ : Type} (fields : List (Field ρ)) :
    Nat → Bool → ρ → List String → Reader (ρ × List String)
  | 0, _, _, _, _ => .error .malformed
  | _ + 1, _, r, seen, .objectEnd :: rest => .ok ((r, seen), rest)
  | fuel + 1, true, r, seen, ts => do
    let (r, seen, ts) ← readEntry fields r seen ts
    readEntries fields fuel false r seen ts
  | fuel + 1, false, r, seen, .comma :: ts => do
    let (r, seen, ts) ← readEntry fields r seen ts
    readEntries fields fuel false r seen ts
  | _ + 1, false, _, _, ts => .error (unexpected ts)

/-- The items of an array, after its opening: one for each field in turn. -/
def readItems {ρ : Type} (first : Bool) (r : ρ) : List (Field ρ) → Reader ρ
  | [], ts => .ok (r, ts)
  | f :: fields, .arrayEnd :: rest => do
    (f :: fields).forM (missing false)
    return (r, .arrayEnd :: rest)
  | f :: fields, ts => do
    let ts ← match first, ts with
      | true, ts => pure ts
      | false, .comma :: .arrayEnd :: _ => throw .malformed
      | false, .comma :: ts => pure ts
      | false, ts => throw (unexpected ts)
    let (change, ts) ← f.read ts
    readItems false (change r) fields ts

/-- **Reads a record**, from an object or an array. -/
def readRecord {ρ : Type} (fields : List (Field ρ)) (default_ : ρ) : Reader ρ
  | .objectStart :: ts => do
    let ((r, seen), ts) ← readEntries fields (ts.length + 1) true default_ [] ts
    (fields.filter (·.name ∉ seen)).forM (missing true)
    return (r, ts)
  | .arrayStart :: ts => do
    let (r, ts) ← readItems true default_ fields ts
    match ts with
    | .arrayEnd :: ts => return (r, ts)
    | ts => throw (unexpected ts)
  | ts => .error (wrongKind ts)

/-- **Reads a whole text as a record.** Nothing may follow it. -/
def ofBytes {ρ : Type} (fields : List (Field ρ)) (default_ : ρ) (bs : List UInt8) :
    Except Fault ρ := do
  let (r, ts) ← readRecord fields default_ (tokens bs)
  match ts with
  | [] => return r
  | _ => throw .malformed

end Uplink.Json
