import Uplink.Toml.Scalar

/-!
# TOML tables

A table may be written in four ways: by a header, by dotted keys, inline, or
not at all, when the header of a table inside it stands alone. How it was
written decides what may be added to it later. An inline table is complete. A
table made by dotted keys takes more dotted keys, a table that only stands
between others still takes its own header, and no table takes a second one.
No value is given twice.

So a table remembers its `Origin`. Adding goes down a path of names and makes
the tables that are missing (`within`). An array made by headers is entered
through its last table.
-/

namespace Uplink.Toml

/-- How a table came about. -/
inductive Origin where
  /-- Inline, in braces. -/
  | inlined
  /-- By its own header, or the whole document. -/
  | header
  /-- By a dotted key. -/
  | dotted
  /-- By the header of a table inside it. -/
  | between
deriving DecidableEq, Repr

/-- A name in a table. -/
abbrev Key := List Char

/-- **A TOML value.** -/
inductive Node where
  | scalar (s : Scalar)
  | text (s : List Char)
  /-- An array; `ofTables` if headers made it. -/
  | array (ofTables : Bool) (items : List Node)
  | table (origin : Origin) (entries : List (Key × Node))

/-- The entries of a table. -/
abbrev Entries := List (Key × Node)

namespace Entries

/-- The entries with another value for a name. -/
def replace (es : Entries) (k : Key) (v : Node) : Entries :=
  es.map fun e => if e.1 = k then (k, v) else e

/-- Whether a path of dotted keys, or of a header, may lead through a table. -/
def admits (dotted : Bool) : Origin → Bool
  | .inlined => false
  | .header => !dotted
  | .dotted | .between => true

/-- **Something done to the entries at the end of a path.** Tables on the way
that are missing are made. -/
def within (dotted : Bool) (act : Origin → Entries → Option Entries) :
    List Key → Origin → Entries → Option Entries
  | [], origin, es => act origin es
  | k :: path, _, es =>
    match es.lookup k with
    | none => do
      let origin := if dotted then .dotted else .between
      let inner ← within dotted act path origin []
      return es ++ [(k, .table origin inner)]
    | some (.table origin inner) =>
      if admits dotted origin then do
        let inner ← within dotted act path origin inner
        return es.replace k (.table origin inner)
      else none
    | some (.array true items) =>
      match items.getLast? with
      | some (.table origin inner) => do
        let inner ← within dotted act path origin inner
        return es.replace k (.array true (items.dropLast ++ [.table origin inner]))
      | _ => none
    | some _ => none

/-- **A value put under a dotted key.** A key with dots ends in a table made by
dotted keys, and a key without dots does not. -/
def put (es : Entries) (key : List Key) (v : Node) : Option Entries := do
  let name ← key.getLast?
  let path := key.dropLast
  within true
    (fun origin es =>
      if decide (origin = .dotted) = !path.isEmpty ∧ (es.lookup name).isNone then
        some (es ++ [(name, v)])
      else none)
    path .header es

/-- Values put under their keys one after the other. -/
def putAll (es : Entries) (values : List (List Key × Node)) : Option Entries :=
  values.foldlM (fun es kv => es.put kv.1 kv.2) es

/-- **A table with a header of its own.** One that stood between others gets
its values now. -/
def define (es : Entries) (key : List Key) (values : List (List Key × Node)) :
    Option Entries := do
  let name ← key.getLast?
  within false
    (fun _ es =>
      match es.lookup name with
      | none => do
        let inner ← putAll [] values
        return es ++ [(name, .table .header inner)]
      | some (.table .between inner) => do
        let inner ← putAll inner values
        return es.replace name (.table .header inner)
      | some _ => none)
    key.dropLast .header es

/-- **One more table of an array** that headers make. -/
def append (es : Entries) (key : List Key) (values : List (List Key × Node)) :
    Option Entries := do
  let name ← key.getLast?
  let table ← putAll [] values
  within false
    (fun _ es =>
      match es.lookup name with
      | none => some (es ++ [(name, .array true [.table .header table])])
      | some (.array true items) =>
        some (es.replace name (.array true (items ++ [.table .header table])))
      | some _ => none)
    key.dropLast .header es

end Entries

end Uplink.Toml
