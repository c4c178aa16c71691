import Uplink.Toml.Table

/-!
# TOML documents

A document is lines, and a line is a key with a value, a header, or nothing but
a comment. The lines after a header belong to it, so a document is read as a
list of `Block`s, and then the blocks are put into one table in turn.

Arrays and inline tables may spread over lines and end in a comma. They nest to
a depth of 80, and a key has 80 names at most. Values are read with fuel, and
every step that uses some also reads a character, so the length of the text is
enough.
-/

namespace Uplink.Toml

/-! ## Between values -/

/-- The text after blanks. -/
def skipBlanks (cs : List Char) : List Char :=
  cs.dropWhile isBlank

/-- The text after blanks, line breaks and comments. -/
def filler (inComment : Bool) : List Char → Option (List Char)
  | [] => some []
  | '\r' :: '\n' :: cs => filler false cs
  | '\n' :: cs => filler false cs
  | c :: cs =>
    if inComment then if isText c then filler true cs else none
    else if isBlank c then filler false cs
    else if c = '#' then filler true cs
    else some (c :: cs)

/-- The text after the end of a line: blanks, a comment, and a line break
unless the text ends. -/
def endLine (cs : List Char) : Option (List Char) :=
  let cs := skipBlanks cs
  let cs := if cs.head? = some '#' then cs.dropWhile isText else cs
  match cs with
  | [] => some []
  | cs => afterBreak? cs

/-! ## Keys -/

/-- A character of a bare key. -/
def isBare (c : Char) : Bool :=
  c.isAlphanum || c == '-' || c == '_'

/-- One name of a key. -/
def name : Parse Key
  | '"' :: rest => Quoted.basic rest
  | '\'' :: rest => Quoted.literal rest
  | cs =>
    let (name, rest) := Ascii.cut (fun c => !isBare c) cs
    if name = [] then none else some (name, rest)

/-- How deep arrays and inline tables nest, and how many names a key has. -/
def maxDepth : Nat := 80

/-- Names with dots between them, so many at most. -/
def names : Nat → Parse (List Key)
  | 0, _ => none
  | most + 1, cs => do
    let (n, rest) ← name (skipBlanks cs)
    match skipBlanks rest with
    | '.' :: rest =>
      let (ns, rest) ← names most rest
      return (n :: ns, rest)
    | rest => return ([n], rest)

/-- **A key.** -/
def key : Parse (List Key) :=
  names maxDepth

/-! ## Values -/

mutual

/-- **A value.** -/
def value : Nat → Nat → Parse Node
  | 0, _, _ => none
  | fuel + 1, depth, cs =>
    match Quoted.read? cs with
    | some read => do
      let (s, rest) ← read
      return (.text s, rest)
    | none =>
      match cs with
      | '[' :: rest => do
        if maxDepth ≤ depth then none
        let (items, rest) ← items fuel (depth + 1) rest
        return (.array false items, rest)
      | '\x7b' :: rest => do
        if maxDepth ≤ depth then none
        let (pairs, rest) ← pairs fuel (depth + 1) rest
        return (.table .inlined (← Entries.putAll [] pairs), rest)
      | cs => do
        let (s, rest) ← Scalar.read cs
        return (.scalar s, rest)

/-- The items of an array, up to and with its closing bracket. -/
def items : Nat → Nat → Parse (List Node)
  | 0, _, _ => none
  | fuel + 1, depth, cs => do
    match ← filler false cs with
    | ']' :: rest => return ([], rest)
    | cs =>
      let (v, rest) ← value fuel depth cs
      match ← filler false rest with
      | ',' :: rest =>
        let (vs, rest) ← items fuel depth rest
        return (v :: vs, rest)
      | ']' :: rest => return ([v], rest)
      | _ => none

/-- The entries of an inline table, up to and with its closing brace. -/
def pairs : Nat → Nat → Parse (List (List Key × Node))
  | 0, _, _ => none
  | fuel + 1, depth, cs => do
    match ← filler false cs with
    | '\x7d' :: rest => return ([], rest)
    | cs =>
      let (p, rest) ← pair fuel depth cs
      match ← filler false rest with
      | ',' :: rest =>
        let (ps, rest) ← pairs fuel depth rest
        return (p :: ps, rest)
      | '\x7d' :: rest => return ([p], rest)
      | _ => none

/-- **A key with its value.** -/
def pair : Nat → Nat → Parse (List Key × Node)
  | 0, _, _ => none
  | fuel + 1, depth, cs => do
    let (k, rest) ← key cs
    match rest with
    | '=' :: rest =>
      let (v, rest) ← value fuel depth (skipBlanks rest)
      return ((k, v), rest)
    | _ => none

end

/-! ## Blocks -/

/-- What opens a block. -/
inductive Opening where
  | document
  | table (key : List Key)
  | item (key : List Key)
deriving DecidableEq, Repr

/-- **An opening and the values after it.** -/
structure Block where
  opening : Opening
  values : List (List Key × Node)

/-- The text after a closing text. -/
def closing? (close : List Char) (cs : List Char) : Option (List Char) :=
  Ascii.strip? close (skipBlanks cs)

/-- A header, if the text starts with one. -/
def header? : List Char → Option (Option (Opening × List Char))
  | '[' :: '[' :: rest => some do
    let (k, rest) ← key rest
    return (.item k, ← closing? "]]".toList rest)
  | '[' :: rest => some do
    let (k, rest) ← key rest
    return (.table k, ← closing? "]".toList rest)
  | _ => none

/-- The blocks of the lines, the first of them with a given opening and the
values read so far. -/
def blocks : Nat → Block → List Char → Option (List Block)
  | 0, _, _ => none
  | fuel + 1, b, cs =>
    match skipBlanks cs with
    | [] => some [b]
    | cs =>
      match header? cs with
      | some header => do
        let (opening, rest) ← header
        return b :: (← blocks fuel ⟨opening, []⟩ (← endLine rest))
      | none =>
        match endLine cs with
        | some rest => blocks fuel b rest
        | none => do
          let (p, rest) ← pair (cs.length * 2 + 2) 0 cs
          blocks fuel { b with values := b.values ++ [p] } (← endLine rest)

/-- The entries with a block put into them. -/
def Block.into (b : Block) (es : Entries) : Option Entries :=
  match b.opening with
  | .document => es.putAll b.values
  | .table k => es.define k b.values
  | .item k => es.append k b.values

/-- **Reads a document** as the entries of its table. A byte order mark at the
start is passed over. -/
def ofText? (cs : List Char) : Option Entries := do
  let cs := if cs.head? = some '\uFEFF' then cs.drop 1 else cs
  let bs ← blocks (cs.length + 1) ⟨.document, []⟩ cs
  bs.foldlM (fun es b => b.into es) []

end Uplink.Toml
