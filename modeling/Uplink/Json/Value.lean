import Uplink.Json.Token

/-!
# JSON values

The tokens of a text are put together by a machine that holds the open arrays
and objects on a stack. It looks at one token at a time, so it is defined by
recursion on the tokens, and the stack is all there is to know of the past.

Nesting is limited: the value at the bottom of 127 arrays and objects can still
be read, one level more is malformed. Of two entries of an object with one name
the later holds.
-/

namespace Uplink.Json

/-- **A JSON value.** -/
inductive Value where
  | null
  | bool (b : Bool)
  | number (n : Number)
  | string (s : List Char)
  | array (items : List Value)
  | object (entries : List (List Char × Value))

namespace Value

/-- An array or object that is still open: what it holds so far, the last one
first, and, in an object, the name that waits for its value. -/
inductive Frame where
  | items (done : List Value)
  | entries (done : List (List Char × Value)) (name : List Char)

/-- What may come next. -/
inductive Expect where
  /-- A value. -/
  | value
  /-- A value, or the end of the array that has just been opened. -/
  | valueOrEnd
  /-- A name. -/
  | name
  /-- A name, or the end of the object that has just been opened. -/
  | nameOrEnd
  | colon
  /-- A comma or the end of what is open. -/
  | separator
  /-- Nothing. -/
  | nothing

/-- The machine's state: what is open, innermost first, what may come, and the
value when it is complete. -/
structure Builder where
  stack : List Frame
  expect : Expect
  result : Value

/-- The most that may be open at once. -/
def maxDepth : Nat := 127

/-- An entry added to an object; an earlier one of its name is dropped. -/
def put (done : List (List Char × Value)) (name : List Char) (v : Value) :
    List (List Char × Value) :=
  (name, v) :: done.filter (·.1 ≠ name)

namespace Builder

/-- The machine at its start. -/
def start : Builder := ⟨[], .value, .null⟩

/-- A complete value, put where it belongs. -/
def close (b : Builder) (v : Value) : Builder :=
  match b.stack with
  | [] => { b with expect := .nothing, result := v }
  | .items done :: outer => { b with stack := .items (v :: done) :: outer, expect := .separator }
  | .entries done name :: outer =>
    { b with stack := .entries (put done name v) [] :: outer, expect := .separator }

/-- Something opened. -/
def push (b : Builder) (f : Frame) (expect : Expect) : Option Builder :=
  if b.stack.length < maxDepth then some { b with stack := f :: b.stack, expect } else none

/-- A value that begins with a token. -/
def begin_ (b : Builder) : Token → Option Builder
  | .null => some (b.close .null)
  | .bool x => some (b.close (.bool x))
  | .number n => n.map fun n => b.close (.number n)
  | .string s => s.map fun s => b.close (.string s)
  | .arrayStart => b.push (.items []) .valueOrEnd
  | .objectStart => b.push (.entries [] []) .nameOrEnd
  | _ => none

/-- The innermost array or object closed by its token. -/
def finish (b : Builder) (token : Token) : Option Builder :=
  match b.stack, token with
  | .items done :: outer, .arrayEnd => some ({ b with stack := outer }.close (.array done.reverse))
  | .entries done _ :: outer, .objectEnd =>
    some ({ b with stack := outer }.close (.object done.reverse))
  | _, _ => none

/-- A name in the innermost object. -/
def name (b : Builder) (token : Token) : Option Builder :=
  match b.stack, token with
  | .entries done _ :: outer, .string (some name) =>
    some { b with stack := .entries done name :: outer, expect := .colon }
  | _, _ => none

/-- What follows a comma. -/
def next (b : Builder) : Option Builder :=
  match b.stack with
  | .items _ :: _ => some { b with expect := .value }
  | .entries .. :: _ => some { b with expect := .name }
  | [] => none

/-- **One token.** Undefined if the token may not come next. -/
def step (b : Builder) (token : Token) : Option Builder :=
  match b.expect with
  | .value => b.begin_ token
  | .valueOrEnd => (b.finish token).or (b.begin_ token)
  | .name => b.name token
  | .nameOrEnd => (b.finish token).or (b.name token)
  | .colon =>
    match token with
    | .colon => some { b with expect := .value }
    | _ => none
  | .separator =>
    match token with
    | .comma => b.next
    | token => b.finish token
  | .nothing => none

end Builder

/-- **Reads a value.** Undefined if the text is none. -/
def ofBytes? (bs : List UInt8) : Option Value := do
  let b ← (tokens bs).foldlM Builder.step .start
  match b.expect with
  | .nothing => some b.result
  | _ => none

end Value

end Uplink.Json
