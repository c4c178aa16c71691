import Uplink.Text.Ascii

/-!
# JSON text

What this library writes in JSON it writes from texts: a string, a list of
texts and a list of named texts. There is no white space, and the entries of an
object stand in the order in which they are given.

In a string a quote, a backslash and control characters are escaped, the latter
by a letter where JSON has one. Everything else stands for itself.
-/

namespace Uplink.Json.Text

/-- A character in a string. -/
def escape (c : Char) : List Char :=
  match c with
  | '"' => ['\\', '"']
  | '\\' => ['\\', '\\']
  | '\x08' => ['\\', 'b']
  | '\x0c' => ['\\', 'f']
  | '\n' => ['\\', 'n']
  | '\r' => ['\\', 'r']
  | '\t' => ['\\', 't']
  | c =>
    if c.toNat < 0x20 then
      ['\\', 'u', '0', '0', Nat.digitChar (c.toNat / 16), Nat.digitChar (c.toNat % 16)]
    else [c]

/-- **A string.** -/
def string (s : List Char) : List Char :=
  '"' :: s.flatMap escape ++ ['"']

/-- A truth value. -/
def bool (b : Bool) : List Char :=
  if b then "true".toList else "false".toList

/-- A natural number. -/
def nat (n : Nat) : List Char :=
  Ascii.decimal n

/-- Something that may be null. -/
def option (t : Option (List Char)) : List Char :=
  t.getD "null".toList

/-- **An array** of texts. -/
def array (items : List (List Char)) : List Char :=
  '[' :: [','].intercalate items ++ [']']

/-- **An object** of named texts. -/
def object (entries : List (String × List Char)) : List Char :=
  '\x7b' :: [','].intercalate (entries.map fun e => string e.1.toList ++ ':' :: e.2) ++ ['\x7d']

end Uplink.Json.Text
