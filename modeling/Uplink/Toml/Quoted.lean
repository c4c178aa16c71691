import Uplink.Text.Ascii

/-!
# Quoted strings in TOML

A string is quoted in one of four ways: with double quotes, where a backslash
escapes, or with single quotes, where nothing does, and either with one quote
and on one line or with three and over several. Control characters other than a
tab stand in no string; line breaks stand in the long ones, and a line break
right after the opening quotes is not part of the string.

Three quotes end a long string. Up to two more may follow directly, and they
belong to the string. A backslash at the end of a line takes away the line
break and all blanks up to the next text.
-/

namespace Uplink.Toml

/-- A reader: what it reads, and the text after that. -/
abbrev Parse (α : Type) := List Char → Option (α × List Char)

/-- Blanks within a line. -/
def isBlank (c : Char) : Bool :=
  c == ' ' || c == '\t'

/-- What may stand in a comment or a string: no control characters but tabs. -/
def isText (c : Char) : Bool :=
  c == '\t' || (0x20 ≤ c.toNat && c.toNat ≠ 0x7F)

/-- The text after a line break, if it starts with one. -/
def afterBreak? : List Char → Option (List Char)
  | '\n' :: rest => some rest
  | '\r' :: '\n' :: rest => some rest
  | _ => none

namespace Quoted

/-- The character that a letter after a backslash stands for. -/
def escape? (c : Char) : Option Char :=
  match c with
  | 'b' => some '\x08'
  | 't' => some '\t'
  | 'n' => some '\n'
  | 'f' => some '\x0c'
  | 'r' => some '\r'
  | 'e' => some '\x1b'
  | '"' => some '"'
  | '\\' => some '\\'
  | _ => none

/-- The character of a code point in hexadecimal digits. -/
def codePoint? (digits : List Char) : Option Char :=
  let n := Ascii.ofDigits 16 digits
  if digits.all Ascii.isHexDigit && n.isValidChar then some (Char.ofNat n) else none

/-- A character and what a reader reads after it. -/
def cons? (c : Option Char) (rest : Option (List Char × List Char)) :
    Option (List Char × List Char) := do
  let c ← c
  let (cs, rest) ← rest
  return (c :: cs, rest)

/-- **A string on one line**, after its opening double quote. -/
def basic : Parse (List Char)
  | '"' :: rest => some ([], rest)
  | '\\' :: 'x' :: a :: b :: rest => cons? (codePoint? [a, b]) (basic rest)
  | '\\' :: 'u' :: a :: b :: c :: d :: rest =>
    cons? (codePoint? [a, b, c, d]) (basic rest)
  | '\\' :: 'U' :: a :: b :: c :: d :: e :: f :: g :: h :: rest =>
    cons? (codePoint? [a, b, c, d, e, f, g, h]) (basic rest)
  | '\\' :: c :: rest => cons? (escape? c) (basic rest)
  | c :: rest => if isText c && c ≠ '\\' then cons? (some c) (basic rest) else none
  | [] => none

/-- **A string on one line**, after its opening single quote. -/
def literal : Parse (List Char)
  | '\'' :: rest => some ([], rest)
  | c :: rest => if isText c then cons? (some c) (literal rest) else none
  | [] => none

/-- The end of a long string, after its three quotes: up to two more belong to
it. -/
def ending (quote : Char) : List Char → List Char × List Char
  | a :: b :: rest =>
    if a = quote then if b = quote then ([a, b], rest) else ([a], b :: rest)
    else ([], a :: b :: rest)
  | [a] => if a = quote then ([a], []) else ([], [a])
  | [] => ([], [])

/-- Whether only blanks stand between here and the end of the line. -/
def blankLine (cs : List Char) : Bool :=
  (afterBreak? (cs.dropWhile isBlank)).isSome

/-- **A long string**, after its opening double quotes. While `joining`, blanks
and line breaks are passed over. -/
def longBasic (joining : Bool) : Parse (List Char)
  | '"' :: '"' :: '"' :: rest => some (ending '"' rest)
  | '\r' :: '\n' :: rest =>
    if joining then longBasic true rest
    else cons? (some '\r') (cons? (some '\n') (longBasic false rest))
  | '\n' :: rest =>
    if joining then longBasic true rest else cons? (some '\n') (longBasic false rest)
  | '\\' :: 'x' :: a :: b :: rest => cons? (codePoint? [a, b]) (longBasic false rest)
  | '\\' :: 'u' :: a :: b :: c :: d :: rest =>
    cons? (codePoint? [a, b, c, d]) (longBasic false rest)
  | '\\' :: 'U' :: a :: b :: c :: d :: e :: f :: g :: h :: rest =>
    cons? (codePoint? [a, b, c, d, e, f, g, h]) (longBasic false rest)
  | '\\' :: c :: rest =>
    if blankLine (c :: rest) then longBasic true (c :: rest)
    else cons? (escape? c) (longBasic false rest)
  | c :: rest =>
    if joining && isBlank c then longBasic true rest
    else if isText c && c ≠ '\\' then cons? (some c) (longBasic false rest)
    else none
  | [] => none

/-- **A long string**, after its opening single quotes. -/
def longLiteral : Parse (List Char)
  | '\'' :: '\'' :: '\'' :: rest => some (ending '\'' rest)
  | '\r' :: '\n' :: rest => cons? (some '\r') (cons? (some '\n') (longLiteral rest))
  | c :: rest => if isText c || c = '\n' then cons? (some c) (longLiteral rest) else none
  | [] => none

/-- The text of a long string: a line break at its start is no part of it. -/
def opened (cs : List Char) : List Char :=
  (afterBreak? cs).getD cs

/-- **A string**, by the quotes it starts with. -/
def read? : List Char → Option (Option (List Char × List Char))
  | '"' :: '"' :: '"' :: rest => some (longBasic false (opened rest))
  | '\'' :: '\'' :: '\'' :: rest => some (longLiteral (opened rest))
  | '"' :: rest => some (basic rest)
  | '\'' :: rest => some (literal rest)
  | _ => none

end Quoted

end Uplink.Toml
