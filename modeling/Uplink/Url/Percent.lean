import Uplink.Text.Ascii
import Uplink.Text.Utf8

/-!
# Percent escapes

Every component of a URL admits its own set of characters; any other character
is written as the percent escapes of its UTF-8 bytes. The sets are given by the
ASCII characters they escape. What is not ASCII is escaped in every component,
so `encode` decides that once and a set only speaks about ASCII.

An escape that is already there stays as it is: the percent sign is in none of
the sets. Escapes are read back (`decode`) in a host, and to see what a user
name or password says. A percent sign without two digits after it stands for
itself there.
-/

namespace Uplink.Url.Percent

/-- **The characters a component escapes**, among ASCII. -/
abbrev EscapeSet := Char → Bool

/-- Control characters. They are escaped everywhere. -/
def control : EscapeSet := fun c =>
  c.toNat < 0x20 || c.toNat == 0x7F

/-- Escaped in a fragment. -/
def inFragment : EscapeSet := fun c =>
  control c || " \"<>`".toList.contains c

/-- Escaped in a path segment. -/
def inPath : EscapeSet := fun c =>
  inFragment c || "#?\x7b\x7d".toList.contains c

/-- Escaped in a user name or password. -/
def inUserinfo : EscapeSet := fun c =>
  inPath c || "/:;=@[\\]^|".toList.contains c

/-- Escaped in a query. -/
def inQuery : EscapeSet := fun c =>
  control c || " \"#<>".toList.contains c

/-- Escaped in the query of a URL whose scheme the web defines. -/
def inWebQuery : EscapeSet := fun c =>
  inQuery c || c == '\''

/-- One byte as an escape: a percent sign and two digits, upper case. -/
def escape (b : UInt8) : List Char :=
  ['%', (Nat.digitChar (b.toNat / 16)).toUpper, (Nat.digitChar (b.toNat % 16)).toUpper]

/-- One character as a component writes it. -/
def encodeChar (set : EscapeSet) (c : Char) : List Char :=
  if c.toNat < 0x80 && !set c then [c]
  else (String.utf8EncodeChar c).flatMap escape

/-- **A text as a component writes it.** -/
def encode (set : EscapeSet) (cs : List Char) : List Char :=
  cs.flatMap (encodeChar set)

/-- The bytes a text stands for: escapes read back, everything else in UTF-8.
A percent sign without two hexadecimal digits stands for itself. -/
def decode : List Char → List UInt8
  | '%' :: h :: l :: cs =>
    if Ascii.isHexDigit h && Ascii.isHexDigit l then
      .ofNat (Ascii.digitValue h * 16 + Ascii.digitValue l) :: decode cs
    else
      0x25 :: decode (h :: l :: cs)
  | c :: cs => String.utf8EncodeChar c ++ decode cs
  | [] => []

@[simp] theorem encode_nil (set : EscapeSet) : encode set [] = [] := rfl

@[simp] theorem encode_cons (set : EscapeSet) (c : Char) (cs : List Char) :
    encode set (c :: cs) = encodeChar set c ++ encode set cs := rfl

theorem encode_append (set : EscapeSet) (cs ds : List Char) :
    encode set (cs ++ ds) = encode set cs ++ encode set ds := by
  simp [encode]

/-- **A text that needs no escape is its own written form.** -/
theorem encode_of_plain {set : EscapeSet} {cs : List Char}
    (h : ∀ c ∈ cs, c.toNat < 0x80 ∧ set c = false) : encode set cs = cs := by
  induction cs with
  | nil => rfl
  | cons c cs ih =>
    have hc := h c (by simp)
    rw [encode_cons, ih fun d hd => h d (by simp [hd])]
    simp [encodeChar, hc.1, hc.2]

end Uplink.Url.Percent
