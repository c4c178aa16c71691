import Uplink.Net.Address
import Uplink.Url.Percent
import Uplink.Url.Domain

/-!
# Hosts

A URL names its host as a domain, an IPv4 address or an IPv6 address in
brackets. How a text is read depends on the scheme. The schemes that the web
defines (`ofWebText?`) read escapes, map the name to ASCII and take anything
that ends in a number for an IPv4 address, which is then written in dotted
decimal whatever it was typed as. Other schemes (`ofPlainText?`) know no
addresses but IPv6 ones and keep a name as it is.
-/

namespace Uplink

/-- Why a text is not a URL. -/
inductive UrlError where
  /-- A host is needed and there is none. -/
  | emptyHost
  /-- A host name that has no ASCII form. -/
  | badDomain
  /-- A character that a plain host name may not contain. -/
  | badHostCharacter
  | badIpv4
  | badIpv6
  | badPort
  /-- A relative reference, and nothing to resolve it against. -/
  | noBase
  /-- A relative reference against a URL whose path is plain text. -/
  | rootlessBase
deriving DecidableEq, Repr

/-- The text of an error. -/
def UrlError.message : UrlError → String
  | emptyHost => "empty host"
  | badDomain => "invalid international domain name"
  | badHostCharacter => "invalid domain character"
  | badIpv4 => "invalid IPv4 address"
  | badIpv6 => "invalid IPv6 address"
  | badPort => "invalid port number"
  | noBase => "relative URL without a base"
  | rootlessBase => "relative URL with a cannot-be-a-base base"

/-- **The host of a URL.** -/
inductive Host where
  | domain (name : List Char)
  | v4 (address : Ipv4)
  | v6 (address : Ipv6)
deriving DecidableEq, Repr

namespace Host

/-- A host as a URL writes it. -/
def text : Host → List Char
  | domain name => name
  | v4 address => address.text
  | v6 address => '[' :: address.compressed ++ [']']

/-- A number as IPv4 addresses write them: decimal, octal after a `0`,
hexadecimal after `0x`. Nothing after such a beginning means zero. -/
def number? (cs : List Char) : Option Nat :=
  let digits (radix : Nat) (isDigit : Char → Bool) (cs : List Char) : Option Nat :=
    if cs.all isDigit then some (Ascii.ofDigits radix cs) else none
  match cs with
  | [] => none
  | '0' :: 'x' :: cs => digits 16 Ascii.isHexDigit cs
  | '0' :: 'X' :: cs => digits 16 Ascii.isHexDigit cs
  | '0' :: c :: cs => digits 8 (fun d => '0' ≤ d && d ≤ '7') (c :: cs)
  | cs => digits 10 Char.isDigit cs

/-- The parts between the dots, without the empty one after a final dot. -/
def numberParts (name : List Char) : List (List Char) :=
  let parts := Ascii.splitOn (· == '.') name
  if parts.getLast? = some [] then parts.dropLast else parts

/-- **Whether a name is meant as an IPv4 address**: its last part is digits
only, or a number in one of the other notations. -/
def endsInNumber (name : List Char) : Bool :=
  match (numberParts name).getLast? with
  | none => false
  | some last => (last ≠ [] ∧ last.all Char.isDigit) || (number? last).isSome

/-- The address that numbers write: every number but the last is an octet, and
the last one fills the octets that remain. -/
def ipv4OfNumbers? (ns : List Nat) : Option Ipv4 :=
  match ns.getLast? with
  | none => none
  | some last =>
    let octets := ns.dropLast
    if octets.length ≤ 3 ∧ octets.all (· < 256) ∧ last < 1 <<< (8 * (4 - octets.length)) then
      some (.ofNat
        (octets.foldl (fun n o => n * 256 + o) 0 * 1 <<< (8 * (4 - octets.length)) + last))
    else none

/-- The IPv6 address between brackets, for a text that starts with one. -/
def bracketed (cs : List Char) : Except UrlError Host :=
  if cs.getLast? = some ']' then
    match Ipv6.ofText? (cs.drop 1).dropLast with
    | some address => .ok (v6 address)
    | none => .error .badIpv6
  else .error .badIpv6

/-- **The host of a web URL.** -/
def ofWebText (cs : List Char) : Except UrlError Host :=
  if cs.head? = some '[' then bracketed cs
  else
    match Url.Domain.ascii? (Url.Percent.decode cs) with
    | none => .error .badDomain
    | some [] => .error .emptyHost
    | some name =>
      if endsInNumber name then
        match (numberParts name).mapM number? with
        | none => .error .badIpv4
        | some ns =>
          match ipv4OfNumbers? ns with
          | some address => .ok (v4 address)
          | none => .error .badIpv4
      else .ok (domain name)

/-- Characters that a plain host name may not contain. -/
def isForbiddenPlain (c : Char) : Bool :=
  "\x00\t\n\r #/:<>?@[\\]^|".toList.contains c

/-- **The host of any other URL**: a bracketed address, or a name kept as it
is. The name may be empty. -/
def ofPlainText (cs : List Char) : Except UrlError Host :=
  if cs.head? = some '[' then bracketed cs
  else if cs.any isForbiddenPlain then .error .badHostCharacter
  else .ok (domain (Url.Percent.encode Url.Percent.control cs))

end Host

end Uplink
