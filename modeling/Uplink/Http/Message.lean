import Uplink.Http.Fields
import Uplink.Text.Ascii
import Uplink.Text.Utf8
import Uplink.Url.Basic

/-!
# Requests and responses

A request is addressed by the server's logical URL. It says nothing about which
of the server's addresses it goes to. A response is what came back: a status,
headers and a body of bytes, in whatever encoding. Reading the body as text
never fails, because malformed bytes are replaced.

Header names are compared without regard to case, so a response holds them in
lower case. A name may occur several times; looking it up gives the first
value. A value that is not printable ASCII is still there, but has no text.
-/

namespace Uplink

/-- The methods in use. -/
inductive Method where
  | get
  | post
deriving DecidableEq, Repr

/-- A method as a request line writes it. -/
def Method.text : Method → String
  | get => "GET"
  | post => "POST"

/-- **One call to the server**, addressed by its logical URL. -/
structure Request where
  method : Method
  url : Url
  headers : Fields := ∅
  params : Fields := ∅
deriving DecidableEq, Repr

namespace Request

/-- Sets a header. -/
def setHeader (q : Request) (name value : String) : Request :=
  { q with headers := q.headers.set name value }

/-- Sets a form parameter. -/
def setParam (q : Request) (name value : String) : Request :=
  { q with params := q.params.set name value }

end Request

/-- A response's header: its name in lower case, and its bytes. -/
structure Header where
  name : String
  value : List UInt8
  /-- However the name was spelled, it is held in lower case. -/
  lowered : ∃ spelling, name = String.ofList (Ascii.lower spelling)
deriving DecidableEq, Repr

namespace Header

/-- A header of a name in any case. -/
def of (name : String) (value : List UInt8) : Header :=
  ⟨String.ofList (Ascii.lower name.toList), value, name.toList, rfl⟩

/-- Bytes that are printable ASCII, or a tab. -/
def isVisible (b : UInt8) : Bool :=
  (0x20 ≤ b && b < 0x7F) || b == 0x09

/-- The value as text, if all of it is printable. -/
def text? (h : Header) : Option String :=
  if h.value.all isVisible then
    some (String.ofList (h.value.map fun b => Char.ofNat b.toNat))
  else none

end Header

/-- **What an endpoint answers**, read to its end. -/
structure Response where
  status : UInt16
  headers : List Header := []
  body : List UInt8 := []
deriving DecidableEq, Repr

namespace Response

/-- Whether the status says that the request was carried out. -/
def isSuccess (r : Response) : Bool :=
  200 ≤ r.status && r.status < 300

/-- The first header of a name, in any case. -/
def find? (r : Response) (name : String) : Option Header :=
  let name := String.ofList (Ascii.lower name.toList)
  r.headers.find? (·.name == name)

/-- Whether there is a header of a name. -/
def hasHeader (r : Response) (name : String) : Bool :=
  (r.find? name).isSome

/-- The text of the first header of a name. -/
def header? (r : Response) (name : String) : Option String :=
  (r.find? name).bind Header.text?

/-- The body as text. -/
def text (r : Response) : String :=
  String.ofList (Utf8.lossy r.body)

end Response

end Uplink
