import ServicePlane.Json.Basic
import ServicePlane.Text.Letter

/-!
# Requests and responses

What the plane's web interfaces receive and answer. A request names its target by a path and an
optional query; header names do not depend on case, and of several headers with one name the first
one counts. What a header says and the content of a request are bytes, of a text or not.
-/

namespace ServicePlane.Http

/-- A request. -/
structure Request where
  method : String
  /-- The target: a path, and behind a question mark a query. -/
  target : String
  headers : List (String × List UInt8)
  body : List UInt8
  deriving DecidableEq, Repr

/-- Whether a byte of a header can be read as a text: it is printable ASCII or a tab. -/
def isVisible (b : UInt8) : Bool :=
  b = 0x09 || (0x20 ≤ b && b < 0x7F)

/-- The text of a header that is read as one. -/
def headerText? (value : List UInt8) : Option String :=
  if value.all isVisible then some (String.ofList (value.map fun b => Char.ofNat b.toNat))
  else none

namespace Request

def path (r : Request) : String :=
  String.ofList (r.target.toList.takeWhile fun c => c ≠ '?' && c ≠ '#')

/-- What the first header with this name says. The name is given in lower case. -/
def header? (r : Request) (name : String) : Option (List UInt8) :=
  (r.headers.find? fun h => h.1.toLower == name).map (·.2)

/-- The first header with this name, if it is a text. -/
def headerText? (r : Request) (name : String) : Option String :=
  (r.header? name).bind Http.headerText?

end Request

/-- The content of a response. -/
inductive Body where
  | empty
  | json (value : Json)
  | text (text : String)
  deriving Repr, Inhabited

/-- A response. Responses that refuse a request for its form carry no content. -/
structure Response where
  status : Nat
  /-- The header that says after how many seconds a retry makes sense. -/
  retryAfter : Option String
  body : Body
  deriving Repr, Inhabited

namespace Response

/-- A response without content. -/
def ofStatus (status : Nat) : Response where
  status := status
  retryAfter := none
  body := .empty

/-- The response to a request that was done, with a value. -/
def ofJson (value : Json) : Response where
  status := 200
  retryAfter := none
  body := .json value

/-- The response to a request that was done, with a text. -/
def ofText (text : String) : Response where
  status := 200
  retryAfter := none
  body := .text text

/-- A response without its content. -/
def withoutBody (r : Response) : Response :=
  { r with body := .empty }

def isSuccess (r : Response) : Bool :=
  200 ≤ r.status && r.status < 300

end Response

end ServicePlane.Http
