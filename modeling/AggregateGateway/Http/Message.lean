import AggregateGateway.Http.Address
import AggregateGateway.Http.Target
import AggregateGateway.Json.Writer

/-!
HTTP messages as plain data. Header names are in lower case, and a name may stand several times. A header value is kept
as it was sent; it reads as text only if it holds nothing but visible ASCII characters, spaces and tabs.
-/

namespace AggregateGateway.Http

/-- Headers in their order, with names in lower case. -/
abbrev Headers := List (String × String)

/-- A character that a readable header value may hold. -/
def isReadable (c : Char) : Bool := c = '\t' || (' ' ≤ c && c ≤ '~')

/-- A header value as text. -/
def readable? (value : String) : Option String := if value.toList.all isReadable then some value else none

namespace Headers

/-- The values under a name, in their order. -/
def all (headers : Headers) (name : String) : List String :=
  headers.filterMap fun (key, value) => if key = name then some value else none

/-- The first value under a name. -/
def get? (headers : Headers) (name : String) : Option String := headers.lookup name

/-- The first value under a name, if it is readable. -/
def text? (headers : Headers) (name : String) : Option String := (headers.get? name).bind readable?

end Headers

/-- A request of a client. -/
structure Request where
  method : String
  target : RequestTarget
  headers : Headers
  body : ByteArray
  /-- The address of the client, if it is known. -/
  peer : Option IpAddress

/-- An answer. -/
structure Response where
  status : Nat
  headers : Headers
  body : ByteArray
deriving Inhabited

namespace Response

/-- An answer that holds a JSON value. -/
def json (status : Nat) (value : Json.Value) : Response :=
  ⟨status, [("content-type", "application/json")], value.compact.toUTF8⟩

/-- An answer that holds a text. -/
def text (status : Nat) (text : String) : Response :=
  ⟨status, [("content-type", "text/plain; charset=utf-8")], text.toUTF8⟩

/-- An answer that tells an error as a JSON object. -/
def error (status : Nat) (message : String) : Response := json status (.object [("error", .string message)])

/-- An answer of nothing but a status. -/
def empty (status : Nat) : Response := ⟨status, [], .empty⟩

end Response

/-- A request to another server, at an absolute URL. -/
structure OutgoingRequest where
  method : String
  url : String
  headers : Headers
  body : ByteArray
deriving Inhabited

end AggregateGateway.Http
