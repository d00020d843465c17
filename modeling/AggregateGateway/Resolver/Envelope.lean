import AggregateGateway.Context
import AggregateGateway.Json.Shape

/-!
What is exchanged with a resolver endpoint. A request carries the receiver, the arguments of the field and a filtered
context; a response carries data or an error of the application, where `null` is no error.
-/

namespace AggregateGateway

open Json

/-- What is sent to an endpoint. -/
structure ResolverRequest where
  obj : Value
  args : Value
  ctxt : ContextSnapshot
deriving Inhabited

namespace ResolverRequest

def record : Record ResolverRequest where
  name := "ResolverRequest"
  blank := ⟨.null, .null, .empty⟩
  fields := [
    ⟨"obj", true, fun request value => .ok { request with obj := value }⟩,
    ⟨"args", true, fun request value => .ok { request with args := value }⟩,
    ⟨"ctxt", true, fun request value => do return { request with ctxt := ← ContextSnapshot.decode value }⟩]

def decode : Value → Decoded ResolverRequest := record.decode

def encode (request : ResolverRequest) : Value :=
  .object [("obj", request.obj), ("args", request.args), ("ctxt", request.ctxt.encode)]

end ResolverRequest

/-- What an endpoint answers. -/
structure ResolverResponse where
  data : Value := .null
  error : Option Value := none
deriving Repr, Inhabited

namespace ResolverResponse

def record : Record ResolverResponse where
  name := "ResolverResponse"
  blank := {}
  fields := [
    ⟨"data", false, fun response value => .ok { response with data := value }⟩,
    ⟨"error", false, fun response value => do return { response with error := ← value.decodeOption .ok }⟩]

def decode : Value → Decoded ResolverResponse := record.decode

def encode (response : ResolverResponse) : Value :=
  .object (("data", response.data) :: (response.error.map fun error => ("error", error)).toList)

def shape : Shape := .record [("data", false, .any), ("error", false, .any)]

/-- The error of the application as it is, or else the data. -/
def result (response : ResolverResponse) : Except Value Value :=
  match response.error with
  | some error => if error.isNull then .ok response.data else .error error
  | none => .ok response.data

end ResolverResponse

/-- Why an endpoint gave no response. -/
inductive TransportError
  /-- The request could not be made, or its connection failed. -/
  | request (reason : String)
  /-- The endpoint answered with a status that is no success. -/
  | status (code : Nat)
  /-- The body was no resolver response. -/
  | decode (reason : String)
deriving DecidableEq, Repr

def TransportError.message : TransportError → String
  | .request reason => "Request failed: " ++ reason
  | .status code => "Resolver endpoint returned HTTP " ++ toString code
  | .decode reason => "Failed to decode resolver response: " ++ reason

/-- Why a field does not resolve. -/
inductive ResolverError
  /-- The field is declared without an endpoint. -/
  | notFound (type field : String)
  /-- The endpoint gave no response. -/
  | transport (type field : String) (source : TransportError)
  /-- The endpoint answered with an error. -/
  | application (error : Value)
  | unknownField (type field : String)
  /-- The receiver is of another kind than the field expects. -/
  | invalidReceiver (type field expected : String)
deriving Repr

namespace ResolverError

/-- The wording of an error; that of a failed request never shows what the endpoint answered. -/
def message : ResolverError → String
  | notFound type field => s!"Resolver not found for {type}.{field}"
  | transport type field _ => s!"Unexpected error while resolving {type}.{field}"
  | application error => error.compact
  | unknownField type field => s!"Field {type}.{field} is not part of the schema"
  | invalidReceiver type field expected => s!"Field {type}.{field} expects a {expected} receiver"

/-- The form that clients see: an error of the application as it is, and the wording of any other. -/
def clientForm : ResolverError → Value
  | application error => error
  | other => .string other.message

end ResolverError

end AggregateGateway
