import AggregateGateway.Gateway.Exchange
import AggregateGateway.Json.Reader

/-!
Calling resolver endpoints over HTTP: the request is posted as JSON to the address of the endpoint, and an answer with
a success status is read as a response. There is no second attempt.
-/

namespace AggregateGateway

open Json Http

/-- The request that carries a resolver request. -/
def ResolverRequest.outgoing (request : ResolverRequest) (uri : String) : OutgoingRequest :=
  ⟨"POST", uri, [("content-type", "application/json")], request.encode.compact.toUTF8⟩

/-- The response that a body holds. -/
def ResolverResponse.ofBody (body : ByteArray) : Except TransportError ResolverResponse :=
  match String.fromUTF8? body with
  | none => .error (.decode "invalid UTF-8")
  | some text =>
    match shape.read text with
    | .error _ => .error (.decode "malformed response")
    | .ok value =>
      match decode value with
      | .error error => .error (.decode error.message)
      | .ok response => .ok response

/-- The response that an answer of the endpoint holds. -/
def ResolverResponse.ofAnswer : Except String Response → Except TransportError ResolverResponse
  | .error reason => .error (.request reason)
  | .ok answer =>
    if 200 ≤ answer.status && answer.status < 300 then ofBody answer.body else .error (.status answer.status)

/-- Makes every resolver call of an exchange over HTTP. -/
def Exchange.overHttp {α : Type} : Exchange α → Exchange α
  | .done value => .done value
  | .readDocument key next => .readDocument key fun answer => (next answer).overHttp
  | .callResolver uri request next =>
    .send (request.outgoing uri) fun answer => (next (ResolverResponse.ofAnswer answer)).overHttp
  | .send request next => .send request fun answer => (next answer).overHttp
  | .drawId next => .drawId fun answer => (next answer).overHttp
  | .readClock next => .readClock fun answer => (next answer).overHttp

end AggregateGateway
