import AggregateGateway.Gateway.Endpoint
import AggregateGateway.Gateway.RequestContext
import AggregateGateway.Http.MediaType
import AggregateGateway.Json.Reader
import AggregateGateway.Routing.Forward
import AggregateGateway.Routing.Reroute

/-!
The gateway as an HTTP service. A request whose host has a route for its URL is forwarded to the target of the route
and reaches nothing else; every other request goes to the endpoints. Resolving a field answers with status 200 and
either the data or the error of the field; only failures before that have a status of their own. Why the store failed
is shown in development mode alone.
-/

namespace AggregateGateway

open Json Http

/-- How the service answers. -/
structure ServiceOptions where
  /-- Whether answers show why the store failed. -/
  dev : Bool := false
  /-- Whether forwarding headers are trusted. -/
  trustProxy : Bool := false
deriving DecidableEq, Repr, Inhabited

namespace ServiceOptions

/-- The answer to a failed read. -/
def storeFailure (options : ServiceOptions) (message : String) : Response :=
  .error 500 (if options.dev then message else "Internal server error")

/-- The answer if an interface cannot be loaded. -/
def interfaceFailure (options : ServiceOptions) (error : InterfaceError) : Response :=
  match error with
  | .compile _ => .error 404 error.message
  | .store _ => options.storeFailure error.message

end ServiceOptions

/-- Which field a client wants resolved, and on what. -/
structure FieldRequest where
  type : String
  field : String
  receiver : Option Value := none
  args : Value := .null
deriving Inhabited

namespace FieldRequest

def record : Record FieldRequest where
  name := "ResolveFieldRequest"
  blank := ⟨"", "", none, .null⟩
  fields := [
    ⟨"type", true, fun request value => do return { request with type := ← value.decodeString }⟩,
    ⟨"field", true, fun request value => do return { request with field := ← value.decodeString }⟩,
    ⟨"receiver", false, fun request value => do return { request with receiver := ← value.decodeOption .ok }⟩,
    ⟨"args", false, fun request value => .ok { request with args := value }⟩]

def decode : Value → Decoded FieldRequest := record.decode

def shape : Shape :=
  .record [("type", true, .text), ("field", true, .text), ("receiver", false, .any), ("args", false, .any)]

/-- The receiver, or the receiver of the fields of `Query`. -/
def subject (request : FieldRequest) : ResolvedValue := (request.receiver.map ResolvedValue.json).getD .root

/-- How many bytes a body may have. -/
def maxBody : Nat := 2 * 1024 * 1024

/-- Whether the headers announce JSON. -/
def isAnnounced (headers : Headers) : Bool :=
  ((headers.text? "content-type").bind MediaType.ofText?).any MediaType.isJson

/-- The answer to a body that is no JSON. -/
def malformed : Response := .text 400 "Failed to parse the request body as JSON"

/-- The answer to a body that is JSON of another shape. -/
def misshapen : Response := .text 422 "Failed to deserialize the JSON body into the target type"

/-- The field request in a text, or the answer that refuses it. -/
def ofText (text : String) : Except Response FieldRequest :=
  match shape.read text with
  | .error .malformed => .error malformed
  | .error .mismatch => .error misshapen
  | .ok value =>
    match decode value with
    | .error _ => .error misshapen
    | .ok request => .ok request

/-- The field request that an HTTP request carries, or the answer that refuses it. -/
def ofRequest (request : Request) : Except Response FieldRequest :=
  if !isAnnounced request.headers then .error (.text 415 "Expected request with `Content-Type: application/json`")
  else if request.body.size > maxBody then
    .error (.text 413 "Failed to buffer the request body: length limit exceeded")
  else
    match String.fromUTF8? request.body with
    | none => .error malformed
    | some text => ofText text

end FieldRequest

/-- The answer to a resolved field. -/
def resolutionResponse : Resolution → Response
  | .ok value => .json 200 (.object [("data", value.toJson)])
  | .error error => .json 200 (.object [("error", error.clientForm)])

/-- The answer to a path whose parts are no text. -/
def invalidPath : Response := .text 400 "Invalid URL"

/-- A running service. -/
structure Service where
  options : ServiceOptions
  /-- When the service was started. -/
  startedAt : Nat
deriving Inhabited

namespace Service

variable (service : Service)

/-- Tells that the service is up, and for how many seconds. -/
def health : Exchange Response :=
  Exchange.now.map fun now => .json 200 (.object [("status", .string "healthy"), ("version", .string surfaceVersion),
    ("uptime_seconds", .ofInt ((now - service.startedAt) / 1000 : Nat))])

/-- Answers with the schema of an aggregate. -/
def schema (address : AggregateAddress) : Exchange Response :=
  match address.decode? with
  | none => .done invalidPath
  | some address =>
    (Interface.load address.domain address.selector).bind fun
      | .error error => .done (service.options.interfaceFailure error)
      | .ok api => .done (.text 200 api.schema.text)

/-- Resolves the field that a request asks for. -/
def resolve (address : AggregateAddress) (request : Request) : Exchange Response :=
  match address.decode? with
  | none => .done invalidPath
  | some address =>
    match FieldRequest.ofRequest request with
    | .error refusal => .done refusal
    | .ok wanted =>
      (Interface.load address.domain address.selector).bind fun
        | .error error => .done (service.options.interfaceFailure error)
        | .ok api =>
          (api.resolve wanted.type wanted.field wanted.subject wanted.args
            (request.context service.options.trustProxy address.encode)).map resolutionResponse

/-- Answers a request at an endpoint that allows its method. -/
def serve (request : Request) : Endpoint → Exchange Response
  | .health => service.health
  | .schema address => service.schema address
  | .resolve address => service.resolve address request

/-- Answers a request at the endpoints. -/
def answer (request : Request) : Exchange Response :=
  match Endpoint.ofPath? request.target.path with
  | none => .done (.error 404 "Not found")
  | some endpoint => if endpoint.allows request.method then service.serve request endpoint else .done (.empty 405)

/-- How many bytes of a body are forwarded. -/
def maxForwardBody : Nat := 16 * 1024 * 1024

/-- Forwards a request to the target of its route. -/
def forward (target : RouteTarget) (request : Request) : Exchange Response :=
  if request.body.size > maxForwardBody then .done (.error 413 "length limit exceeded")
  else
    (target.forward request.method request.headers request.body).map fun
      | .ok answer => answer
      | .error error => .error 502 error.message

/-- Answers a request at the target of its route, or else at the endpoints. -/
def route (cache : RouteCache) (request : Request) : Exchange (Response × RouteCache) :=
  match request.headers.text? "host" with
  | none => (service.answer request).map fun response => (response, cache)
  | some host =>
    (cache.reroute host request.target.url).bind fun
      | (.error error, cache) => .done (service.options.storeFailure error.message, cache)
      | (.ok none, cache) => (service.answer request).map fun response => (response, cache)
      | (.ok (some target), cache) => (forward target request).map fun response => (response, cache)

/-- The last touch on an answer: where an endpoint does not allow the method the allowed ones are listed, and an
answer to `HEAD` has no body. -/
def finish (request : Request) (response : Response) : Response :=
  let headers := match Endpoint.ofPath? request.target.path with
    | none => response.headers
    | some endpoint =>
      if endpoint.allows request.method || (response.headers.get? "allow").isSome then response.headers
      else response.headers ++ [("allow", ",".intercalate endpoint.methods)]
  { response with headers := headers, body := if request.method = "HEAD" then .empty else response.body }

/-- Answers a request, and gives the cache after it. -/
def handle (cache : RouteCache) (request : Request) : Exchange (Response × RouteCache) :=
  (service.route cache request).map fun (response, cache) => (finish request response, cache)

end Service

end AggregateGateway
