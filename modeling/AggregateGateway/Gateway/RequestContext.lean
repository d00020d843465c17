import AggregateGateway.Http.Cookie
import AggregateGateway.Http.Form

/-!
The context of a request, as fields are resolved in it. Address, host and protocol of the client come from the
connection and the request itself; behind a trusted proxy the first entry of a forwarding header takes precedence,
unless it is blank. The context holds all readable headers, and is filtered before anything of it leaves the gateway.
-/

namespace AggregateGateway

open Json Http

/-- The first entry of a forwarding header, unless it is blank. -/
def Http.Headers.forwarded? (headers : Headers) (name : String) : Option String :=
  ((headers.text? name).map fun list => Text.trimChars (list.toList.takeWhile (· ≠ ','))).bind fun entry =>
    if entry.isEmpty then none else some (String.ofList entry)

/-- The readable headers; the last value of a name counts. -/
def Http.Headers.encode (headers : Headers) : Value :=
  .ofMembers (headers.filterMap fun (name, value) => (readable? value).map fun text => (name, .string text))

namespace Http.Request

/-- A forwarding header, if it is trusted. -/
def proxied? (request : Request) (trustProxy : Bool) (name : String) : Option String :=
  if trustProxy then request.headers.forwarded? name else none

/-- The host that the client addressed, without a port. -/
def hostname (request : Request) (trustProxy : Bool) : String :=
  (((request.proxied? trustProxy "x-forwarded-host").or (request.headers.text? "host")).map hostPart).getD ""

/-- The protocol that the client used. -/
def protocol (request : Request) (trustProxy : Bool) : String :=
  (request.proxied? trustProxy "x-forwarded-proto").getD "http"

/-- The address of the client. -/
def clientAddress (request : Request) (trustProxy : Bool) : String :=
  ((request.proxied? trustProxy "x-forwarded-for").or (request.peer.map IpAddress.toText)).getD ""

/-- The query by names. -/
def query (request : Request) : Value :=
  .object ((parseForm (request.target.query?.getD "")).entries.map fun (name, value) => (name, .string value))

/-- The context, with the parameters of the path. -/
def context (request : Request) (trustProxy : Bool) (params : Value) : Value :=
  .object [
    ("baseUrl", .string ""),
    ("cookies", request.headers.cookies),
    ("headers", request.headers.encode),
    ("hostname", .string (request.hostname trustProxy)),
    ("ip", .string (request.clientAddress trustProxy)),
    ("method", .string request.method),
    ("originalUrl", .string request.target.url),
    ("path", .string request.target.path),
    ("protocol", .string (request.protocol trustProxy)),
    ("query", request.query),
    ("params", params)]

end Http.Request

end AggregateGateway
