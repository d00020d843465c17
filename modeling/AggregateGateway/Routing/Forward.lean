import AggregateGateway.Gateway.Exchange
import AggregateGateway.Routing.Table

/-!
Forwarding a request to the target of a route. Method and body stay as they are; headers that concern a single
connection are dropped on the way there and on the way back, and the target names the host. The request is sent once.
-/

namespace AggregateGateway

open Http

/-- Why forwarding gives no answer. -/
inductive ForwardError
  /-- The host cannot stand in a header. -/
  | invalidHost (host : String)
  | failed (reason : String)
deriving DecidableEq, Repr

def ForwardError.message : ForwardError → String
  | invalidHost host => "Invalid Host header for upstream: " ++ host
  | failed reason => "Upstream request failed: " ++ reason

/-- The headers that concern a single connection. -/
def hopByHop : List String :=
  ["connection", "keep-alive", "proxy-connection", "te", "trailer", "transfer-encoding", "upgrade", "content-length",
    "host"]

/-- The headers that are handed on. -/
def Http.Headers.withoutHopByHop (headers : Headers) : Headers := headers.filter fun (name, _) => !hopByHop.contains name

/-- Whether a text can stand in a header: it holds no control characters but tabs. -/
def isHeaderValue (text : String) : Bool := text.toList.all fun c => c = '\t' || (' ' ≤ c && c ≠ '\x7f')

namespace RouteTarget

/-- The request that goes to a target. -/
def outgoing (target : RouteTarget) (method : String) (headers : Headers) (body : ByteArray) : OutgoingRequest :=
  ⟨method, target.address, headers.withoutHopByHop ++ [("host", target.host)], body⟩

/-- Sends a request to a target, and gives its answer. -/
def forward (target : RouteTarget) (method : String) (headers : Headers) (body : ByteArray) :
    Exchange (Except ForwardError Response) :=
  if isHeaderValue target.host then
    (Exchange.transmit (target.outgoing method headers body)).map fun
      | .ok answer => .ok { answer with headers := answer.headers.withoutHopByHop }
      | .error reason => .error (.failed reason)
  else .done (.error (.invalidHost target.host))

end RouteTarget

end AggregateGateway
