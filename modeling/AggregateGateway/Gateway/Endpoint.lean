import AggregateGateway.Gateway.Interface
import AggregateGateway.Http.Percent

/-!
The addresses of the gateway. Besides its health it offers, for each version of an aggregate, the schema and the
resolving of fields. A path is matched as it is written, part by part, and the last part must not be empty; percent
signs are resolved in the parts that name the aggregate.
-/

namespace AggregateGateway

open Json

/-- Where an aggregate is found: its domain, and its place in the domain model. -/
structure AggregateAddress where
  domain : String
  context : String
  aggregate : String
  version : String
deriving DecidableEq, Repr, Inhabited

namespace AggregateAddress

def selector (address : AggregateAddress) : AggregateSelector := ⟨address.context, address.aggregate, address.version⟩

/-- The address without its percent signs, if its parts are text. -/
def decode? (address : AggregateAddress) : Option AggregateAddress := do
  return ⟨← Http.decodeSegment? address.domain, ← Http.decodeSegment? address.context,
    ← Http.decodeSegment? address.aggregate, ← Http.decodeSegment? address.version⟩

/-- The address as the parameters of a request. -/
def encode (address : AggregateAddress) : Value :=
  .object [("domain", .string address.domain), ("bctxt", .string address.context),
    ("aggregate", .string address.aggregate), ("version", .string address.version)]

end AggregateAddress

/-- What a path leads to. -/
inductive Endpoint
  | health
  | schema (address : AggregateAddress)
  | resolve (address : AggregateAddress)
deriving DecidableEq, Repr

namespace Endpoint

/-- The endpoint of a path. -/
def ofPath? (path : String) : Option Endpoint :=
  match path.splitOn "/" with
  | ["", "health"] => some .health
  | ["", api, kind, domain, context, aggregate, version] =>
    if api ≠ surfaceVersion || version.isEmpty then none
    else if kind = "schema" then some (.schema ⟨domain, context, aggregate, version⟩)
    else if kind = "resolve" then some (.resolve ⟨domain, context, aggregate, version⟩)
    else none
  | _ => none

/-- The methods that an endpoint answers. -/
def methods : Endpoint → List String
  | health | schema _ => ["GET", "HEAD"]
  | resolve _ => ["POST"]

/-- Whether an endpoint answers a method. -/
def allows (endpoint : Endpoint) (method : String) : Bool := endpoint.methods.contains method

end Endpoint

end AggregateGateway
