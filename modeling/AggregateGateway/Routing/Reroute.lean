import AggregateGateway.Gateway.Exchange
import AggregateGateway.Routing.Cache

/-!
Finding the target of a request. The table of a host comes from the cache, or else from one read of its route document;
a host without a document has an empty table, which is cached like any other. A failed read leaves nothing in the
cache.
-/

namespace AggregateGateway

/-- Why no target can be determined. -/
inductive RouteError
  | lookup (error : StoreError)
deriving DecidableEq, Repr

def RouteError.message : RouteError → String
  | lookup error => "Unable to check if request has a view: " ++ error.message

/-- The table that a read of a route document gives. -/
def RouteTable.ofRead : ReadResult → Except StoreError RouteTable
  | .error error => .error error
  | .ok none => .ok {}
  | .ok (some document) =>
    match RouteTable.decode document with
    | .ok table => .ok table
    | .error error => .error (.ofDecodeError error)

/-- Where a URL on a host goes, and the cache after the lookup. -/
def RouteCache.reroute (cache : RouteCache) (host url : String) :
    Exchange (Except RouteError (Option RouteTarget) × RouteCache) :=
  Exchange.now.bind fun now =>
    match cache.lookup now host with
    | (some table, cache) => .done (.ok (table.resolve host url), cache)
    | (none, cache) =>
      (Exchange.read (.routes host)).bind fun answer =>
        match RouteTable.ofRead answer with
        | .error error => .done (.error (.lookup error), cache)
        | .ok table => Exchange.now.map fun loaded => (.ok (table.resolve host url), cache.put loaded host table)

end AggregateGateway
