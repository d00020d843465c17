import AggregateGateway.Json.Decode

/-!
Route tables. A rule mounts a backend view at a path, and the first rule with a view whose mount covers a URL decides
where the request goes. Mounts are compared by whole segments of the path: `/api` covers `/api` and `/api/x`, and not
`/apix`.
-/

namespace AggregateGateway

open Json

/-- A backend view mounted at a path. -/
structure RouteRule where
  path : String := "/"
  view : Option String := none
  /-- Whether the view gets what follows the mount. -/
  passthru : Bool := false
deriving DecidableEq, Repr, Inhabited

/-- Where a request goes. The host is the one that the client asked for. -/
structure RouteTarget where
  address : String
  host : String
deriving DecidableEq, Repr, Inhabited

namespace RouteTarget

def record : Record RouteTarget where
  name := "RouteTarget"
  blank := ⟨"", ""⟩
  fields := [
    ⟨"upstream", true, fun target value => do return { target with address := ← value.decodeString }⟩,
    ⟨"host", true, fun target value => do return { target with host := ← value.decodeString }⟩]

def decode : Value → Decoded RouteTarget := record.decode

def encode (target : RouteTarget) : Value :=
  .object [("upstream", .string target.address), ("host", .string target.host)]

end RouteTarget

namespace RouteRule

def record : Record RouteRule where
  name := "RouteRule"
  blank := {}
  fields := [
    ⟨"path", false, fun rule value => do return { rule with path := ← value.decodeString }⟩,
    ⟨"view", false, fun rule value => do return { rule with view := ← value.decodeOption Value.decodeString }⟩,
    ⟨"passthru", false, fun rule value => do return { rule with passthru := ← value.decodeBool }⟩]

def decode : Value → Decoded RouteRule := record.decode

def encode (rule : RouteRule) : Value :=
  .object [("path", .string rule.path), ("view", match rule.view with
    | some view => .string view
    | none => .null), ("passthru", .bool rule.passthru)]

/-- The path without the slashes at its end. -/
def mount (rule : RouteRule) : List Char := (rule.path.toList.reverse.dropWhile (· == '/')).reverse

/-- What follows `start` in a text that begins with it. -/
def after? : (start text : List Char) → Option (List Char)
  | [], text => some text
  | _ :: _, [] => none
  | c :: start, d :: text => if c = d then after? start text else none

/-- A mount ends where a segment of the path ends. -/
def endsSegment : List Char → Bool
  | [] => true
  | c :: _ => c = '/' || c = '?'

/-- What follows the mount in a URL that it covers. -/
def remainder? (rule : RouteRule) (url : List Char) : Option (List Char) :=
  if rule.mount.isEmpty then some url
  else match after? rule.mount url with
    | some rest => if endsSegment rest then some rest else none
    | none => none

/-- A remainder as it is appended to a view: it starts with a slash. -/
def forwarded : List Char → List Char
  | [] => ['/']
  | '?' :: rest => '/' :: '?' :: rest
  | rest => rest

/-- The view without an empty one. -/
def view? (rule : RouteRule) : Option String := rule.view.filter fun view => !view.isEmpty

/-- The address that a URL is forwarded to. -/
def address? (rule : RouteRule) (url : String) : Option String :=
  match rule.view?, rule.remainder? url.toList with
  | some view, some rest => some (if rule.passthru then view ++ String.ofList (forwarded rest) else view)
  | _, _ => none

end RouteRule

/-- The rules of a host, in the order in which they are tried. -/
structure RouteTable where
  routes : List RouteRule := []
deriving DecidableEq, Repr, Inhabited

namespace RouteTable

def record : Record RouteTable where
  name := "RouteTable"
  blank := {}
  fields := [⟨"routes", false, fun table value => do return { table with routes := ← value.decodeList RouteRule.decode }⟩]

def decode : Value → Decoded RouteTable := record.decode

def encode (table : RouteTable) : Value := .object [("routes", .array (table.routes.map RouteRule.encode))]

/-- The target of the first rule that forwards a URL. -/
def resolve (table : RouteTable) (host url : String) : Option RouteTarget :=
  table.routes.findSome? fun rule => (rule.address? url).map fun address => ⟨address, host⟩

end RouteTable

end AggregateGateway
