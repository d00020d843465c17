import AggregateGateway.Http.Authority

/-!
What a request asks for: a path with a query, written alone or behind a scheme and an authority, or nothing but an
authority. A fragment is dropped, and a path that is left out behind an authority is `/`.
-/

namespace AggregateGateway.Http

/-- The target of a request. -/
inductive RequestTarget
  | authority
  /-- A path as it is written, which is empty if it is left out, and a query without its question mark. -/
  | resource (path : String) (query : Option String)
deriving DecidableEq, Repr, Inhabited

namespace RequestTarget

def path : RequestTarget → String
  | authority => ""
  | resource path _ => if path.isEmpty then "/" else path

def query? : RequestTarget → Option String
  | authority => none
  | resource _ query => query

/-- The path with its query, as it is written. -/
def url : RequestTarget → String
  | authority => ""
  | resource path query =>
    let text := path ++ (query.map fun query => "?" ++ query).getD ""
    if text.isEmpty then "/" else text

/-- A character of a path. -/
def isPathChar (c : Char) : Bool :=
  let n := c.toNat
  n = 0x21 || n = 0x22 || (0x24 ≤ n && n ≤ 0x3B) || n = 0x3D || (0x40 ≤ n && n ≤ 0x5F) || 0x61 ≤ n

/-- A character of a query. -/
def isQueryChar (c : Char) : Bool :=
  let n := c.toNat
  n = 0x21 || (0x24 ≤ n && n ≤ 0x3B) || n = 0x3D || 0x3F ≤ n

/-- A path with its query. -/
def ofPath? (chars : List Char) : Option RequestTarget :=
  let kept := chars.takeWhile (· ≠ '#')
  let path := kept.takeWhile (· ≠ '?')
  let query := (Text.splitFirst? '?' kept).map Prod.snd
  if path.all isPathChar && query.all (List.all · isQueryChar) then
    some (.resource (String.ofList path) (query.map String.ofList))
  else none

/-- Whether an authority ends before this character. -/
def endsAuthority (c : Char) : Bool := c = '/' || c = '?' || c = '#'

/-- The text behind the scheme, if there is one. -/
def afterScheme? (chars : List Char) : Option (List Char) :=
  let isSchemeChar (c : Char) := c.isAlphanum || c = '+' || c = '-' || c = '.'
  "://".toList.isPrefixOf? (chars.dropWhile isSchemeChar)

/-- The target that a text writes. -/
def ofText? (text : String) : Option RequestTarget :=
  match text.toList with
  | [] => none
  | ['*'] => some (.resource "*" none)
  | '/' :: rest => ofPath? ('/' :: rest)
  | chars =>
    match afterScheme? chars with
    | none => if isAuthority chars then some .authority else none
    | some rest =>
      let authority := rest.takeWhile (!endsAuthority ·)
      if authority.isEmpty || !isAuthority authority then none else ofPath? (rest.dropWhile (!endsAuthority ·))

end RequestTarget

end AggregateGateway.Http
