/-!
Media types, such as `application/json; charset=utf-8`. Type and subtype are tokens in either case; a suffix follows
the last plus sign of the subtype. Parameters stand behind semicolons, and their values are tokens or in quotation
marks.
-/

namespace AggregateGateway.Http

/-- A character of a token. -/
def isTokenChar (c : Char) : Bool := c.isAlphanum || "!#$%&'*+-.^_\x60|~".toList.contains c

/-- A media type without its parameters, in lower case. -/
structure MediaType where
  type : String
  /-- The part before the suffix. -/
  subtype : String
  suffix : Option String
deriving DecidableEq, Repr

namespace MediaType

/-- A place in the parameters of a media type. -/
inductive ParameterState
  | beforeName
  | inName
  | beforeValue
  | inValue
  /-- Behind the opening quotation mark. -/
  | openQuote
  | inQuotes
  | afterQuotes
deriving DecidableEq, Repr

namespace ParameterState

/-- The place after one more character, if it may stand there. A quotation mark right behind the opening one does not
close it. -/
def next? : ParameterState → Char → Option ParameterState
  | beforeName, c => if c = ' ' then some beforeName else if isTokenChar c then some inName else none
  | inName, c => if c = '=' then some beforeValue else if isTokenChar c then some inName else none
  | beforeValue, c => if c = '"' then some openQuote else if isTokenChar c then some inValue else none
  | inValue, c => if c = ';' then some beforeName else if isTokenChar c then some inValue else none
  | openQuote, c => if ' ' ≤ c && c ≠ '\x7f' then some inQuotes else none
  | inQuotes, c => if c = '"' then some afterQuotes else if ' ' ≤ c && c ≠ '\x7f' then some inQuotes else none
  | afterQuotes, c => if c = ';' then some beforeName else if c = ' ' then some afterQuotes else none

/-- Whether the parameters may end here. -/
def mayEnd : ParameterState → Bool
  | beforeName | beforeValue | inValue | afterQuotes => true
  | inName | openQuote | inQuotes => false

end ParameterState

/-- Whether a text behind a semicolon holds well-formed parameters. -/
def areParameters (chars : List Char) : Bool :=
  (chars.foldlM ParameterState.next? .beforeName).any ParameterState.mayEnd

/-- Cuts a subtype at its last plus sign, unless that comes first. -/
def cutSuffix (chars : List Char) : List Char × Option (List Char) :=
  let suffix := (chars.reverse.takeWhile (· ≠ '+')).reverse
  let length := chars.length - suffix.length
  if length < 2 then (chars, none) else (chars.take (length - 1), some suffix)

/-- The media type that a text writes. -/
def ofText? (text : String) : Option MediaType :=
  let chars := text.toList
  let type := chars.takeWhile isTokenChar
  match type, chars.dropWhile isTokenChar with
  | _ :: _, '/' :: rest =>
    let subtype := rest.takeWhile isTokenChar
    let isWellFormed := match rest.dropWhile isTokenChar with
      | [] => true
      | ';' :: parameters => !subtype.isEmpty && areParameters parameters
      | _ => false
    if isWellFormed then
      let lower (chars : List Char) := String.ofList (chars.map Char.toLower)
      let (subtype, suffix) := cutSuffix subtype
      some ⟨lower type, lower subtype, suffix.map lower⟩
    else none
  | _, _ => none

/-- JSON itself, or a type of which JSON is the suffix. -/
def isJson (media : MediaType) : Bool :=
  media.type = "application" && (media.subtype = "json" || media.suffix = some "json")

end MediaType

end AggregateGateway.Http
