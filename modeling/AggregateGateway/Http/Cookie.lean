import AggregateGateway.Http.Message
import AggregateGateway.Json.Value
import AggregateGateway.Text.Split
import AggregateGateway.Text.WhiteSpace

/-!
The cookies of a request. A cookie header is a list of pairs between semicolons, and the first equals sign divides a
name from its value; white space around either is dropped, and a piece without a name is no cookie. The last value of
a name counts.
-/

namespace AggregateGateway.Http

open Json

/-- The name and value that a piece between semicolons writes. -/
def cookie? (piece : List Char) : Option (String × Value) :=
  match Text.splitFirst? '=' piece with
  | none => none
  | some (name, value) =>
    let name := Text.trimChars name
    if name.isEmpty then none
    else some (String.ofList name, .string (String.ofList (Text.trimChars value)))

/-- The cookies of one header. -/
def cookiesOfLine (line : String) : List (String × Value) := (Text.pieces ';' line.toList).filterMap cookie?

/-- The cookies of all readable cookie headers, in the order in which their names come first. -/
def Headers.cookies (headers : Headers) : Value :=
  .ofMembers (((headers.all "cookie").filterMap readable?).flatMap cookiesOfLine)

end AggregateGateway.Http
