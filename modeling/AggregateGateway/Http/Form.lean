import AggregateGateway.Http.Percent
import AggregateGateway.Map.SortedMap
import AggregateGateway.Text.Split

/-!
Form-encoded pairs, as in the query of a URL. Pairs stand between ampersands, and the first equals sign divides a name
from its value; a plus sign is a space, and percent signs are resolved. The last value of a name counts.
-/

namespace AggregateGateway.Http

/-- A name or value as text. -/
def formText (chars : List Char) : String :=
  let spaced := chars.map fun c => if c = '+' then ' ' else c
  Text.ofBytesLossy (percentDecode (String.ofList spaced).toUTF8.toList)

/-- The pair that a piece between ampersands writes. -/
def formPair (piece : List Char) : String × String :=
  let (name, value) := (Text.splitFirst? '=' piece).getD (piece, [])
  (formText name, formText value)

/-- The values by name of a form-encoded text. -/
def parseForm (text : String) : SortedMap String :=
  .ofList (((Text.pieces '&' text.toList).filter (· ≠ [])).map formPair)

end AggregateGateway.Http
