import AggregateGateway.Json.Value
import AggregateGateway.Number.Shortest

/-!
The compact text of a JSON value: no spaces, members in their order, and escapes only where a text needs them.
-/

namespace AggregateGateway.Json

namespace Number

/-- The text of a number; one with a point or an exponent is a fraction, all others are integers. -/
def toText : Number → String
  | .integer value => toString value
  | .real value => value.toText

end Number

/-- Two hexadecimal digits in lower case. -/
def hexByte (n : Nat) : List Char := [Nat.digitChar (n / 16 % 16), Nat.digitChar (n % 16)]

/-- A character as it stands between quotation marks; control characters have short names or four digits. -/
def escapeChar (c : Char) : List Char :=
  if c = '"' then ['\\', '"']
  else if c = '\\' then ['\\', '\\']
  else if c = '\n' then ['\\', 'n']
  else if c = '\r' then ['\\', 'r']
  else if c = '\t' then ['\\', 't']
  else if c = '\x08' then ['\\', 'b']
  else if c = '\x0c' then ['\\', 'f']
  else if c.toNat < 32 then ['\\', 'u', '0', '0'] ++ hexByte c.toNat
  else [c]

/-- Appends the escaped characters of a text. -/
def writeChars (out : String) (text : String) : String :=
  text.foldl (fun out c =>
    if c.toNat < 32 ∨ c = '"' ∨ c = '\\' then (escapeChar c).foldl String.push out else out.push c) out

/-- Appends a text between quotation marks. -/
def writeString (out : String) (text : String) : String := (writeChars (out.push '"') text).push '"'

namespace Value

mutual
/-- Appends the compact text of a value. -/
def writeTo (out : String) : Value → String
  | .null => out ++ "null"
  | .bool true => out ++ "true"
  | .bool false => out ++ "false"
  | .number value => out ++ value.toText
  | .string text => writeString out text
  | .array items => (writeItems (out.push '[') true items).push ']'
  | .object members => (writeMembers (out.push '\x7b') true members).push '\x7d'

/-- Appends items with commas between them. -/
def writeItems (out : String) (first : Bool) : List Value → String
  | [] => out
  | item :: items => writeItems (writeTo (if first then out else out.push ',') item) false items

/-- Appends members with commas between them. -/
def writeMembers (out : String) (first : Bool) : List (String × Value) → String
  | [] => out
  | (key, value) :: members =>
    writeMembers (writeTo ((writeString (if first then out else out.push ',') key).push ':') value) false members
end

/-- The compact text of a value. -/
def compact (value : Value) : String := writeTo "" value

end Value

end AggregateGateway.Json
