import AggregateGateway.Json.Writer
import AggregateGateway.Map.OrderedMap
import AggregateGateway.Map.SortedMap
import AggregateGateway.Text.Quoted

/-!
Decoding JSON values into typed values. Members are taken in the order in which they are written, and the first problem
met is the one reported. A record is decoded from an object, whose unknown members are passed over, or from an array
that holds its fields in the order in which the record lists them.
-/

namespace AggregateGateway.Json

/-- Why a value does not decode. -/
inductive DecodeError
  /-- A value of one kind stands where another kind is expected. -/
  | invalidType (found : Value) (expected : String)
  /-- A whole number is out of range. -/
  | invalidNumber (found : Int) (expected : String)
  /-- A required member is missing. -/
  | missingField (name : String)
  /-- An array ends before a required field of a record with so many fields. -/
  | tooShort (length : Nat) (record : String) (fields : Nat)
  /-- An array holds more values than the record has fields. -/
  | tooLong (length : Nat)
  /-- A text is no form of a UUID. -/
  | invalidUuid

/-- How a message names the value that was found. -/
def Value.describe : Value → String
  | .null => "null"
  | .bool value => "boolean \x60" ++ toString value ++ "\x60"
  | .number (.integer value) => "integer \x60" ++ toString value ++ "\x60"
  | .number (.real value) => "floating point \x60" ++ value.toText ++ "\x60"
  | .string text => "string " ++ Text.quote text
  | .array _ => "sequence"
  | .object _ => "map"

/-- The wording of a decoding problem. -/
def DecodeError.message : DecodeError → String
  | .invalidType found expected => s!"invalid type: {found.describe}, expected {expected}"
  | .invalidNumber found expected => s!"invalid value: {(Value.ofInt found).describe}, expected {expected}"
  | .missingField name => "missing field \x60" ++ name ++ "\x60"
  | .tooShort length record fields =>
    let elements := if fields = 1 then "element" else "elements"
    s!"invalid length {length}, expected struct {record} with {fields} {elements}"
  | .tooLong length => s!"invalid length {length}, expected fewer elements in array"
  | .invalidUuid => "UUID parsing failed"

/-- The outcome of decoding. -/
abbrev Decoded (α : Type) := Except DecodeError α

namespace Value

def decodeString : Value → Decoded String
  | .string text => .ok text
  | other => .error (.invalidType other "a string")

def decodeBool : Value → Decoded Bool
  | .bool value => .ok value
  | other => .error (.invalidType other "a boolean")

/-- A whole number below `bound`; `name` is what a message calls such numbers. -/
def decodeNat (bound : Nat) (name : String) : Value → Decoded Nat
  | .number (.integer value) =>
    if 0 ≤ value ∧ value < bound then .ok value.toNat else .error (.invalidNumber value name)
  | other => .error (.invalidType other name)

/-- `null` stands for nothing. -/
def decodeOption {α : Type} (decode : Value → Decoded α) : Value → Decoded (Option α)
  | .null => .ok none
  | value => some <$> decode value

def decodeList {α : Type} (decode : Value → Decoded α) : Value → Decoded (List α)
  | .array items => items.mapM decode
  | other => .error (.invalidType other "a sequence")

/-- The members in their order; `null` stands for the empty map. -/
def decodeOrderedMap {α : Type} (decode : Value → Decoded α) : Value → Decoded (OrderedMap α)
  | .null => .ok .empty
  | .object members => members.foldlM (fun m (key, value) => m.insert key <$> decode value) .empty
  | other => .error (.invalidType other "a mapping of field names")

/-- The members sorted by name. -/
def decodeSortedMap {α : Type} (decode : Value → Decoded α) : Value → Decoded (SortedMap α)
  | .object members => members.foldlM (fun m (key, value) => m.insert key <$> decode value) .empty
  | other => .error (.invalidType other "a map")

end Value

/-- One field of a record: its name, whether it must be there, and how its value enters the record. -/
structure Field (α : Type) where
  name : String
  required : Bool
  set : α → Value → Decoded α

/-- How a record is decoded: its name, the record before any field is set, and its fields in order. -/
structure Record (α : Type) where
  name : String
  blank : α
  fields : List (Field α)

namespace Record

variable {α : Type}

/-- Sets the field that a member names; other members change nothing. -/
def setMember (record : Record α) (acc : α) (member : String × Value) : Decoded α :=
  match record.fields.find? (fun field => field.name == member.1) with
  | some field => field.set acc member.2
  | none => .ok acc

/-- Sets fields from the items of an array, both in order. `length` is the number of all items. -/
def setItems (record : Record α) (length : Nat) : List (Field α) → List Value → α → Decoded α
  | [], [], acc => .ok acc
  | [], _ :: _, _ => .error (.tooLong length)
  | field :: fields, [], acc =>
    if field.required then .error (.tooShort length record.name record.fields.length)
    else setItems record length fields [] acc
  | field :: fields, item :: items, acc => (field.set acc item).bind (setItems record length fields items)

/-- Decodes a record from an object or an array. -/
def decode (record : Record α) : Value → Decoded α
  | .object members =>
    (members.foldlM record.setMember record.blank).bind fun result =>
      match record.fields.find? (fun field => field.required && (members.lookup field.name).isNone) with
      | some field => .error (.missingField field.name)
      | none => .ok result
  | .array items => record.setItems items.length record.fields items record.blank
  | other => .error (.invalidType other ("struct " ++ record.name))

end Record

end AggregateGateway.Json
