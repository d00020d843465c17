/-!
The shape that a program expects of a JSON text. A shape says nothing about the meaning of a value; it lists which
members of a record are read, which of them must be there, and where any value will do. Members that no record
lists are passed over when a text is read.
-/

namespace AggregateGateway.Json

/-- What is expected at one place of a text. -/
inductive Shape
  /-- Any value, kept as it is. -/
  | any
  /-- A text in quotation marks. -/
  | text
  /-- `true` or `false`. -/
  | flag
  /-- `null` or what `shape` expects. -/
  | nullable (shape : Shape)
  /-- An object whose members all have one shape. -/
  | mapping (shape : Shape)
  /-- An object whose members all have one shape, or `null` for an empty one. -/
  | fields (shape : Shape)
  /-- An object with these members, or an array with their values in this order; the flag marks the required ones. -/
  | record (members : List (String × Bool × Shape))
deriving Repr, Inhabited

end AggregateGateway.Json
