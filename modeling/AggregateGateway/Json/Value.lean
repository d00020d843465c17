import AggregateGateway.Number.Binary64

/-!
JSON values. An object keeps its members in the order in which they were written; a reader never leaves two members
of one name. Two values are the same when they have the same structure, where the order of members does not count and
an integer is never the same as a fraction.
-/

namespace AggregateGateway.Json

/-- A number written without fraction and exponent stays an integer as long as 64 bits hold it. -/
inductive Number
  | integer (value : Int)
  | real (value : Binary64)
deriving DecidableEq, Repr

namespace Number

/-- Integers and fractions are told apart; the two zeros among fractions are not. -/
def same : Number → Number → Bool
  | .integer a, .integer b => a == b
  | .real a, .real b => a.same b
  | _, _ => false

/-- Any zero, of whatever kind and sign. -/
def isZero : Number → Bool
  | .integer value => value == 0
  | .real value => value.isZero

end Number

/-- A JSON value. -/
inductive Value
  | null
  | bool (value : Bool)
  | number (value : Number)
  | string (value : String)
  | array (items : List Value)
  | object (members : List (String × Value))
deriving Repr, Inhabited

namespace Value

/-- A whole number as a value. -/
def ofInt (value : Int) : Value := .number (.integer value)

/-- A list of texts as a value. -/
def ofStrings (texts : List String) : Value := .array (texts.map .string)

def isNull : Value → Bool
  | .null => true
  | _ => false

/-- The member of an object named `key`; any other value has no members. -/
def get? (key : String) : Value → Option Value
  | .object members => members.lookup key
  | _ => none

/-- `null`, `false`, any zero and the empty text count as false, everything else as true. -/
def isTruthy : Value → Bool
  | .null => false
  | .bool value => value
  | .number value => !value.isZero
  | .string value => !value.isEmpty
  | .array _ => true
  | .object _ => true

/-- The word for the kind of a value. -/
def kind : Value → String
  | .null => "null"
  | .bool _ => "bool"
  | .number _ => "number"
  | .string _ => "string"
  | .array _ => "array"
  | .object _ => "object"

mutual
/-- Equality of values up to the order of members. -/
def same : Value → Value → Bool
  | .null, .null => true
  | .bool a, .bool b => a == b
  | .number a, .number b => a.same b
  | .string a, .string b => a == b
  | .array items, .array others => sameItems items others
  | .object members, .object others => members.length == others.length && sameMembers members others
  | _, _ => false

/-- Items agree one by one. -/
def sameItems : List Value → List Value → Bool
  | [], [] => true
  | a :: items, b :: others => same a b && sameItems items others
  | _, _ => false

/-- Every member has a counterpart of the same name and value. -/
def sameMembers : List (String × Value) → List (String × Value) → Bool
  | [], _ => true
  | (key, a) :: members, others =>
    (match others.lookup key with
      | some b => same a b
      | none => false) && sameMembers members others
end

/-- A member is put in place of one of the same name, or else at the end. -/
def putMember (members : List (String × Value)) (key : String) (value : Value) : List (String × Value) :=
  match members with
  | [] => [(key, value)]
  | (k, v) :: rest => if k = key then (k, value) :: rest else (k, v) :: putMember rest key value

/-- Members in order, each name at its first position with its last value. -/
def ofMembers (members : List (String × Value)) : Value :=
  .object (members.foldl (fun acc (key, value) => putMember acc key value) [])

end Value

end AggregateGateway.Json
