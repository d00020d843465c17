import AggregateGateway.Json.Decode
import AggregateGateway.Json.Shape

/-!
Declared fields. A field has parameters, a return type and the endpoint that resolves it; a type is an ordered map of
fields. A field whose return type has no name takes no part in a schema.
-/

namespace AggregateGateway

open Json

/-- The members of an object that an ordered map makes. -/
def OrderedMap.encode {α : Type} (encode : α → Value) (m : OrderedMap α) : Value :=
  .object (m.entries.map fun (key, value) => (key, encode value))

/-- The members of an object that a sorted map makes. -/
def SortedMap.encode {α : Type} (encode : α → Value) (m : SortedMap α) : Value :=
  .object (m.entries.map fun (key, value) => (key, encode value))

/-- A text, or `null` for none. -/
def Json.Value.ofString? : Option String → Value
  | some text => .string text
  | none => .null

/-- The declared return type of a field. -/
structure ReturnType where
  name : Option String := none
  isCollection : Bool := false
deriving DecidableEq, Repr, Inhabited

namespace ReturnType

/-- A single value of the named type. -/
def one (name : String) : ReturnType := ⟨some name, false⟩

/-- A collection of values of the named type. -/
def many (name : String) : ReturnType := ⟨some name, true⟩

/-- `Name`, or `[Name]` for a collection; a type whose name is missing or empty has no text. -/
def text? (type : ReturnType) : Option String :=
  match type.name with
  | none => none
  | some name => if name.isEmpty then none else some (if type.isCollection then "[" ++ name ++ "]" else name)

def record : Record ReturnType where
  name := "ReturnType"
  blank := {}
  fields := [
    ⟨"name", false, fun type value => do return { type with name := ← value.decodeOption Value.decodeString }⟩,
    ⟨"isCollection", false, fun type value => .ok { type with isCollection := value.isTruthy }⟩]

def decode : Value → Decoded ReturnType := record.decode

def encode (type : ReturnType) : Value :=
  .object [("name", .ofString? type.name), ("isCollection", .bool type.isCollection)]

def shape : Shape := .record [("name", false, .nullable .text), ("isCollection", false, .any)]

end ReturnType

/-- The remote endpoint that resolves a field. -/
structure ResolverRef where
  uri : String
deriving DecidableEq, Repr, Inhabited

namespace ResolverRef

def record : Record ResolverRef where
  name := "ResolverRef"
  blank := ⟨""⟩
  fields := [⟨"uri", true, fun resolver value => do return { resolver with uri := ← value.decodeString }⟩]

def decode : Value → Decoded ResolverRef := record.decode

def encode (resolver : ResolverRef) : Value := .object [("uri", .string resolver.uri)]

def shape : Shape := .record [("uri", true, .text)]

end ResolverRef

/-- The declaration of a field. -/
structure FieldSpec where
  /-- Type names by parameter name. -/
  params : OrderedMap String := .empty
  returnType : Option ReturnType := none
  resolver : Option ResolverRef := none
deriving DecidableEq, Repr, Inhabited

namespace FieldSpec

/-- A field that returns the named type, without parameters and resolver. -/
def ofType (name : String) : FieldSpec := { returnType := some (.one name) }

/-- The field with one more parameter. -/
def addParam (spec : FieldSpec) (name type : String) : FieldSpec := { spec with params := spec.params.insert name type }

/-- The field with another return type. -/
def setReturnType (spec : FieldSpec) (type : ReturnType) : FieldSpec := { spec with returnType := some type }

/-- The text of the return type, if the field has a usable one. -/
def returnText? (spec : FieldSpec) : Option String := spec.returnType.bind ReturnType.text?

/-- Parameters are the entries whose value is a text; the others are dropped. -/
def decodeParams (value : Value) : Decoded (OrderedMap String) := do
  let raw ← value.decodeOrderedMap .ok
  return .ofList (raw.entries.filterMap fun
    | (name, .string type) => some (name, type)
    | _ => none)

def record : Record FieldSpec where
  name := "FieldSpec"
  blank := {}
  fields := [
    ⟨"params", false, fun spec value => do return { spec with params := ← decodeParams value }⟩,
    ⟨"returnType", false, fun spec value => do return { spec with returnType := ← value.decodeOption ReturnType.decode }⟩,
    ⟨"resolver", false, fun spec value => do return { spec with resolver := ← value.decodeOption ResolverRef.decode }⟩]

def decode : Value → Decoded FieldSpec := record.decode

def encode (spec : FieldSpec) : Value :=
  .object ([("params", spec.params.encode .string)]
    ++ (spec.returnType.map fun type => ("returnType", type.encode)).toList
    ++ (spec.resolver.map fun resolver => ("resolver", resolver.encode)).toList)

def shape : Shape :=
  .record [("params", false, .fields .any), ("returnType", false, .nullable ReturnType.shape),
    ("resolver", false, .nullable ResolverRef.shape)]

end FieldSpec

/-- A named type: the fields that it offers. -/
structure TypeDefinition where
  methods : OrderedMap FieldSpec := .empty
deriving DecidableEq, Repr, Inhabited

namespace TypeDefinition

def record : Record TypeDefinition where
  name := "TypeDefinition"
  blank := {}
  fields := [
    ⟨"methods", false, fun type value => do return { type with methods := ← value.decodeOrderedMap FieldSpec.decode }⟩]

def decode : Value → Decoded TypeDefinition := record.decode

def encode (type : TypeDefinition) : Value := .object [("methods", type.methods.encode FieldSpec.encode)]

def shape : Shape := .record [("methods", false, .fields FieldSpec.shape)]

end TypeDefinition

end AggregateGateway
