import AggregateGateway.Schema.Surface

/-!
The text of a schema: one block for every type and then for every input, with one line for every field that has a
usable return type.
-/

namespace AggregateGateway

/-- `(name:Type, …)`; parameters of an empty type are left out, and so are the brackets of an empty list. -/
def parameterList (params : OrderedMap String) : String :=
  let texts := (params.entries.filter fun (_, type) => !type.isEmpty).map fun (name, type) => name ++ ":" ++ type
  if texts.isEmpty then "" else "(" ++ ", ".intercalate texts ++ ")"

/-- `name(params): Type`, for a field with a usable return type. -/
def FieldSpec.line? (spec : FieldSpec) (name : String) : Option String :=
  spec.returnText?.map fun type => name ++ parameterList spec.params ++ ": " ++ type

/-- One block: a keyword and a name, and the lines of the fields between braces. -/
def TypeDefinition.block (type : TypeDefinition) (keyword name : String) : String :=
  let lines := type.methods.entries.filterMap fun (field, spec) =>
    (spec.line? field).map fun line => "  " ++ line ++ "\n"
  keyword ++ " " ++ name ++ " \x7b\n" ++ String.join lines ++ "\x7d\n\n"

/-- The text of all blocks, types before inputs. -/
def Surface.text (surface : Surface) : String :=
  String.join (surface.types.entries.map fun (name, type) => type.block "type" name)
    ++ String.join (surface.inputs.entries.map fun (name, type) => type.block "input" name)

end AggregateGateway
