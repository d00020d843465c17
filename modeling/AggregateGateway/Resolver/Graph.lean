import AggregateGateway.Schema.Surface

/-!
How the fields of a surface are resolved. Every field with a usable return type is dispatched to its endpoint, unless it
is a system field: `transact` opens a transaction, an action is staged, and the remaining ones read a receiver. The
system fields lie over the declared ones as they do in the schema.
-/

namespace AggregateGateway

open Json

/-- The fields of `Aggregate` that are read from the receiver. -/
inductive AggregateField
  | id
  | version
deriving DecidableEq, Repr

def AggregateField.key : AggregateField → String
  | id => "id"
  | version => "version"

/-- The fields of `Result`. -/
inductive ResultField
  | id
  | success
deriving DecidableEq, Repr

def ResultField.key : ResultField → String
  | id => "id"
  | success => "success"

/-- The way in which one field is resolved. -/
inductive FieldResolver
  /-- By a call to the endpoint that the field declares. -/
  | dispatch (spec : FieldSpec)
  /-- By opening a transaction on a repository. -/
  | transact (repository : Value)
  | aggregateField (which : AggregateField)
  /-- By staging an action. -/
  | stage (action : String)
  | transactionId
  | commit
  | resultField (which : ResultField)
deriving Repr, Inhabited

/-- A resolver is laid over another as a whole. -/
instance : Overlay FieldResolver := ⟨fun fixed _ => fixed⟩

/-- The resolvers of all fields by type and field, and the repository behind them. -/
structure ResolverGraph where
  types : OrderedMap (OrderedMap FieldResolver)
  repository : Value
deriving Repr, Inhabited

namespace ResolverGraph

/-- Every field with a usable return type is dispatched. -/
def declared (surface : Surface) : OrderedMap (OrderedMap FieldResolver) :=
  surface.types.map fun _ type =>
    (type.methods.map fun _ spec => .dispatch spec).filter fun name _ =>
      ((type.methods.get? name).bind FieldSpec.returnText?).isSome

/-- The resolvers of the system fields. -/
def system (surface : Surface) (repository : Value) : OrderedMap (OrderedMap FieldResolver) :=
  .ofList [
    (queryType, .ofList [("transact", .transact repository)]),
    (aggregateType, .ofList [("id", .aggregateField .id), ("version", .aggregateField .version)]),
    (transactionType, ((surface.actions.map fun name _ => .stage name).insert "id" .transactionId).insert
      "commit" .commit),
    (resultType, .ofList [("id", .resultField .id), ("success", .resultField .success)])]

/-- The graph of a surface on a repository. -/
def ofSurface (surface : Surface) (repository : Value) : ResolverGraph :=
  ⟨overlay (system surface repository) (declared surface), repository⟩

/-- The resolver of a field. -/
def get? (graph : ResolverGraph) (type field : String) : Option FieldResolver :=
  (graph.types.get? type).bind fun fields => fields.get? field

/-- All fields as `Type.field`, in the order of the graph. -/
def keys (graph : ResolverGraph) : List String :=
  graph.types.entries.flatMap fun (type, fields) => fields.keys.map fun field => type ++ "." ++ field

end ResolverGraph

end AggregateGateway
