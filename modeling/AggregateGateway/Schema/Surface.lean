import AggregateGateway.Schema.Overlay

/-!
The surface of an aggregate: what it declares, under the system types. `Query` offers the queries and `transact`,
`Aggregate` the methods with a return type, `id` and `version`, `Transaction` the actions, `id` and `commit`, and
`Result` has `id` and `success`. A system field stands in place of a declared one of its name.
-/

namespace AggregateGateway

/-- The names of the system types. -/
def queryType : String := "Query"
def aggregateType : String := "Aggregate"
def transactionType : String := "Transaction"
def resultType : String := "Result"

/-- The names of the system inputs. -/
def transactOptions : String := "TransactOptions"
def commitOptions : String := "CommitOptions"

/-- The types, inputs and actions of a surface, system ones first. -/
structure Surface where
  types : OrderedMap TypeDefinition
  inputs : OrderedMap TypeDefinition
  /-- The declared actions, each returning the transaction that it is staged on. -/
  actions : OrderedMap FieldSpec
deriving DecidableEq, Repr, Inhabited

/-- The fields of `Query` that system fields do not replace. -/
def AggregateDefinition.queryFields (aggregate : AggregateDefinition) : OrderedMap FieldSpec :=
  aggregate.queries.map fun _ query => query.setReturnType (.many aggregateType)

/-- Methods that declare no return type are dropped. -/
def AggregateDefinition.methodFields (aggregate : AggregateDefinition) : OrderedMap FieldSpec :=
  aggregate.methods.filter fun _ method => method.returnType.isSome

/-- Every action returns the transaction that it is staged on. -/
def AggregateDefinition.actionFields (aggregate : AggregateDefinition) : OrderedMap FieldSpec :=
  aggregate.actions.map fun _ action => action.setReturnType (.one transactionType)

/-- A type with declared fields, and fixed ones that replace them in place or follow them. -/
def TypeDefinition.withFixed (declared : OrderedMap FieldSpec) (fixed : List (String × FieldSpec)) : TypeDefinition :=
  ⟨fixed.foldl (fun fields (name, spec) => fields.insert name spec) declared⟩

namespace Surface

def fixedTypes (queries methods actions : OrderedMap FieldSpec) : OrderedMap TypeDefinition :=
  .ofList [
    (queryType, .withFixed queries
      [("transact", (FieldSpec.ofType transactionType).addParam "options" transactOptions)]),
    (aggregateType, .withFixed methods [("id", .ofType "ID"), ("version", .ofType "Int")]),
    (transactionType, .withFixed actions [("id", .ofType "ID"),
      ("commit", (FieldSpec.ofType resultType).addParam "options" commitOptions)]),
    (resultType, ⟨.ofList [("id", .ofType "ID!"), ("success", .ofType "Boolean")]⟩)]

def fixedInputs : OrderedMap TypeDefinition :=
  .ofList [
    (transactOptions, ⟨.ofList [("subscribe", .ofType "Boolean")]⟩),
    (commitOptions, ⟨.ofList [("wait", .ofType "Boolean"), ("timeout", .ofType "Int")]⟩)]

/-- What an aggregate declares, under the system definitions. -/
def ofAggregate (aggregate : AggregateDefinition) : Surface where
  types := overlay (fixedTypes aggregate.queryFields aggregate.methodFields aggregate.actionFields) aggregate.entities
  inputs := overlay fixedInputs aggregate.inputEntities
  actions := aggregate.actionFields

end Surface

end AggregateGateway
