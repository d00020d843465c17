import AggregateGateway.Model.Field

/-!
Domain models: bounded contexts, their aggregates, and the published versions of each. One version of an aggregate
declares queries, methods and actions, further types, and the name of the repository that backs it.
-/

namespace AggregateGateway

open Json

/-- One version of the surface of an aggregate. -/
structure AggregateDefinition where
  /-- Reads that return a collection of aggregates. -/
  queries : OrderedMap FieldSpec := .empty
  /-- Reads on a single aggregate. -/
  methods : OrderedMap FieldSpec := .empty
  /-- Writes that are staged on a transaction. -/
  actions : OrderedMap FieldSpec := .empty
  entities : OrderedMap TypeDefinition := .empty
  inputEntities : OrderedMap TypeDefinition := .empty
  /-- The name of the repository among those of the domain model. -/
  repository : Option String := none
deriving DecidableEq, Repr, Inhabited

namespace AggregateDefinition

def record : Record AggregateDefinition where
  name := "AggregateDefinition"
  blank := {}
  fields := [
    ⟨"queries", false, fun a value => do return { a with queries := ← value.decodeOrderedMap FieldSpec.decode }⟩,
    ⟨"methods", false, fun a value => do return { a with methods := ← value.decodeOrderedMap FieldSpec.decode }⟩,
    ⟨"actions", false, fun a value => do return { a with actions := ← value.decodeOrderedMap FieldSpec.decode }⟩,
    ⟨"entities", false, fun a value => do return { a with entities := ← value.decodeOrderedMap TypeDefinition.decode }⟩,
    ⟨"inputEntities", false, fun a value => do
      return { a with inputEntities := ← value.decodeOrderedMap TypeDefinition.decode }⟩,
    ⟨"repository", false, fun a value => do return { a with repository := ← value.decodeOption Value.decodeString }⟩]

def decode : Value → Decoded AggregateDefinition := record.decode

def encode (a : AggregateDefinition) : Value :=
  .object [("queries", a.queries.encode FieldSpec.encode), ("methods", a.methods.encode FieldSpec.encode),
    ("actions", a.actions.encode FieldSpec.encode), ("entities", a.entities.encode TypeDefinition.encode),
    ("inputEntities", a.inputEntities.encode TypeDefinition.encode), ("repository", .ofString? a.repository)]

def shape : Shape :=
  .record [("queries", false, .fields FieldSpec.shape), ("methods", false, .fields FieldSpec.shape),
    ("actions", false, .fields FieldSpec.shape), ("entities", false, .fields TypeDefinition.shape),
    ("inputEntities", false, .fields TypeDefinition.shape), ("repository", false, .nullable .text)]

end AggregateDefinition

/-- The published versions of an aggregate by their labels. -/
structure VersionedAggregate where
  versions : SortedMap AggregateDefinition := .empty
deriving DecidableEq, Repr, Inhabited

namespace VersionedAggregate

def record : Record VersionedAggregate where
  name := "VersionedAggregate"
  blank := {}
  fields := [⟨"versions", false, fun a value => do
    return { a with versions := ← value.decodeSortedMap AggregateDefinition.decode }⟩]

def decode : Value → Decoded VersionedAggregate := record.decode

def encode (a : VersionedAggregate) : Value := .object [("versions", a.versions.encode AggregateDefinition.encode)]

def shape : Shape := .record [("versions", false, .mapping AggregateDefinition.shape)]

end VersionedAggregate

/-- The aggregates of one context. -/
structure BoundedContext where
  aggregates : SortedMap VersionedAggregate := .empty
deriving DecidableEq, Repr, Inhabited

namespace BoundedContext

def record : Record BoundedContext where
  name := "BoundedContext"
  blank := {}
  fields := [⟨"aggregates", false, fun context value => do
    return { context with aggregates := ← value.decodeSortedMap VersionedAggregate.decode }⟩]

def decode : Value → Decoded BoundedContext := record.decode

def encode (context : BoundedContext) : Value :=
  .object [("aggregates", context.aggregates.encode VersionedAggregate.encode)]

def shape : Shape := .record [("aggregates", false, .mapping VersionedAggregate.shape)]

end BoundedContext

/-- The address of one version of an aggregate. -/
structure AggregateSelector where
  boundedContext : String
  aggregate : String
  version : String
deriving DecidableEq, Repr, Inhabited

namespace AggregateSelector

/-- The path that a selector addresses, for messages. -/
def display (selector : AggregateSelector) : String :=
  s!"boundedContexts[{selector.boundedContext}].aggregates[{selector.aggregate}].versions[{selector.version}]"

def record : Record AggregateSelector where
  name := "AggregateSelector"
  blank := ⟨"", "", ""⟩
  fields := [
    ⟨"boundedContext", true, fun s value => do return { s with boundedContext := ← value.decodeString }⟩,
    ⟨"aggregate", true, fun s value => do return { s with aggregate := ← value.decodeString }⟩,
    ⟨"version", true, fun s value => do return { s with version := ← value.decodeString }⟩]

def decode : Value → Decoded AggregateSelector := record.decode

def encode (s : AggregateSelector) : Value :=
  .object [("boundedContext", .string s.boundedContext), ("aggregate", .string s.aggregate),
    ("version", .string s.version)]

end AggregateSelector

/-- A domain: its bounded contexts, and its repositories as values that are carried and never interpreted. -/
structure DomainModel where
  boundedContexts : SortedMap BoundedContext := .empty
  repositories : SortedMap Value := .empty
deriving Repr, Inhabited

namespace DomainModel

def record : Record DomainModel where
  name := "DomainModel"
  blank := {}
  fields := [
    ⟨"boundedContexts", false, fun model value => do
      return { model with boundedContexts := ← value.decodeSortedMap BoundedContext.decode }⟩,
    ⟨"repositories", false, fun model value => do
      return { model with repositories := ← value.decodeSortedMap .ok }⟩]

def decode : Value → Decoded DomainModel := record.decode

def encode (model : DomainModel) : Value :=
  .object [("boundedContexts", model.boundedContexts.encode BoundedContext.encode),
    ("repositories", model.repositories.encode id)]

def shape : Shape :=
  .record [("boundedContexts", false, .mapping BoundedContext.shape), ("repositories", false, .mapping .any)]

/-- The aggregate that a selector addresses. -/
def aggregate? (model : DomainModel) (selector : AggregateSelector) : Option AggregateDefinition := do
  let context ← model.boundedContexts.get? selector.boundedContext
  let aggregate ← context.aggregates.get? selector.aggregate
  aggregate.versions.get? selector.version

/-- The repository of a name; a `null` entry counts as missing. -/
def repository? (model : DomainModel) (name : String) : Option Value :=
  (model.repositories.get? name).filter fun value => !value.isNull

/-- The value that a selector addresses in a document. Only objects are entered, and `null` counts as missing. -/
def addressed? (document : Value) (selector : AggregateSelector) : Option Value := do
  let contexts ← document.get? "boundedContexts"
  let context ← contexts.get? selector.boundedContext
  let aggregates ← context.get? "aggregates"
  let aggregate ← aggregates.get? selector.aggregate
  let versions ← aggregate.get? "versions"
  let definition ← versions.get? selector.version
  if definition.isNull then none else some definition

/-- The model that holds one aggregate and the repository that it names, as far as the document has an entry for it. -/
def ofAggregate (document : Value) (selector : AggregateSelector) (aggregate : AggregateDefinition) : DomainModel where
  boundedContexts := .single selector.boundedContext
    ⟨.single selector.aggregate ⟨.single selector.version aggregate⟩⟩
  repositories :=
    match aggregate.repository with
    | none => .empty
    | some name =>
      match (document.get? "repositories").bind (Value.get? name) with
      | some repository => .single name repository
      | none => .empty

/-- Decodes of a document only what a selector needs: the addressed aggregate and the repository that it names. An
aggregate that is missing leaves the model empty. -/
def ofDocument (document : Value) (selector : AggregateSelector) : Decoded DomainModel :=
  match addressed? document selector with
  | none => .ok {}
  | some value => ofAggregate document selector <$> AggregateDefinition.decode value

end DomainModel

end AggregateGateway
