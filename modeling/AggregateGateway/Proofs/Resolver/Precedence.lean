import AggregateGateway.Proofs.Map.OrderedMap
import AggregateGateway.Resolver.Graph

/-!
Which definition of a field counts. A fixed field has its own spec and resolver; below it stands what the aggregate
declares as a query, a method or an action of a system type, and below that what it declares as an entity. The schema
and the graph are built apart, and both follow this one order in every type and field.
-/

namespace AggregateGateway

open Json

/-! ### The order -/

/-- A field of a system type that no declaration changes. -/
structure FixedField where
  spec : FieldSpec
  resolver : FieldResolver

/-- The fixed fields of every system type, on a repository. -/
def fixedFields (repository : Value) : List (String × List (String × FixedField)) := [
  (queryType, [
    ("transact", ⟨(FieldSpec.ofType transactionType).addParam "options" transactOptions, .transact repository⟩)]),
  (aggregateType, [
    ("id", ⟨.ofType "ID", .aggregateField .id⟩),
    ("version", ⟨.ofType "Int", .aggregateField .version⟩)]),
  (transactionType, [
    ("id", ⟨.ofType "ID", .transactionId⟩),
    ("commit", ⟨(FieldSpec.ofType resultType).addParam "options" commitOptions, .commit⟩)]),
  (resultType, [
    ("id", ⟨.ofType "ID!", .resultField .id⟩),
    ("success", ⟨.ofType "Boolean", .resultField .success⟩)])]

def fixedField? (repository : Value) (type field : String) : Option FixedField :=
  ((fixedFields repository).lookup type).bind fun row => row.lookup field

theorem nodup_fixedFields (repository : Value) :
    (Entries.keys (fixedFields repository)).Nodup ∧ ∀ row ∈ fixedFields repository, (Entries.keys row.2).Nodup := by
  simp [fixedFields, queryType, aggregateType, transactionType, resultType]

theorem mem_fixedFields {repository : Value} {type field : String} {fixed : FixedField}
    (h : fixedField? repository type field = some fixed) :
    ∃ row, (type, row) ∈ fixedFields repository ∧ (field, fixed) ∈ row := by
  obtain ⟨hrows, hentries⟩ := nodup_fixedFields repository
  obtain ⟨row, hrow, hfield⟩ := Option.bind_eq_some_iff.mp h
  have hmem := (Entries.lookup_eq_some_iff hrows).mp hrow
  exact ⟨row, hmem, (Entries.lookup_eq_some_iff (hentries _ hmem)).mp hfield⟩

theorem fixedField?_endpoint (repository : Value) (type field : String) :
    (fixedField? repository type field).bind (·.spec.resolver) = none := by
  cases h : fixedField? repository type field with
  | none => rfl
  | some fixed =>
    have hall : ∀ row ∈ fixedFields repository, ∀ entry ∈ row.2, entry.2.spec.resolver = none := by
      simp only [fixedFields, List.forall_mem_cons]
      simp [FieldSpec.ofType, FieldSpec.addParam]
    obtain ⟨row, hrow, hfield⟩ := mem_fixedFields h
    exact hall _ hrow _ hfield

/-- The fields of the fixed inputs. -/
def fixedInputFields : List (String × List (String × FieldSpec)) := [
  (transactOptions, [("subscribe", .ofType "Boolean")]),
  (commitOptions, [("wait", .ofType "Boolean"), ("timeout", .ofType "Int")])]

def fixedInputField? (input field : String) : Option FieldSpec :=
  (fixedInputFields.lookup input).bind fun row => row.lookup field

/-- A field of one of several types. -/
def fieldOf? (types : OrderedMap TypeDefinition) (type field : String) : Option FieldSpec :=
  (types.get? type).bind fun definition => definition.methods.get? field

/-- What becomes of a field: its spec in the schema, and its resolver if it has one. -/
structure FieldEntry where
  spec : FieldSpec
  resolver : Option FieldResolver

namespace FieldEntry

def fixed (field : FixedField) : FieldEntry := ⟨field.spec, some field.resolver⟩

/-- A field that is dispatched if its return type is usable. -/
def dispatched (spec : FieldSpec) : FieldEntry := ⟨spec, spec.returnText?.map fun _ => .dispatch spec⟩

end FieldEntry

namespace AggregateDefinition

variable (aggregate : AggregateDefinition)

/-- A query, method or action as a field of its system type. Every query gives aggregates and is dispatched, a method
counts if it declares a return type, and every action is staged and gives the transaction. -/
def ownField? (type field : String) : Option FieldEntry :=
  if type = queryType then
    (aggregate.queries.get? field).map fun query =>
      .dispatched { query with returnType := some (.many aggregateType) }
  else if type = aggregateType then
    ((aggregate.methods.get? field).filter fun method => method.returnType.isSome).map .dispatched
  else if type = transactionType then
    (aggregate.actions.get? field).map fun action =>
      ⟨{ action with returnType := some (.one transactionType) }, some (.stage field)⟩
  else none

/-- The fixed field if there is one, or else the own field, or else the field of an entity. -/
def effective? (repository : Value) (type field : String) : Option FieldEntry :=
  ((fixedField? repository type field).map .fixed).or
    ((aggregate.ownField? type field).or ((fieldOf? aggregate.entities type field).map .dispatched))

end AggregateDefinition

/-! ### The schema -/

theorem fieldOf?_overlay (fixed declared : OrderedMap TypeDefinition) (type field : String) :
    fieldOf? (overlay fixed declared) type field = (fieldOf? fixed type field).or (fieldOf? declared type field) :=
  OrderedMap.bind_get?_overlay_of_leaf (fun _ _ => rfl) TypeDefinition.methods (fun _ _ => rfl) fixed declared type
    field

namespace AggregateDefinition

variable (aggregate : AggregateDefinition)

/-- The declared fields of a system type, which its fixed fields are put into. -/
def ownFields (type : String) : OrderedMap FieldSpec :=
  if type = queryType then aggregate.queryFields
  else if type = aggregateType then aggregate.methodFields
  else if type = transactionType then aggregate.actionFields
  else .empty

theorem ownFields_of_not_mem {repository : Value} {type : String}
    (h : type ∉ Entries.keys (fixedFields repository)) : aggregate.ownFields type = .empty := by
  simp only [fixedFields, Entries.keys, List.map_cons, List.map_nil, List.mem_cons, not_or] at h
  rw [ownFields, if_neg h.1, if_neg h.2.1, if_neg h.2.2.1]

theorem get?_ownFields (type field : String) :
    (aggregate.ownFields type).get? field = (aggregate.ownField? type field).map (·.spec) := by
  unfold ownFields ownField?
  split
  · rw [queryFields, OrderedMap.get?_map, Option.map_map]
    rfl
  split
  · rw [methodFields, OrderedMap.get?_filter, Option.map_map]
    exact Option.map_id_apply.symm
  split
  · rw [actionFields, OrderedMap.get?_map, Option.map_map]
    rfl
  · rfl

theorem fixedTypes_eq (repository : Value) :
    Surface.fixedTypes aggregate.queryFields aggregate.methodFields aggregate.actionFields =
      .ofList ((fixedFields repository).map fun (name, row) =>
        (name, ⟨OrderedMap.putRow (·.spec) (aggregate.ownFields name) row⟩)) := by
  rfl

/-- The spec of a field of the system types: that of the fixed field, or else of the own field. -/
theorem fieldOf?_fixedTypes (repository : Value) (type field : String) :
    fieldOf? (Surface.fixedTypes aggregate.queryFields aggregate.methodFields aggregate.actionFields) type field =
      (((fixedField? repository type field).map .fixed).or (aggregate.ownField? type field)).map (·.spec) := by
  obtain ⟨hrows, hentries⟩ := nodup_fixedFields repository
  rw [fieldOf?, aggregate.fixedTypes_eq repository,
    OrderedMap.bind_get?_ofTable hrows hentries (·.spec) TypeDefinition.mk TypeDefinition.methods (fun _ => rfl)
      aggregate.ownFields (fun _ => aggregate.ownFields_of_not_mem), aggregate.get?_ownFields, Option.map_or,
    Option.map_map]
  rfl

theorem fieldOf?_types (repository : Value) (type field : String) :
    fieldOf? (Surface.ofAggregate aggregate).types type field =
      (aggregate.effective? repository type field).map (·.spec) := by
  rw [Surface.ofAggregate, fieldOf?_overlay, aggregate.fieldOf?_fixedTypes repository, effective?, ← Option.or_assoc,
    Option.map_or (o := Option.or _ _), Option.map_map]
  congr 1
  exact Option.map_id_apply.symm

theorem fieldOf?_inputs (input field : String) :
    fieldOf? (Surface.ofAggregate aggregate).inputs input field =
      (fixedInputField? input field).or (fieldOf? aggregate.inputEntities input field) := by
  have hfixed : Surface.fixedInputs = .ofList (fixedInputFields.map fun (name, row) =>
      (name, ⟨OrderedMap.putRow id .empty row⟩)) := rfl
  rw [Surface.ofAggregate, fieldOf?_overlay, fieldOf?, hfixed,
    OrderedMap.bind_get?_ofTable (by simp [fixedInputFields, transactOptions, commitOptions])
      (by simp [fixedInputFields]) id TypeDefinition.mk TypeDefinition.methods (fun _ => rfl) (fun _ => .empty)
      (fun _ _ => rfl), Option.map_id, OrderedMap.get?_empty, Option.or_none]
  rfl

end AggregateDefinition

/-! ### The graph -/

namespace ResolverGraph

/-- The resolvers that a system type has for declared fields. -/
def stages (surface : Surface) (type : String) : OrderedMap FieldResolver :=
  if type = transactionType then surface.actions.map fun name _ => .stage name else .empty

theorem stages_of_not_mem {surface : Surface} {repository : Value} {type : String}
    (h : type ∉ Entries.keys (fixedFields repository)) : stages surface type = .empty := by
  simp only [fixedFields, Entries.keys, List.map_cons, List.map_nil, List.mem_cons, not_or] at h
  rw [stages, if_neg h.2.2.1]

theorem system_eq (surface : Surface) (repository : Value) :
    system surface repository =
      .ofList ((fixedFields repository).map fun (name, row) =>
        (name, OrderedMap.putRow (·.resolver) (stages surface name) row)) := by
  rfl

/-- The resolver of a field of the system types: that of the fixed field, or else the staging of an action. -/
theorem get?_system (surface : Surface) (repository : Value) (type field : String) :
    ((system surface repository).get? type).bind (fun fields => fields.get? field) =
      ((fixedField? repository type field).map (·.resolver)).or ((stages surface type).get? field) := by
  obtain ⟨hrows, hentries⟩ := nodup_fixedFields repository
  rw [system_eq]
  exact OrderedMap.bind_get?_ofTable hrows hentries (·.resolver) id id (fun _ => rfl) (stages surface)
    (fun _ => stages_of_not_mem) type field

/-- Every field of a surface with a usable return type is dispatched. -/
theorem get?_declared (surface : Surface) (type field : String) :
    ((declared surface).get? type).bind (fun fields => fields.get? field) =
      (fieldOf? surface.types type field).bind fun spec => (FieldEntry.dispatched spec).resolver := by
  rw [declared, OrderedMap.get?_map, fieldOf?]
  cases surface.types.get? type with
  | none => rfl
  | some definition =>
    simp only [Option.map_some, Option.bind_some, OrderedMap.get?_filter, OrderedMap.get?_map]
    cases definition.methods.get? field with
    | none => rfl
    | some spec =>
      simp only [Option.map_some, Option.bind_some, FieldEntry.dispatched]
      cases spec.returnText? <;> rfl

/-- A field of a graph is a fixed one, or else staged, or else dispatched as its spec says. -/
theorem get?_ofSurface (surface : Surface) (repository : Value) (type field : String) :
    (ofSurface surface repository).get? type field =
      (((fixedField? repository type field).map (·.resolver)).or ((stages surface type).get? field)).or
        ((fieldOf? surface.types type field).bind fun spec => (FieldEntry.dispatched spec).resolver) := by
  rw [← get?_system, ← get?_declared]
  exact OrderedMap.bind_get?_overlay_of_leaf (fun _ _ => rfl) id (fun _ _ => rfl) _ _ type field

/-- The three kinds of resolvers in a graph. -/
theorem ofSurface_cases {surface : Surface} {repository : Value} {type field : String} {resolver : FieldResolver}
    (h : (ofSurface surface repository).get? type field = some resolver) :
    (∃ fixed, fixedField? repository type field = some fixed ∧ fixed.resolver = resolver) ∨
      (type = transactionType ∧ resolver = .stage field) ∨
      ∃ spec, fieldOf? surface.types type field = some spec ∧ resolver = .dispatch spec := by
  rw [get?_ofSurface, Option.or_eq_some_iff, Option.or_eq_some_iff] at h
  obtain (h | ⟨-, h⟩) | ⟨-, h⟩ := h
  · exact .inl (Option.map_eq_some_iff.mp h)
  · unfold stages at h
    split at h
    · next htype =>
      rw [OrderedMap.get?_map] at h
      obtain ⟨_, -, rfl⟩ := Option.map_eq_some_iff.mp h
      exact .inr (.inl ⟨htype, rfl⟩)
    · rw [OrderedMap.get?_empty] at h
      cases h
  · obtain ⟨spec, hspec, h⟩ := Option.bind_eq_some_iff.mp h
    obtain ⟨_, -, rfl⟩ := Option.map_eq_some_iff.mp h
    exact .inr (.inr ⟨spec, hspec, rfl⟩)

end ResolverGraph

namespace AggregateDefinition

variable (aggregate : AggregateDefinition)

/-- Staging comes before dispatching, so that an own field has its own resolver. -/
theorem stages_or_dispatched {type field : String} {entry : FieldEntry}
    (h : aggregate.ownField? type field = some entry) :
    ((ResolverGraph.stages (.ofAggregate aggregate) type).get? field).or (FieldEntry.dispatched entry.spec).resolver =
      entry.resolver := by
  unfold ownField? at h
  unfold ResolverGraph.stages
  split at h
  · next hq =>
    obtain ⟨query, -, rfl⟩ := Option.map_eq_some_iff.mp h
    rw [if_neg (hq ▸ by decide)]
    rfl
  split at h
  · next ha =>
    obtain ⟨method, -, rfl⟩ := Option.map_eq_some_iff.mp h
    rw [if_neg (ha ▸ by decide)]
    rfl
  split at h
  · next ht =>
    obtain ⟨action, ha, rfl⟩ := Option.map_eq_some_iff.mp h
    rw [if_pos ht, OrderedMap.get?_map, Surface.ofAggregate, actionFields, OrderedMap.get?_map, ha]
    rfl
  · cases h

theorem get?_stages_of_none {type field : String} (h : aggregate.ownField? type field = none) :
    (ResolverGraph.stages (.ofAggregate aggregate) type).get? field = none := by
  unfold ResolverGraph.stages
  split
  · next ht =>
    subst ht
    rw [ownField?, if_neg (by decide), if_neg (by decide), if_pos rfl, Option.map_eq_none_iff] at h
    rw [OrderedMap.get?_map, Surface.ofAggregate, actionFields, OrderedMap.get?_map, h]
    rfl
  · rfl

theorem get?_graph (repository : Value) (type field : String) :
    (ResolverGraph.ofSurface (.ofAggregate aggregate) repository).get? type field =
      (aggregate.effective? repository type field).bind (·.resolver) := by
  rw [ResolverGraph.get?_ofSurface, aggregate.fieldOf?_types repository, effective?]
  cases fixedField? repository type field with
  | some fixed => rfl
  | none =>
    -- Below the fixed fields the graph stages an action, or else dispatches what the schema has.
    simp only [Option.map_none, Option.none_or]
    cases hown : aggregate.ownField? type field with
    | some entry => exact aggregate.stages_or_dispatched hown
    | none =>
      rw [aggregate.get?_stages_of_none hown, Option.none_or, Option.none_or]
      cases fieldOf? aggregate.entities type field <;> rfl

end AggregateDefinition

/-- In every type and field, the schema has the spec and the graph the resolver of the definition that counts, and
nothing if there is none. Inputs follow the same order, and no fixed field is resolved by an endpoint. -/
theorem system_definitions_win (aggregate : AggregateDefinition) (repository : Value) (type field : String) :
    let surface := Surface.ofAggregate aggregate
    let effective := aggregate.effective? repository type field
    fieldOf? surface.types type field = effective.map (·.spec) ∧
      (ResolverGraph.ofSurface surface repository).get? type field = effective.bind (·.resolver) ∧
      fieldOf? surface.inputs type field =
        (fixedInputField? type field).or (fieldOf? aggregate.inputEntities type field) ∧
      (fixedField? repository type field).bind (·.spec.resolver) = none :=
  ⟨aggregate.fieldOf?_types repository type field, aggregate.get?_graph repository type field,
    aggregate.fieldOf?_inputs type field, fixedField?_endpoint repository type field⟩

end AggregateGateway
