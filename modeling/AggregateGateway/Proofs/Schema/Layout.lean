import AggregateGateway.Proofs.Schema.Headings

/-!
Where everything stands in a schema and in its graph. Both are made in two steps of one kind: the fixed fields of a
type stand where it declares fields of their names, or else behind the declared ones, and then come those that only an
entity has. The schema starts from what is declared for a type, and the graph from what is staged on it, so that the
two list the fields of a type in different orders.
-/

namespace AggregateGateway

open Json Entries

/-- The names of the fields of one of several types, in their order; none if there is no such type. -/
def fieldNames (types : OrderedMap TypeDefinition) (type : String) : List String :=
  types.rowKeys TypeDefinition.methods type

/-- The names of the fields that take part in a schema. -/
def TypeDefinition.usableNames (type : TypeDefinition) : List String :=
  (type.methods.filter fun _ spec => spec.returnText?.isSome).keys

/-- The names of the fixed fields of a type. -/
def fixedNames (type : String) : List String := keys (((fixedFields .null).lookup type).getD [])

theorem keys_fixedFields (repository : Value) (type : String) :
    keys (((fixedFields repository).lookup type).getD []) = fixedNames type := by
  simp only [fixedNames, fixedFields, lookup_cons_ite, List.lookup_nil]
  split_ifs <;> rfl

theorem fixedNames_of_not_mem {type : String} (h : type ∉ Surface.systemTypes) : fixedNames type = [] := by
  have hnone : (fixedFields .null).lookup type = none := lookup_eq_none_iff.mpr h
  rw [fixedNames, hnone]
  rfl

namespace AggregateDefinition

variable (aggregate : AggregateDefinition)

/-! ### Schemas -/

theorem fieldNames_types (type : String) :
    fieldNames (Surface.ofAggregate aggregate).types type =
      keysThen (keysThen (aggregate.ownFields type).keys (fixedNames type)) (fieldNames aggregate.entities type) := by
  obtain ⟨hrows, hentries⟩ := nodup_fixedFields .null
  have hfixed := OrderedMap.rowKeys_ofTable hrows hentries (·.spec) TypeDefinition.mk TypeDefinition.methods
    (fun _ => rfl) aggregate.ownFields (fun _ => aggregate.ownFields_of_not_mem) type
  rw [fieldNames, Surface.ofAggregate, OrderedMap.rowKeys_overlay TypeDefinition.methods fun _ _ => rfl,
    aggregate.fixedTypes_eq .null, hfixed]
  rfl

theorem keys_types : (Surface.ofAggregate aggregate).types.keys =
    keysThen Surface.systemTypes aggregate.entities.keys :=
  OrderedMap.keys_overlay _ _

theorem keys_inputs : (Surface.ofAggregate aggregate).inputs.keys =
    keysThen Surface.systemInputs aggregate.inputEntities.keys :=
  OrderedMap.keys_overlay _ _

end AggregateDefinition

/-! ### Graphs -/

namespace ResolverGraph

variable (surface : Surface) (repository : Value)

theorem keys_eq_flatMap (graph : ResolverGraph) : graph.keys =
    graph.types.keys.flatMap fun type => (graph.types.rowKeys id type).map fun field => type ++ "." ++ field := by
  rw [keys, graph.types.flatMap_entries fun type fields => fields.keys.map fun field => type ++ "." ++ field]
  congr 1
  funext type
  rw [OrderedMap.rowKeys]
  cases graph.types.get? type <;> rfl

theorem rowKeys_system (type : String) :
    (system surface repository).rowKeys id type = keysThen (stages surface type).keys (fixedNames type) := by
  obtain ⟨hrows, hentries⟩ := nodup_fixedFields repository
  have htable := OrderedMap.rowKeys_ofTable hrows hentries (·.resolver) id id (fun _ => rfl) (stages surface)
    (fun _ => stages_of_not_mem) type
  rw [keys_fixedFields] at htable
  rw [system_eq]
  exact htable

/-- Of the fields of a type, those with a usable return type are dispatched. -/
theorem keys_dispatched (type : TypeDefinition) :
    ((type.methods.map fun _ spec => FieldResolver.dispatch spec).filter fun name _ =>
      ((type.methods.get? name).bind FieldSpec.returnText?).isSome).keys = type.usableNames := by
  have hkept : ∀ entry ∈ type.methods.entries,
      ((type.methods.get? entry.1).bind FieldSpec.returnText?).isSome = entry.2.returnText?.isSome := by
    rintro ⟨field, spec⟩ hentry
    rw [OrderedMap.get?_eq_some_iff.mpr hentry]
    rfl
  simp only [TypeDefinition.usableNames, OrderedMap.keys, OrderedMap.filter, OrderedMap.map, List.filter_map,
    List.map_map, Function.comp_def]
  rw [List.filter_congr hkept]

theorem rowKeys_declared (type : String) :
    (declared surface).rowKeys id type = ((surface.types.get? type).map TypeDefinition.usableNames).getD [] := by
  rw [OrderedMap.rowKeys, declared, OrderedMap.get?_map]
  cases surface.types.get? type with
  | none => rfl
  | some definition => exact keys_dispatched definition

theorem rowKeys_ofSurface (type : String) :
    (ofSurface surface repository).types.rowKeys id type =
      keysThen (keysThen (stages surface type).keys (fixedNames type))
        (((surface.types.get? type).map TypeDefinition.usableNames).getD []) := by
  rw [ofSurface, OrderedMap.rowKeys_overlay id fun _ _ => rfl, rowKeys_system, rowKeys_declared]

end ResolverGraph

namespace AggregateDefinition

variable (aggregate : AggregateDefinition)

/-- The fields of a type that come first in the graph. -/
def systemFields (type : String) : List String :=
  if type = queryType then ["transact"]
  else if type = aggregateType then ["id", "version"]
  else if type = transactionType then keysThen aggregate.actions.keys ["id", "commit"]
  else if type = resultType then ["id", "success"]
  else []

theorem systemFields_eq (type : String) :
    aggregate.systemFields type =
      keysThen (ResolverGraph.stages (.ofAggregate aggregate) type).keys (fixedNames type) := by
  have hstages : (ResolverGraph.stages (.ofAggregate aggregate) transactionType).keys = aggregate.actions.keys := by
    rw [ResolverGraph.stages, if_pos rfl, OrderedMap.keys_map, Surface.ofAggregate, actionFields, OrderedMap.keys_map]
  unfold systemFields
  split
  · next hquery => exact hquery ▸ rfl
  split
  · next haggregate => exact haggregate ▸ rfl
  split
  · next htransaction =>
    subst htransaction
    rw [hstages]
    rfl
  split
  · next hresult => exact hresult ▸ rfl
  · next hquery haggregate htransaction hresult =>
    rw [ResolverGraph.stages, if_neg htransaction, fixedNames_of_not_mem (by simp [Surface.systemTypes, *])]
    rfl

theorem keys_types_graph (repository : Value) :
    (ResolverGraph.ofSurface (.ofAggregate aggregate) repository).types.keys =
      (Surface.ofAggregate aggregate).types.keys := by
  have hsystem : (ResolverGraph.system (.ofAggregate aggregate) repository).keys = Surface.systemTypes := rfl
  rw [ResolverGraph.ofSurface, OrderedMap.keys_overlay, hsystem, ResolverGraph.declared, OrderedMap.keys_map, keys_types,
    ← keysThen_assoc, keysThen_of_subset fun _ hkey => hkey]

end AggregateDefinition

/-! ### Main statement -/

/-- The order in which an aggregate is laid out in its schema and in its graph on a repository. -/
structure LaidOut (aggregate : AggregateDefinition) (repository : Value) : Prop where
  types : (Surface.ofAggregate aggregate).types.keys = keysThen Surface.systemTypes aggregate.entities.keys
  inputs : (Surface.ofAggregate aggregate).inputs.keys = keysThen Surface.systemInputs aggregate.inputEntities.keys
  query : fieldNames (Surface.ofAggregate aggregate).types queryType =
    keysThen (keysThen aggregate.queries.keys ["transact"]) (fieldNames aggregate.entities queryType)
  /-- Of the methods, those that declare a return type count. -/
  methods : fieldNames (Surface.ofAggregate aggregate).types aggregateType =
    keysThen (keysThen (aggregate.methods.filter fun _ method => method.returnType.isSome).keys ["id", "version"])
      (fieldNames aggregate.entities aggregateType)
  transaction : fieldNames (Surface.ofAggregate aggregate).types transactionType =
    keysThen (keysThen aggregate.actions.keys ["id", "commit"]) (fieldNames aggregate.entities transactionType)
  result : fieldNames (Surface.ofAggregate aggregate).types resultType =
    keysThen ["id", "success"] (fieldNames aggregate.entities resultType)
  entity : ∀ type ∉ Surface.systemTypes,
    fieldNames (Surface.ofAggregate aggregate).types type = fieldNames aggregate.entities type
  /-- The graph has the types of the schema in their order, and in every type first the system fields and then those
  that the schema has beside them. -/
  graph : (ResolverGraph.ofSurface (.ofAggregate aggregate) repository).keys =
    (Surface.ofAggregate aggregate).types.entries.flatMap fun (type, definition) =>
      (keysThen (aggregate.systemFields type) definition.usableNames).map fun field => type ++ "." ++ field

/-- The order of declaration determines the layout of the schema and that of the graph. -/
theorem layout_follows_declarations (aggregate : AggregateDefinition) (repository : Value) :
    LaidOut aggregate repository where
  types := aggregate.keys_types
  inputs := aggregate.keys_inputs
  query := by
    have hown : aggregate.ownFields queryType = aggregate.queryFields := rfl
    rw [aggregate.fieldNames_types, hown, AggregateDefinition.queryFields, OrderedMap.keys_map]
    rfl
  methods := by
    rw [aggregate.fieldNames_types]
    rfl
  transaction := by
    have hown : aggregate.ownFields transactionType = aggregate.actionFields := rfl
    rw [aggregate.fieldNames_types, hown, AggregateDefinition.actionFields, OrderedMap.keys_map]
    rfl
  result := by
    rw [aggregate.fieldNames_types]
    rfl
  entity := by
    intro type htype
    have hfixed : type ∉ keys (fixedFields .null) := htype
    rw [aggregate.fieldNames_types, fixedNames_of_not_mem htype, aggregate.ownFields_of_not_mem hfixed, keysThen_nil]
    exact nil_keysThen _
  graph := by
    rw [ResolverGraph.keys_eq_flatMap, aggregate.keys_types_graph,
      (Surface.ofAggregate aggregate).types.flatMap_entries fun type definition =>
        (keysThen (aggregate.systemFields type) definition.usableNames).map fun field => type ++ "." ++ field]
    apply List.flatMap_congr
    intro type htype
    obtain ⟨definition, hdefinition⟩ := Option.isSome_iff_exists.mp (OrderedMap.contains_iff.mpr htype)
    rw [ResolverGraph.rowKeys_ofSurface, ← aggregate.systemFields_eq, hdefinition]
    rfl

/-- A query of the name of a fixed field leaves its place in the schema to that field; in the graph the fixed field
comes first all the same. -/
example :
    let aggregate : AggregateDefinition := { queries := .ofList [("list", {}), ("transact", {}), ("find", {})] }
    fieldNames (Surface.ofAggregate aggregate).types queryType = ["list", "transact", "find"] ∧
      (ResolverGraph.ofSurface (.ofAggregate aggregate) .null).keys.take 3 =
        ["Query.transact", "Query.list", "Query.find"] := by
  decide

end AggregateGateway
