import Mathlib.Data.List.Nodup
import AggregateGateway.Proofs.Resolver.Precedence
import AggregateGateway.Proofs.Resolver.Resolve
import AggregateGateway.Schema.Text

/-!
The text of a schema, the graph of its resolvers and the resolving of fields agree. The fields that have a line in the
text are those that the graph resolves, the graph lists each of them once, and all other fields are unknown.
-/

namespace AggregateGateway

open Json

/-! ### The fields of a graph -/

/-- The fields of a graph by type and name, in the order of the graph. -/
def ResolverGraph.fields (graph : ResolverGraph) : List (String × String) :=
  graph.types.entries.flatMap fun (type, fields) => fields.keys.map fun field => (type, field)

namespace ResolverGraph

variable {graph : ResolverGraph}

theorem mem_fields_iff {type field : String} :
    (type, field) ∈ graph.fields ↔ (graph.get? type field).isSome = true := by
  simp only [fields, List.mem_flatMap, List.mem_map, get?, Option.isSome_bind, Prod.exists, Prod.mk.injEq]
  constructor
  · rintro ⟨t, rows, hrow, f, hf, rfl, rfl⟩
    rw [OrderedMap.get?_eq_some_iff.mpr hrow]
    exact OrderedMap.contains_iff.mpr hf
  · intro h
    cases ht : graph.types.get? type with
    | none => rw [ht] at h; cases h
    | some rows =>
      rw [ht] at h
      exact ⟨type, rows, OrderedMap.get?_eq_some_iff.mp ht, field, OrderedMap.contains_iff.mp h, rfl, rfl⟩

theorem nodup_fields : graph.fields.Nodup := by
  rw [fields, List.nodup_flatMap]
  constructor
  · rintro ⟨type, rows⟩ -
    exact List.Nodup.map (fun _ _ h => (Prod.mk.inj h).2) rows.distinct
  · apply (List.pairwise_map.mp graph.types.distinct).imp
    rintro ⟨type, rows⟩ ⟨type', rows'⟩ hne
    simp only [List.disjoint_left, List.mem_map]
    rintro _ ⟨field, -, rfl⟩ ⟨field', -, h⟩
    exact hne (Prod.mk.inj h).1.symm

theorem keys_eq : graph.keys = graph.fields.map fun (type, field) => type ++ "." ++ field := by
  simp only [keys, fields, List.map_flatMap, List.map_map, Function.comp_def]

/-- A field that the graph does not have is unknown, and an endpoint never makes another one unknown. -/
theorem get?_eq_none_of_unknown {type field : String} {receiver : ResolvedValue} {args raw : Value}
    {events : List Event} {t f : String}
    (h : Exchange.Run (graph.resolve type field receiver args raw) events (.error (.unknownField t f))) :
    graph.get? type field = none := by
  generalize ho : (Except.error (.unknownField t f) : Resolution) = outcome at h
  cases run_resolve_iff.mp h with
  | unknown hg => exact hg
  | answered answer hg hobj hr =>
    cases hres : ResolverResponse.resolution type field answer with
    | ok data =>
      rw [hres] at ho
      cases ho
    | error error =>
      rw [hres] at ho
      obtain ⟨source, rfl⟩ | ⟨value, rfl⟩ := resolution_error hres
      · cases ho
      · cases ho
  | noTransaction | noEndpoint | opened | readOff | staged | identified | committed | noResult | reported => cases ho

end ResolverGraph

/-! ### The text as the graph tells it -/

/-- A field has a line in the text of a schema. -/
def Surface.HasLine (surface : Surface) (type field : String) : Prop :=
  ∃ definition spec line, surface.types.get? type = some definition ∧ definition.methods.get? field = some spec ∧
    spec.line? field = some line

/-- A block with the given lines. -/
def blockOfLines (keyword name : String) (lines : List String) : String :=
  keyword ++ " " ++ name ++ " \x7b\n" ++ String.join (lines.map fun line => "  " ++ line ++ "\n") ++ "\x7d\n\n"

namespace ResolverGraph

/-- The lines of the fields of a type that the graph resolves, in the order of the type; none if such a field has no
line. -/
def lines? (graph : ResolverGraph) (name : String) (type : TypeDefinition) : Option (List String) :=
  (type.methods.entries.filter fun (field, _) => (graph.get? name field).isSome).mapM fun (field, spec) =>
    spec.line? field

/-- The text of a surface, where a type has a line for every field that the graph resolves and no other line. -/
def text? (graph : ResolverGraph) (surface : Surface) : Option String := do
  let types ← surface.types.entries.mapM fun (name, type) => (graph.lines? name type).map (blockOfLines "type" name)
  return String.join types ++ String.join (surface.inputs.entries.map fun (name, type) => type.block "input" name)

end ResolverGraph

/-- A schema and a graph that agree. -/
structure Aligned (surface : Surface) (graph : ResolverGraph) : Prop where
  /-- A field is resolved if a type of the schema has it with a usable return type. -/
  resolved : ∀ type field, (graph.get? type field).isSome = true ↔
    ∃ definition spec, surface.types.get? type = some definition ∧ definition.methods.get? field = some spec ∧
      spec.returnText?.isSome = true
  text : graph.text? surface = some surface.text
  /-- The keys are the fields with a line, each of them once. -/
  keys : ∃ fields : List (String × String), fields.Nodup ∧
    (∀ type field, (type, field) ∈ fields ↔ surface.HasLine type field) ∧
    graph.keys = fields.map fun (type, field) => type ++ "." ++ field
  /-- A field without a line is unknown, whatever it is resolved on. -/
  unknown : ∀ type field receiver args raw, ¬surface.HasLine type field →
    graph.resolve type field receiver args raw = .done (.error (.unknownField type field))
  /-- No run of a field with a line ends with an unknown field. -/
  known : ∀ type field receiver args raw, surface.HasLine type field → ∀ events t f,
    ¬Exchange.Run (graph.resolve type field receiver args raw) events (.error (.unknownField t f))

/-! ### Agreement -/

theorem FieldSpec.isSome_line? (spec : FieldSpec) (name : String) :
    (spec.line? name).isSome = spec.returnText?.isSome :=
  Option.isSome_map

theorem TypeDefinition.block_eq (type : TypeDefinition) (keyword name : String) :
    type.block keyword name =
      blockOfLines keyword name (type.methods.entries.filterMap fun (field, spec) => spec.line? field) := by
  rw [blockOfLines, List.map_filterMap]
  rfl

theorem mapM_filter_isSome {α β : Type} {f : α → Option β} {p : α → Bool} {l : List α}
    (h : ∀ x ∈ l, p x = (f x).isSome) : (l.filter p).mapM f = some (l.filterMap f) := by
  induction l with
  | nil => rfl
  | cons x l ih =>
    obtain ⟨hx, hl⟩ := List.forall_mem_cons.mp h
    cases hf : f x with
    | none => rw [List.filter_cons_of_neg (by simp [hx, hf]), List.filterMap_cons_none hf, ih hl]
    | some y => simp [hx, hf, ih hl]

theorem mapM_eq_some {α β : Type} {f : α → Option β} {g : α → β} {l : List α} (h : ∀ x ∈ l, f x = some (g x)) :
    l.mapM f = some (l.map g) := by
  induction l with
  | nil => rfl
  | cons x l ih =>
    obtain ⟨hx, hl⟩ := List.forall_mem_cons.mp h
    simp [hx, ih hl]

/-- Where a graph resolves the fields with a usable return type, it tells the text of the schema. -/
theorem text?_eq {surface : Surface} {graph : ResolverGraph}
    (h : ∀ type definition, surface.types.get? type = some definition → ∀ field spec,
      definition.methods.get? field = some spec → (graph.get? type field).isSome = spec.returnText?.isSome) :
    graph.text? surface = some surface.text := by
  have hlines : ∀ entry ∈ surface.types.entries, (graph.lines? entry.1 entry.2).map (blockOfLines "type" entry.1) =
      some (entry.2.block "type" entry.1) := by
    rintro ⟨name, type⟩ he
    rw [TypeDefinition.block_eq, ResolverGraph.lines?, mapM_filter_isSome]
    · rfl
    -- A field has a line exactly if the graph resolves it, so both ways of choosing the lines choose the same.
    · rintro ⟨field, spec⟩ hf
      exact (h name type (OrderedMap.get?_eq_some_iff.mpr he) field spec (OrderedMap.get?_eq_some_iff.mpr hf)).trans
        (spec.isSome_line? field).symm
  rw [ResolverGraph.text?, mapM_eq_some hlines]
  rfl

theorem FieldEntry.isSome_dispatched (spec : FieldSpec) :
    (dispatched spec).resolver.isSome = (dispatched spec).spec.returnText?.isSome :=
  Option.isSome_map

theorem isSome_returnText?_fixed {repository : Value} {type field : String} {fixed : FixedField}
    (h : fixedField? repository type field = some fixed) : fixed.spec.returnText?.isSome = true := by
  have hall : ∀ row ∈ fixedFields repository, ∀ entry ∈ row.2, entry.2.spec.returnText?.isSome = true := by
    simp only [fixedFields, List.forall_mem_cons]
    simp [FieldSpec.ofType, FieldSpec.addParam, FieldSpec.returnText?, ReturnType.text?, ReturnType.one,
      transactionType, resultType]
  obtain ⟨row, hrow, hfield⟩ := mem_fixedFields h
  exact hall _ hrow _ hfield

namespace AggregateDefinition

variable (aggregate : AggregateDefinition)

/-- A definition that counts has a resolver if its return type is usable: those of fixed fields and of actions are. -/
theorem isSome_resolver {repository : Value} {type field : String} {entry : FieldEntry}
    (h : aggregate.effective? repository type field = some entry) :
    entry.resolver.isSome = entry.spec.returnText?.isSome := by
  rw [effective?, Option.or_eq_some_iff, Option.or_eq_some_iff] at h
  obtain h | ⟨-, h | ⟨-, h⟩⟩ := h
  · obtain ⟨fixed, hfixed, rfl⟩ := Option.map_eq_some_iff.mp h
    exact (isSome_returnText?_fixed hfixed).symm
  · unfold ownField? at h
    split at h
    · obtain ⟨query, -, rfl⟩ := Option.map_eq_some_iff.mp h
      exact FieldEntry.isSome_dispatched _
    split at h
    · obtain ⟨method, -, rfl⟩ := Option.map_eq_some_iff.mp h
      exact FieldEntry.isSome_dispatched _
    split at h
    · obtain ⟨action, -, rfl⟩ := Option.map_eq_some_iff.mp h
      rfl
    · cases h
  · obtain ⟨spec, -, rfl⟩ := Option.map_eq_some_iff.mp h
    exact FieldEntry.isSome_dispatched spec

theorem isSome_graph (repository : Value) (type field : String) :
    ((ResolverGraph.ofSurface (.ofAggregate aggregate) repository).get? type field).isSome =
      ((fieldOf? (Surface.ofAggregate aggregate).types type field).bind FieldSpec.returnText?).isSome := by
  rw [aggregate.get?_graph, aggregate.fieldOf?_types repository]
  cases h : aggregate.effective? repository type field with
  | none => rfl
  | some entry => exact aggregate.isSome_resolver h

end AggregateDefinition

theorem isSome_fieldOf?_bind_iff {α : Type} {types : OrderedMap TypeDefinition} {type field : String}
    {f : FieldSpec → Option α} : ((fieldOf? types type field).bind f).isSome = true ↔
      ∃ definition spec, types.get? type = some definition ∧ definition.methods.get? field = some spec ∧
        (f spec).isSome = true := by
  simp only [fieldOf?, Option.isSome_iff_exists, Option.bind_eq_some_iff]
  constructor
  · rintro ⟨a, spec, ⟨definition, hd, hs⟩, ha⟩
    exact ⟨definition, spec, hd, hs, a, ha⟩
  · rintro ⟨definition, spec, hd, hs, a, ha⟩
    exact ⟨a, spec, ⟨definition, hd, hs⟩, ha⟩

theorem hasLine_iff {surface : Surface} {type field : String} :
    surface.HasLine type field ↔ ∃ definition spec, surface.types.get? type = some definition ∧
      definition.methods.get? field = some spec ∧ spec.returnText?.isSome = true := by
  unfold Surface.HasLine
  simp only [← FieldSpec.isSome_line? _ field, Option.isSome_iff_exists, exists_and_left]

/-- The schema of an aggregate agrees with its graph on any repository. -/
theorem schema_aligned_with_graph (aggregate : AggregateDefinition) (repository : Value) :
    Aligned (.ofAggregate aggregate) (.ofSurface (.ofAggregate aggregate) repository) := by
  have hresolved : ∀ type field,
      ((ResolverGraph.ofSurface (.ofAggregate aggregate) repository).get? type field).isSome = true ↔
        ∃ definition spec, (Surface.ofAggregate aggregate).types.get? type = some definition ∧
          definition.methods.get? field = some spec ∧ spec.returnText?.isSome = true := fun type field => by
    rw [aggregate.isSome_graph, isSome_fieldOf?_bind_iff]
  constructor
  case resolved => exact hresolved
  case text =>
    apply text?_eq
    intro type definition hd field spec hs
    rw [aggregate.isSome_graph, fieldOf?, hd, Option.bind_some, hs, Option.bind_some]
  case keys =>
    refine ⟨_, ResolverGraph.nodup_fields, fun type field => ?_, ResolverGraph.keys_eq⟩
    rw [ResolverGraph.mem_fields_iff, hresolved, hasLine_iff]
  case unknown =>
    intro type field receiver args raw hline
    rw [hasLine_iff, ← hresolved, Option.not_isSome_iff_eq_none] at hline
    rw [ResolverGraph.resolve, hline]
  case known =>
    intro type field receiver args raw hline events t f hrun
    rw [hasLine_iff, ← hresolved, ResolverGraph.get?_eq_none_of_unknown hrun] at hline
    cases hline

end AggregateGateway
