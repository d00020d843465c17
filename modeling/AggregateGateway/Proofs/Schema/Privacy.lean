import AggregateGateway.Gateway.Interface
import AggregateGateway.Proofs.Map.OrderedMap

/-!
What a published interface tells of the services behind it: nothing. Without the endpoints of its fields an aggregate
makes the same text, and its graph has the same fields, each resolved in the same way, up to the endpoint that is called
and the repository that transactions are opened on. Every stage of compiling changes places with leaving the endpoints
out, so none of them can look at one.
-/

namespace AggregateGateway

open Json

/-! ### Leaving the endpoints out -/

def FieldSpec.withoutEndpoint (spec : FieldSpec) : FieldSpec := { spec with resolver := none }

/-- The fields of a group, none of them with an endpoint. -/
def FieldSpec.allWithoutEndpoint (fields : OrderedMap FieldSpec) : OrderedMap FieldSpec :=
  fields.map fun _ => withoutEndpoint

def TypeDefinition.withoutEndpoints (type : TypeDefinition) : TypeDefinition :=
  ⟨FieldSpec.allWithoutEndpoint type.methods⟩

def AggregateDefinition.withoutEndpoints (aggregate : AggregateDefinition) : AggregateDefinition where
  queries := FieldSpec.allWithoutEndpoint aggregate.queries
  methods := FieldSpec.allWithoutEndpoint aggregate.methods
  actions := FieldSpec.allWithoutEndpoint aggregate.actions
  entities := aggregate.entities.map fun _ => TypeDefinition.withoutEndpoints
  inputEntities := aggregate.inputEntities.map fun _ => TypeDefinition.withoutEndpoints
  repository := aggregate.repository

def Surface.withoutEndpoints (surface : Surface) : Surface where
  types := surface.types.map fun _ => TypeDefinition.withoutEndpoints
  inputs := surface.inputs.map fun _ => TypeDefinition.withoutEndpoints
  actions := FieldSpec.allWithoutEndpoint surface.actions

/-- The kind of a resolver: all that it says but the endpoint and the repository behind it. -/
def FieldResolver.kind : FieldResolver → FieldResolver
  | dispatch spec => dispatch spec.withoutEndpoint
  | transact _ => transact .null
  | other => other

/-- The kinds of the resolvers of a graph. -/
def ResolverGraph.kinds (graph : ResolverGraph) : ResolverGraph :=
  ⟨graph.types.map fun _ fields => fields.map fun _ => FieldResolver.kind, .null⟩

/-! ### Fields -/

namespace FieldSpec

@[simp] theorem returnText?_withoutEndpoint (spec : FieldSpec) :
    spec.withoutEndpoint.returnText? = spec.returnText? := rfl

@[simp] theorem line?_withoutEndpoint (spec : FieldSpec) (name : String) :
    spec.withoutEndpoint.line? name = spec.line? name := rfl

theorem get?_allWithoutEndpoint (fields : OrderedMap FieldSpec) (name : String) :
    (allWithoutEndpoint fields).get? name = (fields.get? name).map withoutEndpoint :=
  OrderedMap.get?_map fields _ name

theorem map_allWithoutEndpoint (f : FieldSpec → FieldSpec)
    (hf : ∀ spec, f spec.withoutEndpoint = (f spec).withoutEndpoint) (fields : OrderedMap FieldSpec) :
    (allWithoutEndpoint fields).map (fun _ => f) = allWithoutEndpoint (fields.map fun _ => f) := by
  rw [allWithoutEndpoint, allWithoutEndpoint, OrderedMap.map_map, OrderedMap.map_map]
  simp only [hf]

end FieldSpec

theorem TypeDefinition.withoutEndpoints_overlay (fixed declared : TypeDefinition) :
    (overlay fixed declared).withoutEndpoints = overlay fixed.withoutEndpoints declared.withoutEndpoints :=
  congrArg mk (OrderedMap.map_overlay (fun _ _ => rfl) fixed.methods declared.methods)

theorem TypeDefinition.withoutEndpoints_withFixed (declared : OrderedMap FieldSpec)
    (fixed : List (String × FieldSpec)) :
    (withFixed declared fixed).withoutEndpoints =
      withFixed (FieldSpec.allWithoutEndpoint declared)
        (fixed.map fun (name, spec) => (name, spec.withoutEndpoint)) :=
  congrArg mk (OrderedMap.map_foldl_insert (fun _ => FieldSpec.withoutEndpoint) fixed declared)

/-! ### Surfaces -/

namespace AggregateDefinition

variable (aggregate : AggregateDefinition)

theorem queryFields_withoutEndpoints :
    aggregate.withoutEndpoints.queryFields = FieldSpec.allWithoutEndpoint aggregate.queryFields :=
  FieldSpec.map_allWithoutEndpoint (fun query => query.setReturnType (.many aggregateType)) (fun _ => rfl)
    aggregate.queries

theorem methodFields_withoutEndpoints :
    aggregate.withoutEndpoints.methodFields = FieldSpec.allWithoutEndpoint aggregate.methodFields :=
  (OrderedMap.map_filter aggregate.methods (fun _ => FieldSpec.withoutEndpoint)
    (fun _ method => method.returnType.isSome) (fun _ method => method.returnType.isSome) fun _ _ => rfl).symm

theorem actionFields_withoutEndpoints :
    aggregate.withoutEndpoints.actionFields = FieldSpec.allWithoutEndpoint aggregate.actionFields :=
  FieldSpec.map_allWithoutEndpoint (fun action => action.setReturnType (.one transactionType)) (fun _ => rfl)
    aggregate.actions

end AggregateDefinition

namespace Surface

theorem fixedTypes_withoutEndpoints (queries methods actions : OrderedMap FieldSpec) :
    (fixedTypes queries methods actions).map (fun _ => TypeDefinition.withoutEndpoints) =
      fixedTypes (FieldSpec.allWithoutEndpoint queries) (FieldSpec.allWithoutEndpoint methods)
        (FieldSpec.allWithoutEndpoint actions) := by
  rw [fixedTypes, fixedTypes, OrderedMap.map_ofList]
  simp only [List.map_cons, List.map_nil, TypeDefinition.withoutEndpoints_withFixed]
  rfl

/-- The surface of an aggregate without endpoints is the one that the aggregate has, without endpoints. -/
theorem ofAggregate_withoutEndpoints (aggregate : AggregateDefinition) :
    ofAggregate aggregate.withoutEndpoints = (ofAggregate aggregate).withoutEndpoints := by
  have htypes := OrderedMap.map_overlay TypeDefinition.withoutEndpoints_overlay
    (fixedTypes aggregate.queryFields aggregate.methodFields aggregate.actionFields) aggregate.entities
  have hinputs := OrderedMap.map_overlay TypeDefinition.withoutEndpoints_overlay fixedInputs aggregate.inputEntities
  rw [fixedTypes_withoutEndpoints] at htypes
  rw [ofAggregate, aggregate.queryFields_withoutEndpoints, aggregate.methodFields_withoutEndpoints,
    aggregate.actionFields_withoutEndpoints, withoutEndpoints, ofAggregate, htypes, hinputs]
  rfl

theorem block_withoutEndpoints (type : TypeDefinition) (keyword name : String) :
    type.withoutEndpoints.block keyword name = type.block keyword name := by
  simp only [TypeDefinition.block, TypeDefinition.withoutEndpoints, FieldSpec.allWithoutEndpoint,
    OrderedMap.entries_map, List.filterMap_map, Function.comp_def, FieldSpec.line?_withoutEndpoint]

theorem text_withoutEndpoints (surface : Surface) : surface.withoutEndpoints.text = surface.text := by
  simp only [text, withoutEndpoints, OrderedMap.entries_map, List.map_map, Function.comp_def, block_withoutEndpoints]

end Surface

/-! ### Graphs -/

namespace ResolverGraph

theorem declared_withoutEndpoints (surface : Surface) :
    (declared surface).map (fun _ fields => fields.map fun _ => FieldResolver.kind) =
      declared surface.withoutEndpoints := by
  have hfields : ∀ type : TypeDefinition,
      ((type.methods.map fun _ spec => FieldResolver.dispatch spec).filter fun name _ =>
          ((type.methods.get? name).bind FieldSpec.returnText?).isSome).map (fun _ => FieldResolver.kind) =
        (type.withoutEndpoints.methods.map fun _ spec => FieldResolver.dispatch spec).filter fun name _ =>
          ((type.withoutEndpoints.methods.get? name).bind FieldSpec.returnText?).isSome := by
    intro type
    -- Whether a field is kept is decided by its return type, which stays.
    have hkept : ∀ name, (type.withoutEndpoints.methods.get? name).bind FieldSpec.returnText? =
        (type.methods.get? name).bind FieldSpec.returnText? := by
      intro name
      rw [TypeDefinition.withoutEndpoints, FieldSpec.get?_allWithoutEndpoint, Option.bind_map]
      rfl
    have hmap : (type.methods.map fun _ spec => FieldResolver.dispatch spec).map (fun _ => FieldResolver.kind) =
        type.withoutEndpoints.methods.map fun _ spec => .dispatch spec := by
      rw [TypeDefinition.withoutEndpoints, FieldSpec.allWithoutEndpoint, OrderedMap.map_map, OrderedMap.map_map]
      rfl
    simp only [hkept, ← hmap]
    exact OrderedMap.map_filter _ _ _ _ fun _ _ => rfl
  rw [declared, declared, OrderedMap.map_map, Surface.withoutEndpoints, OrderedMap.map_map]
  simp only [hfields]

theorem system_withoutEndpoints (surface : Surface) (repository : Value) :
    (system surface repository).map (fun _ fields => fields.map fun _ => FieldResolver.kind) =
      system surface.withoutEndpoints .null := by
  have hstages : (surface.actions.map fun name _ => FieldResolver.stage name).map (fun _ => FieldResolver.kind) =
      surface.withoutEndpoints.actions.map fun name _ => .stage name := by
    rw [OrderedMap.map_map, Surface.withoutEndpoints, FieldSpec.allWithoutEndpoint, OrderedMap.map_map]
    rfl
  rw [system, system, OrderedMap.map_ofList, ← hstages]
  simp only [List.map_cons, List.map_nil, OrderedMap.map_insert, OrderedMap.map_ofList]
  rfl

/-- What kinds of resolvers a graph has is seen on the surface without endpoints, whatever the repository. -/
theorem kinds_ofSurface (surface : Surface) (repository : Value) :
    (ofSurface surface repository).kinds = ofSurface surface.withoutEndpoints .null := by
  have hmap :=
    OrderedMap.map_overlay (f := fun fields : OrderedMap FieldResolver => fields.map fun _ => FieldResolver.kind)
      (OrderedMap.map_overlay fun _ _ => rfl) (system surface repository) (declared surface)
  rw [kinds, ofSurface, ofSurface, hmap, system_withoutEndpoints, declared_withoutEndpoints]

theorem keys_kinds (graph : ResolverGraph) : graph.kinds.keys = graph.keys := by
  simp only [keys, kinds, OrderedMap.entries_map, List.flatMap_map, OrderedMap.keys, List.map_map, Function.comp_def]

theorem get?_kinds (graph : ResolverGraph) (type field : String) :
    graph.kinds.get? type field = (graph.get? type field).map FieldResolver.kind := by
  rw [get?, get?, kinds, OrderedMap.get?_map, Option.bind_map, Option.map_bind]
  congr 1
  funext fields
  exact OrderedMap.get?_map fields _ field

end ResolverGraph

/-! ### Interfaces -/

/-- Two interfaces that cannot be told apart by what is published of them. -/
structure PublishAlike (api other : Interface) : Prop where
  text : api.schema.text = other.schema.text
  keys : api.resolvers.keys = other.resolvers.keys
  kinds : ∀ type field, (api.resolvers.get? type field).map FieldResolver.kind =
    (other.resolvers.get? type field).map FieldResolver.kind

theorem publishAlike_of_withoutEndpoints {aggregate other : AggregateDefinition}
    (h : aggregate.withoutEndpoints = other.withoutEndpoints) (repository repository' : Value) :
    PublishAlike (.ofSchema (.ofAggregate aggregate repository)) (.ofSchema (.ofAggregate other repository')) := by
  have hsurface : (Surface.ofAggregate aggregate).withoutEndpoints = (Surface.ofAggregate other).withoutEndpoints := by
    rw [← Surface.ofAggregate_withoutEndpoints, ← Surface.ofAggregate_withoutEndpoints, h]
  have hkinds : (Interface.ofSchema (.ofAggregate aggregate repository)).resolvers.kinds =
      (Interface.ofSchema (.ofAggregate other repository')).resolvers.kinds := by
    simp only [Interface.ofSchema, Schema.ofAggregate, ResolverGraph.kinds_ofSurface, hsurface]
  constructor
  case text =>
    simp only [Interface.ofSchema, Schema.ofAggregate]
    rw [← Surface.text_withoutEndpoints, hsurface, Surface.text_withoutEndpoints]
  case keys => rw [← ResolverGraph.keys_kinds, hkinds, ResolverGraph.keys_kinds]
  case kinds =>
    intro type field
    rw [← ResolverGraph.get?_kinds, hkinds, ResolverGraph.get?_kinds]

/-- Aggregates that are the same but for the endpoints of their fields are published alike, on whatever repositories:
where both are stored with a repository, both compile to the same text and to graphs of the same fields, each with a
resolver of the same kind. -/
theorem endpoints_stay_private {aggregate other : AggregateDefinition}
    (h : aggregate.withoutEndpoints = other.withoutEndpoints) :
    (∀ repository repository' : Value, PublishAlike (.ofSchema (.ofAggregate aggregate repository))
        (.ofSchema (.ofAggregate other repository'))) ∧
      ∀ (model model' : DomainModel) (selector selector' : AggregateSelector) (repository repository' : Value),
        model.aggregate? selector = some aggregate → model'.aggregate? selector' = some other →
        model.repository? (aggregate.repository.getD "") = some repository →
        model'.repository? (other.repository.getD "") = some repository' →
        ∃ schema schema', model.compile selector = .ok schema ∧ model'.compile selector' = .ok schema' ∧
          schema.repository = repository ∧ schema'.repository = repository' ∧
          PublishAlike (.ofSchema schema) (.ofSchema schema') := by
  refine ⟨publishAlike_of_withoutEndpoints h, ?_⟩
  intro model model' selector selector' repository repository' haggregate hother hrepository hrepository'
  have hcompile : ∀ {model : DomainModel} {selector aggregate repository}, model.aggregate? selector = some aggregate →
      model.repository? (aggregate.repository.getD "") = some repository →
      model.compile selector = .ok (.ofAggregate aggregate repository) := by
    intro model selector aggregate repository ha hr
    simp only [DomainModel.compile, ha, hr]
  exact ⟨_, _, hcompile haggregate hrepository, hcompile hother hrepository', rfl, rfl,
    publishAlike_of_withoutEndpoints h repository repository'⟩

/-- A shop whose service has moved, with another database: clients see the same schema, and only the calls go
elsewhere. -/
theorem moved_service_publishes_alike :
    let shop (service : ResolverRef) : AggregateDefinition :=
      { queries := .ofList [("list", { resolver := some service })]
        actions := .ofList [("ship", {})]
        entities := .ofList [("Order", ⟨.ofList [("total",
          { returnType := some (.one "Int"), resolver := some service })]⟩)]
        repository := some "orders" }
    let model (service : ResolverRef) (repository : Value) : DomainModel :=
      { boundedContexts := .single "sales" ⟨.single "order" ⟨.single "1" (shop service)⟩⟩
        repositories := .single "orders" repository }
    let selector : AggregateSelector := ⟨"sales", "order", "1"⟩
    let old : ResolverRef := ⟨"http://old"⟩
    let new : ResolverRef := ⟨"http://new"⟩
    (∃ schema schema', (model old (.string "a")).compile selector = .ok schema ∧
        (model new (.bool true)).compile selector = .ok schema' ∧
        PublishAlike (.ofSchema schema) (.ofSchema schema')) ∧
      ∀ service : ResolverRef, ∃ spec, spec.resolver = some service ∧
        (ResolverGraph.ofSurface (.ofAggregate (shop service)) .null).get? "Order" "total" = some (.dispatch spec) := by
  intro shop model selector old new
  obtain ⟨-, hcompiled⟩ := @endpoints_stay_private (shop old) (shop new) rfl
  obtain ⟨schema, schema', hold, hnew, -, -, halike⟩ :=
    hcompiled (model old (.string "a")) (model new (.bool true)) selector selector (.string "a") (.bool true) rfl rfl
      rfl rfl
  exact ⟨⟨schema, schema', hold, hnew, halike⟩, fun service => ⟨_, rfl, rfl⟩⟩

end AggregateGateway
