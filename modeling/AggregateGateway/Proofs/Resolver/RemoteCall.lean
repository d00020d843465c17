import Mathlib.Data.List.Forall2
import AggregateGateway.Proofs.Resolver.Precedence
import AggregateGateway.Proofs.Resolver.Resolve

/-!
Calls of resolver endpoints. Resolving a field calls an endpoint at most once, and does so exactly if the field is
dispatched, its spec names an endpoint, and the receiver gives something to send; what the endpoint answers decides the
outcome. The endpoints that are called are those of the declarations that count: a declaration in the shadow of another
one is never asked.
-/

namespace AggregateGateway

open Json

/-! ### Calls and replies -/

/-- A field to resolve, and what it is resolved on; `raw` is the context of the request before it is filtered. -/
structure FieldCall where
  type : String
  field : String
  receiver : ResolvedValue
  args : Value
  raw : Value

/-- The questions that were asked, with their answers, and the outcome. -/
structure Reply where
  events : List Event
  outcome : Resolution

structure EndpointCall where
  uri : String
  request : ResolverRequest
  answer : Except TransportError ResolverResponse

def Event.endpointCall? : Event → Option EndpointCall
  | callResolver uri request answer => some ⟨uri, request, answer⟩
  | readDocument _ _ | send _ _ | drawId _ | readClock _ => none

def Reply.endpointCalls (reply : Reply) : List EndpointCall := reply.events.filterMap Event.endpointCall?

namespace FieldCall

def exchange (call : FieldCall) (graph : ResolverGraph) : Exchange Resolution :=
  graph.resolve call.type call.field call.receiver call.args call.raw

def Gives (graph : ResolverGraph) (call : FieldCall) (reply : Reply) : Prop :=
  Exchange.Run (call.exchange graph) reply.events reply.outcome

/-- The receiver will do where a transaction is expected. -/
def Fits (graph : ResolverGraph) (call : FieldCall) : Prop :=
  call.type = transactionType → (call.receiver.transactionOn? graph.repository).isSome = true

/-- The field is dispatched to an endpoint, and the receiver will do. -/
def Dispatched (graph : ResolverGraph) (call : FieldCall) : Prop :=
  (∃ spec, graph.get? call.type call.field = some (.dispatch spec) ∧ spec.resolver.isSome = true) ∧ call.Fits graph

end FieldCall

/-- The outcome that the answer of an endpoint stands for. An error of the application counts unless it is `null`. -/
inductive Concludes (type field : String) : Except TransportError ResolverResponse → Resolution → Prop
  | failed (source : TransportError) : Concludes type field (.error source) (.error (.transport type field source))
  | refused {response : ResolverResponse} {error : Value} : response.error = some error → error.isNull = false →
      Concludes type field (.ok response) (.error (.application error))
  | answered {response : ResolverResponse} : (∀ error, response.error = some error → error.isNull = true) →
      Concludes type field (.ok response) (.ok (.json response.data))

theorem concludes_resolution (type field : String) (answer : Except TransportError ResolverResponse) :
    Concludes type field answer ((ResolverResponse.resolution type field answer).map .json) := by
  cases answer with
  | error source => exact .failed source
  | ok response =>
    rw [ResolverResponse.resolution, ResolverResponse.result]
    cases he : response.error with
    | none =>
      refine .answered fun error h => ?_
      rw [he] at h
      cases h
    | some error =>
      dsimp only
      cases hn : error.isNull with
      | true =>
        refine .answered fun other h => ?_
        rw [he] at h
        cases h
        exact hn
      | false => exact .refused he hn

/-! ### One field -/

/-- What a reply says of the endpoint of a field. -/
structure AsksOnce (graph : ResolverGraph) (call : FieldCall) (reply : Reply) : Prop where
  atMostOnce : reply.endpointCalls.length ≤ 1
  once_iff : reply.endpointCalls.length = 1 ↔ call.Dispatched graph
  /-- The endpoint is that of the spec that is dispatched, and it is sent nothing but the receiver, the arguments and
  the filtered context. -/
  sent : ∀ made ∈ reply.endpointCalls, ∃ spec endpoint obj,
    graph.get? call.type call.field = some (.dispatch spec) ∧ spec.resolver = some endpoint ∧
      graph.sent? call.type call.receiver = some obj ∧ made.uri = endpoint.uri ∧
      made.request = ⟨obj, call.args, .filter call.raw⟩ ∧ Concludes call.type call.field made.answer reply.outcome
  /-- Without an endpoint a dispatched field fails; what is wrong with the receiver comes first. -/
  noEndpoint : ∀ spec, graph.get? call.type call.field = some (.dispatch spec) → spec.resolver = none →
    (call.Fits graph → reply.outcome = .error (.notFound call.type call.field)) ∧
      (¬call.Fits graph → reply.outcome = .error (.invalidReceiver call.type call.field "Transaction"))
  neverNull : ∀ error, reply.outcome = .error (.application error) → error.isNull = false

section
variable {graph : ResolverGraph} {call : FieldCall} {reply : Reply}

theorem FieldCall.fits_iff : call.Fits graph ↔ (graph.sent? call.type call.receiver).isSome = true := by
  rw [Fits, ResolverGraph.sent?]
  by_cases htype : call.type = transactionType <;> simp [htype]

/-- A reply without a call of an endpoint, and one with it. -/
theorem endpointCalls_cases (h : FieldCall.Gives graph call reply) :
    (reply.endpointCalls = [] ∧ ¬call.Dispatched graph ∧ ∀ error, reply.outcome ≠ .error (.application error)) ∨
      ∃ spec endpoint obj answer, graph.get? call.type call.field = some (.dispatch spec) ∧
        spec.resolver = some endpoint ∧ graph.sent? call.type call.receiver = some obj ∧
        reply.endpointCalls = [⟨endpoint.uri, ⟨obj, call.args, .filter call.raw⟩, answer⟩] ∧
        reply.outcome = (ResolverResponse.resolution call.type call.field answer).map .json := by
  obtain ⟨events, outcome⟩ := reply
  -- All rules but that of an answer are of the first kind: the field has another resolver, or none, or the receiver or
  -- the endpoint is missing.
  have hother : ∀ {resolver}, graph.get? call.type call.field = resolver →
      (∀ spec, resolver ≠ some (.dispatch spec)) → ¬call.Dispatched graph := by
    rintro _ rfl hne ⟨⟨spec, hg, -⟩, -⟩
    exact hne spec hg
  cases Resolves.of_run h with
  | unknown hg => exact .inl ⟨rfl, hother hg nofun, nofun⟩
  | noTransaction hg hneeds ht =>
    refine .inl ⟨rfl, ?_, nofun⟩
    rintro ⟨⟨spec, hd, -⟩, hfits⟩
    cases hg.symm.trans hd
    have hsome := hfits hneeds
    rw [ht] at hsome
    cases hsome
  | noEndpoint hg hobj hr =>
    refine .inl ⟨rfl, ?_, nofun⟩
    rintro ⟨⟨spec, hd, hsome⟩, -⟩
    cases hg.symm.trans hd
    rw [hr] at hsome
    cases hsome
  | answered answer hg hobj hr => exact .inr ⟨_, _, _, answer, hg, hr, hobj, rfl, rfl⟩
  | opened id hg => exact .inl ⟨rfl, hother hg nofun, nofun⟩
  | readOff hg => exact .inl ⟨rfl, hother hg nofun, nofun⟩
  | staged hg _ | identified hg _ | committed hg _ | noResult hg _ | reported hg _ =>
    exact .inl ⟨rfl, hother hg nofun, nofun⟩

/-- A dispatched field without an endpoint is not found; if its receiver will not do, that is said instead. -/
theorem outcome_of_noEndpoint {spec : FieldSpec} (h : FieldCall.Gives graph call reply)
    (hg : graph.get? call.type call.field = some (.dispatch spec)) (hr : spec.resolver = none) :
    (call.Fits graph → reply.outcome = .error (.notFound call.type call.field)) ∧
      (¬call.Fits graph → reply.outcome = .error (.invalidReceiver call.type call.field "Transaction")) := by
  obtain ⟨events, outcome⟩ := reply
  rw [FieldCall.fits_iff]
  cases Resolves.of_run h with
  | noTransaction hg' hneeds ht =>
    cases hg'.symm.trans hg
    have hnone : graph.sent? call.type call.receiver = none := by
      rw [ResolverGraph.sent?, if_pos (show call.type = transactionType from hneeds), ht]
      rfl
    simp [hnone]
  | noEndpoint hg' hobj hr' => simp [hobj]
  | answered answer hg' hobj hr' =>
    cases hg'.symm.trans hg
    rw [hr] at hr'
    cases hr'
  | unknown hg' => cases hg'.symm.trans hg
  | opened id hg' => cases hg'.symm.trans hg
  | readOff hg' => cases hg'.symm.trans hg
  | staged hg' _ | identified hg' _ | committed hg' _ | noResult hg' _ | reported hg' _ => cases hg'.symm.trans hg

theorem asksOnce_of_gives (h : FieldCall.Gives graph call reply) : AsksOnce graph call reply := by
  obtain ⟨hcalls, hnot, happ⟩ | ⟨spec, endpoint, obj, answer, hg, hr, hobj, hcalls, hout⟩ := endpointCalls_cases h
  · constructor
    case atMostOnce => simp [hcalls]
    case once_iff => simp [hcalls, hnot]
    case sent => simp [hcalls]
    case noEndpoint => exact fun spec hg hr => outcome_of_noEndpoint h hg hr
    case neverNull => exact fun error he => absurd he (happ error)
  · have hconcludes : Concludes call.type call.field answer reply.outcome := hout ▸ concludes_resolution _ _ answer
    have hdispatched : call.Dispatched graph := by
      refine ⟨⟨spec, hg, ?_⟩, FieldCall.fits_iff.mpr ?_⟩
      · rw [hr, Option.isSome_some]
      · rw [hobj, Option.isSome_some]
    constructor
    case atMostOnce => simp [hcalls]
    case once_iff => simp [hcalls, hdispatched]
    case sent =>
      intro made hmade
      rw [hcalls] at hmade
      cases List.mem_singleton.mp hmade
      exact ⟨spec, endpoint, obj, hg, hr, hobj, rfl, rfl, hconcludes⟩
    case noEndpoint => exact fun spec hg hr => outcome_of_noEndpoint h hg hr
    case neverNull =>
      intro error he
      rw [he] at hconcludes
      cases hconcludes with
      | refused _ hnull => exact hnull

end

/-! ### The endpoints that count -/

/-- The fields that no declaration changes. -/
def systemFields : List (String × String) := [
  (queryType, "transact"), (aggregateType, "id"), (aggregateType, "version"), (transactionType, "id"),
  (transactionType, "commit"), (resultType, "id"), (resultType, "success")]

theorem fixedField?_of_mem {type field : String} (h : (type, field) ∈ systemFields) (repository : Value) :
    (fixedField? repository type field).isSome = true := by
  have hall : ∀ entry ∈ systemFields, (fixedField? repository entry.1 entry.2).isSome = true := by
    simp only [systemFields, List.forall_mem_cons]
    exact ⟨rfl, rfl, rfl, rfl, rfl, rfl, rfl, List.forall_mem_nil _⟩
  exact hall _ h

theorem fixedField?_ne_dispatch {repository : Value} {type field : String} {fixed : FixedField}
    (h : fixedField? repository type field = some fixed) (spec : FieldSpec) : fixed.resolver ≠ .dispatch spec := by
  have hall : ∀ row ∈ fixedFields repository, ∀ entry ∈ row.2, entry.2.resolver ≠ .dispatch spec := by
    simp only [fixedFields, List.forall_mem_cons]
    simp
  obtain ⟨row, hrow, hentry⟩ := mem_fixedFields h
  exact hall _ hrow _ hentry

/-- The endpoints that an aggregate makes reachable: those of queries and methods that are not system fields, and those
of fields of entities that neither a system field nor a query, a method or an action of the same type and name
shadows. An action has no endpoint that counts. -/
inductive AggregateDefinition.Reaches (aggregate : AggregateDefinition) : String → Prop
  | query {field : String} {query : FieldSpec} {endpoint : ResolverRef} :
      aggregate.queries.get? field = some query → (queryType, field) ∉ systemFields →
      query.resolver = some endpoint → aggregate.Reaches endpoint.uri
  | method {field : String} {method : FieldSpec} {endpoint : ResolverRef} :
      aggregate.methods.get? field = some method → (aggregateType, field) ∉ systemFields →
      method.returnText?.isSome = true → method.resolver = some endpoint → aggregate.Reaches endpoint.uri
  | entity {type field : String} {spec : FieldSpec} {endpoint : ResolverRef} :
      fieldOf? aggregate.entities type field = some spec → (type, field) ∉ systemFields →
      aggregate.ownField? type field = none → spec.returnText?.isSome = true → spec.resolver = some endpoint →
      aggregate.Reaches endpoint.uri

theorem FieldEntry.eq_of_dispatch {declared spec : FieldSpec}
    (h : (dispatched declared).resolver = some (.dispatch spec)) :
    declared = spec ∧ spec.returnText?.isSome = true := by
  obtain ⟨text, ht, hd⟩ := Option.map_eq_some_iff.mp h
  cases hd
  exact ⟨rfl, Option.isSome_iff_exists.mpr ⟨text, ht⟩⟩

namespace AggregateDefinition

variable {aggregate : AggregateDefinition} {type field : String} {spec : FieldSpec} {endpoint : ResolverRef}

theorem reaches_of_ownField {entry : FieldEntry} (hsystem : (type, field) ∉ systemFields)
    (h : aggregate.ownField? type field = some entry) (hd : entry.resolver = some (.dispatch spec))
    (hr : spec.resolver = some endpoint) : aggregate.Reaches endpoint.uri := by
  unfold ownField? at h
  split at h
  · next htype =>
    subst htype
    obtain ⟨query, hquery, rfl⟩ := Option.map_eq_some_iff.mp h
    obtain ⟨rfl, -⟩ := FieldEntry.eq_of_dispatch hd
    exact .query hquery hsystem hr
  split at h
  · next htype =>
    subst htype
    obtain ⟨method, hmethod, rfl⟩ := Option.map_eq_some_iff.mp h
    obtain ⟨rfl, htext⟩ := FieldEntry.eq_of_dispatch hd
    exact .method (Option.filter_eq_some_iff.mp hmethod).1 hsystem htext hr
  split at h
  · obtain ⟨action, -, rfl⟩ := Option.map_eq_some_iff.mp h
    cases hd
  · cases h

/-- Whatever the graph dispatches, its endpoint is that of a declaration that counts. -/
theorem reaches_of_dispatch {repository : Value}
    (hg : (ResolverGraph.ofSurface (.ofAggregate aggregate) repository).get? type field = some (.dispatch spec))
    (hr : spec.resolver = some endpoint) : aggregate.Reaches endpoint.uri := by
  rw [aggregate.get?_graph] at hg
  obtain ⟨entry, hentry, hd⟩ := Option.bind_eq_some_iff.mp hg
  rw [effective?, Option.or_eq_some_iff, Option.or_eq_some_iff] at hentry
  obtain hfixed | ⟨hfixed, hentry⟩ := hentry
  · obtain ⟨fixed, hf, rfl⟩ := Option.map_eq_some_iff.mp hfixed
    exact absurd (Option.some.inj hd) (fixedField?_ne_dispatch hf spec)
  · have hsystem : (type, field) ∉ systemFields := fun hmem => by
      have hsome := fixedField?_of_mem hmem repository
      rw [Option.map_eq_none_iff.mp hfixed] at hsome
      cases hsome
    obtain hown | ⟨hown, hentity⟩ := hentry
    · exact reaches_of_ownField hsystem hown hd hr
    · obtain ⟨declared, hdeclared, rfl⟩ := Option.map_eq_some_iff.mp hentity
      obtain ⟨rfl, htext⟩ := FieldEntry.eq_of_dispatch hd
      exact .entity hdeclared hsystem hown htext hr

end AggregateDefinition

/-! ### Main statement -/

/-- An endpoint is called at most once for a field, exactly if the field is dispatched to one and its receiver will do,
and its answer is the outcome; any outside brings a field to such a reply. Over any number of fields, each resolved on
whatever came before, the endpoints that are called are those of the declarations that count. -/
theorem endpoints_asked_once (aggregate : AggregateDefinition) (repository : Value) :
    let graph := ResolverGraph.ofSurface (.ofAggregate aggregate) repository
    (∀ call reply, FieldCall.Gives graph call reply → AsksOnce graph call reply) ∧
      (∀ (call : FieldCall) (outside : Outside Id), ∃ reply, FieldCall.Gives graph call reply ∧
        reply.outcome = (call.exchange graph).run outside ∧ ∀ event ∈ reply.events, event.AnsweredBy outside) ∧
      ∀ calls replies, List.Forall₂ (FieldCall.Gives graph) calls replies →
        ∀ reply ∈ replies, ∀ made ∈ reply.endpointCalls, aggregate.Reaches made.uri := by
  intro graph
  refine ⟨fun call reply h => asksOnce_of_gives h, fun call outside => ?_, fun calls replies h => ?_⟩
  · obtain ⟨events, hrun, hanswered⟩ := Exchange.exists_run outside (call.exchange graph)
    exact ⟨⟨events, _⟩, hrun, rfl, hanswered⟩
  · induction h with
    | nil => simp
    | cons hgives _ ih =>
      refine List.forall_mem_cons.mpr ⟨fun made hmade => ?_, ih⟩
      obtain ⟨spec, endpoint, obj, hg, hr, -, huri, -⟩ := (asksOnce_of_gives hgives).sent made hmade
      exact huri ▸ AggregateDefinition.reaches_of_dispatch hg hr

/-- Of orders with a query that is declared twice, the endpoint of the query is asked and is one that counts. -/
theorem orders_endpoints_asked :
    let list : FieldSpec := { resolver := some ⟨"http://svc/list"⟩ }
    let other : FieldSpec := { returnType := some (.one "String"), resolver := some ⟨"http://svc/other"⟩ }
    let aggregate : AggregateDefinition :=
      { queries := .ofList [("list", list)], entities := .ofList [(queryType, ⟨.ofList [("list", other)]⟩)] }
    let graph := ResolverGraph.ofSurface (.ofAggregate aggregate) (.string "orders")
    let call : FieldCall := ⟨queryType, "list", .root, .null, .null⟩
    let reply : Reply :=
      ⟨[.callResolver "http://svc/list" ⟨.object [], .null, .filter .null⟩ (.ok {})], .ok (.json .null)⟩
    FieldCall.Gives graph call reply ∧ AsksOnce graph call reply ∧ aggregate.Reaches "http://svc/list" := by
  intro list other aggregate graph call reply
  have hg : graph.get? queryType "list" = some (.dispatch (list.setReturnType (.many aggregateType))) := rfl
  have hgives : FieldCall.Gives graph call reply := Resolves.run (.answered (.ok {}) hg rfl rfl)
  obtain ⟨hasks, -, hreaches⟩ := endpoints_asked_once aggregate (.string "orders")
  exact ⟨hgives, hasks call reply hgives,
    hreaches [call] [reply] (.cons hgives .nil) reply (List.mem_singleton.mpr rfl) _ (List.mem_singleton.mpr rfl)⟩

/-- What is wrong with the receiver comes before a missing endpoint: a preview of a transaction, declared without an
endpoint, is not reported as not found where there is no transaction. -/
theorem preview_without_transaction :
    let preview : FieldSpec := { returnType := some (.one "String") }
    let aggregate : AggregateDefinition := { entities := .ofList [(transactionType, ⟨.ofList [("preview", preview)]⟩)] }
    let graph := ResolverGraph.ofSurface (.ofAggregate aggregate) (.string "orders")
    let exchange := graph.resolve transactionType "preview" (.json (.object [])) (.object []) (.object [])
    graph.get? transactionType "preview" = some (.dispatch preview) ∧ preview.resolver = none ∧
      exchange = .done (.error (.invalidReceiver transactionType "preview" "Transaction")) ∧
      exchange ≠ .done (.error (.notFound transactionType "preview")) := by
  intro preview aggregate graph exchange
  have hg : graph.get? transactionType "preview" = some (.dispatch preview) := rfl
  have hexchange : exchange = .done (.error (.invalidReceiver transactionType "preview" "Transaction")) := rfl
  refine ⟨hg, rfl, hexchange, ?_⟩
  rw [hexchange]
  exact nofun

end AggregateGateway
