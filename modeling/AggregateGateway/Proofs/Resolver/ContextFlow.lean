import AggregateGateway.Proofs.Json.Path
import AggregateGateway.Proofs.Resolver.TransactionRun
import AggregateGateway.Proofs.Transaction

/-!
What becomes of the context of a request. Resolving a field sees the filtered context alone: contexts that filter to the
same snapshot lead to the same exchange, in which that snapshot is what endpoints are sent and what an opened
transaction holds. A snapshot has the listed members of an object and nothing else, and reading it back leaves it as it
is.
-/

namespace AggregateGateway

open Json

/-! ### What a snapshot holds -/

/-- Entries that are made by looking up the keys of a list have what the look-up gives, for the keys of the list. -/
theorem Entries.lookup_filterMap {V : Type} (get : String → Option V) (key : String) (keys : List String) :
    (keys.filterMap fun key => (get key).map fun value => (key, value)).lookup key =
      if key ∈ keys then get key else none := by
  induction keys with
  | nil => rfl
  | cons first keys ih =>
    cases hget : get first with
    | none =>
      rw [List.filterMap_cons_none (by rw [hget]; rfl), ih]
      by_cases hkey : key = first
      · subst hkey
        simp [hget]
      · simp [hkey]
    | some value =>
      rw [List.filterMap_cons_some (b := (first, value)) (by rw [hget]; rfl), Entries.lookup_cons_ite, ih]
      by_cases hkey : key = first
      · subst hkey
        simp [hget]
      · simp [hkey]

/-- A snapshot of a context: of an object the members with listed keys, each with its value, and of any other value
nothing. -/
structure Projects (raw : Value) (snapshot : ContextSnapshot) : Prop where
  listed : ∀ members, raw = .object members →
    ∀ key, snapshot.get? key = if key ∈ contextKeys then members.lookup key else none
  noObject : ¬raw.IsObject → snapshot = .empty
  once : snapshot.keys.Nodup

namespace ContextSnapshot

theorem get?_filter (raw : Value) (key : String) :
    (filter raw).get? key = if key ∈ contextKeys then raw.get? key else none :=
  Entries.lookup_filterMap raw.get? key contextKeys

theorem projects_filter (raw : Value) : Projects raw (filter raw) where
  listed := by
    rintro members rfl key
    exact get?_filter _ key
  noObject := by
    intro hother
    have hget : ∀ key, raw.get? key = none := by
      intro key
      rw [Option.eq_none_iff_forall_ne_some]
      intro value hvalue
      obtain ⟨members, hraw, -⟩ := Value.get?_eq_some_iff.mp hvalue
      exact hother ⟨members, hraw⟩
    refine ContextSnapshot.ext ?_
    simp only [filter, hget, Option.map_none, List.filterMap_none, empty]
  once := (filter raw).listed.nodup (by decide)

end ContextSnapshot

/-! ### Where a context goes -/

/-- A dispatched field sees the filtered context. -/
theorem FieldSpec.dispatch_congr {raw raw' : Value} (h : ContextSnapshot.filter raw = .filter raw') (spec : FieldSpec)
    (type field : String) (obj args : Value) :
    spec.dispatch type field obj args raw = spec.dispatch type field obj args raw' := by
  rw [dispatch, dispatch, h]

theorem Transaction.start_congr {raw raw' : Value} (h : ContextSnapshot.filter raw = .filter raw') (id : Uuid)
    (repository : Value) : start id repository raw = start id repository raw' := by
  rw [start, start, h]

theorem ResolverGraph.resolve_congr_of_filter {raw raw' : Value} (h : ContextSnapshot.filter raw = .filter raw')
    (graph : ResolverGraph) (type field : String) (receiver : ResolvedValue) (args : Value) :
    graph.resolve type field receiver args raw = graph.resolve type field receiver args raw' := by
  -- Only a dispatched field and the one that opens a transaction look at the context.
  rw [resolve, resolve]
  cases graph.get? type field with
  | none => rfl
  | some resolver =>
    cases resolver with
    | dispatch spec => simp only [FieldSpec.dispatch_congr h]
    | transact repository => simp only [Transaction.start_congr h]
    | aggregateField _ | stage _ | transactionId | commit | resultField _ => rfl

/-- What a reply says of the context of its call. -/
structure PassesContext (graph : ResolverGraph) (call : FieldCall) (reply : Reply) : Prop where
  /-- An endpoint is sent the filtered context, and so it stands in the body. -/
  sent : ∀ made ∈ reply.endpointCalls, made.request.ctxt = .filter call.raw ∧
    made.request.encode.get? "ctxt" = some (ContextSnapshot.filter call.raw).encode
  /-- A transaction that is opened holds the filtered context. -/
  captured : ∀ repository, graph.get? call.type call.field = some (.transact repository) →
    ∃ id, reply.events = [.drawId id] ∧ reply.outcome = .ok (.transaction ⟨id, repository, .filter call.raw, []⟩)

theorem passesContext_of_gives {graph : ResolverGraph} {call : FieldCall} {reply : Reply}
    (h : FieldCall.Gives graph call reply) : PassesContext graph call reply where
  sent := by
    intro made hmade
    obtain ⟨_, _, obj, -, -, -, -, hrequest, -⟩ := (asksOnce_of_gives h).sent made hmade
    rw [hrequest]
    exact ⟨rfl, rfl⟩
  captured := by
    intro repository hg
    obtain ⟨events, outcome⟩ := reply
    cases Resolves.of_run h with
    | opened id hg' =>
      cases hg'.symm.trans hg
      exact ⟨id, rfl, rfl⟩
    | unknown hg' => cases hg'.symm.trans hg
    | noTransaction hg' hneeds _ =>
      cases hg'.symm.trans hg
      exact hneeds.elim
    | noEndpoint hg' _ _ | answered _ hg' _ _ => cases hg'.symm.trans hg
    | readOff hg' => cases hg'.symm.trans hg
    | staged hg' _ | identified hg' _ | committed hg' _ | noResult hg' _ | reported hg' _ => cases hg'.symm.trans hg

/-! ### Main statement -/

/-- Contexts that filter to the same snapshot lead to the same exchange, whatever the graph and the field. The snapshot
is what endpoints are sent and what an opened transaction holds, and `transact` opens one on every surface; it has the
listed members of the context and nothing else, and decodes from its own JSON form. -/
theorem context_passes_filtered (graph : ResolverGraph) :
    (∀ (call : FieldCall) (other : Value), ContextSnapshot.filter call.raw = .filter other →
        call.exchange graph = { call with raw := other }.exchange graph) ∧
      (∀ call reply, FieldCall.Gives graph call reply → PassesContext graph call reply) ∧
      (∀ surface repository,
        (ResolverGraph.ofSurface surface repository).get? queryType "transact" = some (.transact repository)) ∧
      (∀ raw, Projects raw (.filter raw)) ∧
      ∀ snapshot, ContextSnapshot.decode snapshot.encode = .ok snapshot := by
  refine ⟨fun call other h => ?_, fun call reply h => passesContext_of_gives h, fun surface repository => ?_,
    ContextSnapshot.projects_filter, ContextSnapshot.decode_encode⟩
  · exact graph.resolve_congr_of_filter h call.type call.field call.receiver call.args
  · exact ResolverGraph.get?_of_fixed rfl

/-- A context with credentials leads to the exchange of one without them, and the endpoint is sent neither. -/
theorem credentials_stay_behind :
    let list : FieldSpec := { resolver := some ⟨"http://svc/list"⟩ }
    let aggregate : AggregateDefinition := { queries := .ofList [("list", list)] }
    let graph := ResolverGraph.ofSurface (.ofAggregate aggregate) (.string "orders")
    let plain : Value := .object [("hostname", .string "shop")]
    let laden : Value :=
      .object [("headers", .object [("authorization", .string "Bearer x")]), ("hostname", .string "shop")]
    let call : FieldCall := ⟨queryType, "list", .root, .null, laden⟩
    let snapshot : ContextSnapshot := .filter plain
    let reply : Reply :=
      ⟨[.callResolver "http://svc/list" ⟨.object [], .null, snapshot⟩ (.ok {})], .ok (.json .null)⟩
    call.exchange graph = { call with raw := plain }.exchange graph ∧ FieldCall.Gives graph call reply ∧
      PassesContext graph call reply ∧ snapshot.encode = plain := by
  intro list aggregate graph plain laden call snapshot reply
  obtain ⟨halike, hpasses, -⟩ := context_passes_filtered graph
  have hfilter : ContextSnapshot.filter laden = .filter plain := ContextSnapshot.ext rfl
  have hg : graph.get? queryType "list" = some (.dispatch (list.setReturnType (.many aggregateType))) := rfl
  have hgives : FieldCall.Gives graph call reply := by
    have hrun : FieldCall.Gives graph { call with raw := plain } reply := Resolves.run (.answered (.ok {}) hg rfl rfl)
    rw [FieldCall.Gives, halike call plain hfilter]
    exact hrun
  exact ⟨halike call plain hfilter, hgives, hpasses call reply hgives, rfl⟩

end AggregateGateway
