import AggregateGateway.Proofs.Resolver.Precedence
import AggregateGateway.Proofs.Resolver.Receiver

/-!
What a client can bring in with a transaction. Wherever a transaction is read, it is moved to the repository of the
graph and its context is projected; two objects that differ in nothing else are resolved alike, and no transaction
that leaves the gateway names another repository or holds a key that is not listed.
-/

namespace AggregateGateway

open Json

/-! ### Confined transactions -/

/-- A transaction on the repository, in whose context there are only listed keys. -/
structure Transaction.ConfinedTo (tx : Transaction) (repository : Value) : Prop where
  repository_eq : tx.repository = repository
  listed : ∀ key ∈ tx.ctxt.keys, key ∈ contextKeys

/-- The same of the JSON form of a transaction. -/
structure Json.Value.ConfinedTo (obj repository : Value) : Prop where
  repository_eq : obj.get? "repository" = some repository
  listed : ∃ members, obj.get? "ctxt" = some (.object members) ∧ ∀ key ∈ Entries.keys members, key ∈ contextKeys

/-- The members of two objects with the same identity and tasks, and the same listed part of their contexts. Both name
a repository, each its own. -/
structure SameTransaction (first second : OrderedMap Value) : Prop where
  id : first.get? "id" = second.get? "id"
  tasks : first.get? "tasks" = second.get? "tasks"
  repository : (first.get? "repository").isSome ∧ (second.get? "repository").isSome
  ctxt : ∃ own other, first.get? "ctxt" = some own ∧ second.get? "ctxt" = some other ∧
    ContextSnapshot.filter own = .filter other

namespace Transaction

variable {repository : Value} {tx : Transaction}

theorem confinedTo_iff : tx.ConfinedTo repository ↔ tx.repository = repository :=
  ⟨fun h => h.repository_eq, fun h => ⟨h, fun _ => ContextSnapshot.mem_contextKeys⟩⟩

theorem ConfinedTo.stage (h : tx.ConfinedTo repository) (action : String) (args : Value) :
    (tx.stage action args).ConfinedTo repository :=
  confinedTo_iff.mpr h.repository_eq

theorem ConfinedTo.encode (h : tx.ConfinedTo repository) : tx.encode.ConfinedTo repository where
  repository_eq := congrArg some h.repository_eq
  listed := ⟨tx.ctxt.entries, rfl, h.listed⟩

end Transaction

namespace ResolvedValue

/-- Whatever the receiver is, it is a transaction only on the repository that was asked for. -/
theorem confinedTo_of_transactionOn? {repository : Value} {receiver : ResolvedValue} {tx : Transaction}
    (h : receiver.transactionOn? repository = some tx) : tx.ConfinedTo repository := by
  rw [Transaction.confinedTo_iff]
  cases receiver with
  | json value =>
    obtain ⟨own, -, rfl⟩ := Option.map_eq_some_iff.mp h
    rfl
  | transaction own =>
    cases h
    rfl
  | result commit => cases h

/-- Of an object, the identity, the tasks and the listed part of the context make the transaction. -/
theorem transactionOn?_object_congr {first second : OrderedMap Value} (h : SameTransaction first second)
    (repository : Value) :
    (json (.object first.entries)).transactionOn? repository =
      (json (.object second.entries)).transactionOn? repository := by
  obtain ⟨own, hown⟩ := Option.isSome_iff_exists.mp h.repository.1
  obtain ⟨other, hother⟩ := Option.isSome_iff_exists.mp h.repository.2
  obtain ⟨ctxt, ctxt', hctxt, hctxt', hfilter⟩ := h.ctxt
  rw [transactionOn?, transactionOn?, decoded?_eq_toOption, decoded?_eq_toOption, Transaction.toOption_decode_object,
    Transaction.toOption_decode_object, Transaction.read?, Transaction.read?, h.id, h.tasks, hown, hother, hctxt,
    hctxt']
  -- The two readings differ in the repository alone, and moving them to one repository makes them equal.
  cases (second.get? "id").bind fun value => (Uuid.decode value).toOption with
  | none => rfl
  | some id =>
    cases (second.get? "tasks").bind fun value => (value.decodeList StagedTask.decode).toOption with
    | none => rfl
    | some tasks => exact congrArg (fun snapshot => some (Transaction.mk id repository snapshot tasks)) hfilter

end ResolvedValue

/-! ### The fields of a transaction -/

namespace ResolverGraph

variable {surface : Surface} {repository : Value} {type field : String} {resolver : FieldResolver}

/-- No field opens a transaction on another repository than that of the graph. -/
theorem repository_of_transact {other : Value}
    (h : (ofSurface surface repository).get? type field = some (.transact other)) : other = repository := by
  obtain ⟨fixed, hfixed, hother⟩ | ⟨-, h⟩ | ⟨_, -, h⟩ := ofSurface_cases h
  · have hall : ∀ row ∈ fixedFields repository, ∀ entry ∈ row.2, ∀ other,
        entry.2.resolver = .transact other → other = repository := by
      simp only [fixedFields, List.forall_mem_cons]
      simp +contextual
    obtain ⟨row, hrow, hentry⟩ := mem_fixedFields hfixed
    exact hall _ hrow _ hentry other hother
  · cases h
  · cases h

/-- All fields of a transaction need one. -/
theorem needsTransaction_of_get? (h : (ofSurface surface repository).get? transactionType field = some resolver) :
    resolver.NeedsTransaction transactionType := by
  obtain ⟨fixed, hfixed, rfl⟩ | ⟨-, rfl⟩ | ⟨_, -, rfl⟩ := ofSurface_cases h
  · have hall : ∀ row ∈ fixedFields repository, row.1 = transactionType →
        ∀ entry ∈ row.2, entry.2.resolver.NeedsTransaction transactionType := by
      simp only [fixedFields, List.forall_mem_cons]
      simp [FieldResolver.NeedsTransaction, queryType, aggregateType, transactionType, resultType]
    obtain ⟨row, hrow, hentry⟩ := mem_fixedFields hfixed
    exact hall _ hrow rfl _ hentry
  · trivial
  · rfl

/-- Two receivers that are the same transaction for the graph are resolved alike. -/
theorem resolve_transaction_congr {first second : ResolvedValue}
    (htx : first.transactionOn? repository = second.transactionOn? repository) (args raw : Value) :
    (ofSurface surface repository).resolve transactionType field first args raw =
      (ofSurface surface repository).resolve transactionType field second args raw := by
  cases hg : (ofSurface surface repository).get? transactionType field with
  | none => rw [resolve, resolve, hg]
  | some resolver => exact resolve_congr_of_needsTransaction hg (needsTransaction_of_get? hg) htx args raw

/-! ### What leaves the gateway -/

variable {receiver : ResolvedValue} {args raw : Value} {events : List Event} {outcome : Resolution}

/-- A transaction comes out where one is opened or staged on. -/
theorem confinedTo_of_outcome {tx : Transaction}
    (h : Resolves (ofSurface surface repository) type field receiver args raw events outcome)
    (hout : outcome = .ok (.transaction tx)) : tx.ConfinedTo repository := by
  cases h with
  | answered answer =>
    -- An answer is JSON, even if it looks like a transaction.
    cases hr : ResolverResponse.resolution type field answer <;> rw [hr] at hout <;> cases hout
  | opened id hg =>
    cases hout
    exact Transaction.confinedTo_iff.mpr (repository_of_transact hg)
  | staged hg htx =>
    cases hout
    exact (ResolvedValue.confinedTo_of_transactionOn? htx).stage _ args
  | unknown _ | noTransaction _ _ _ | noEndpoint _ _ _ | readOff _ | identified _ _ | committed _ _ | noResult _ _
  | reported _ _ => cases hout

/-- A dispatched field of a transaction sends the transaction on the repository of the graph. -/
theorem confinedTo_of_callResolver {uri : String} {request : ResolverRequest}
    {answer : Except TransportError ResolverResponse}
    (h : Resolves (ofSurface surface repository) transactionType field receiver args raw events outcome)
    (hcall : .callResolver uri request answer ∈ events) : request.obj.ConfinedTo repository := by
  cases h with
  | answered answer' hg hobj hr =>
    cases List.mem_singleton.mp hcall
    obtain ⟨tx, htx, rfl⟩ := Option.map_eq_some_iff.mp hobj
    exact (ResolvedValue.confinedTo_of_transactionOn? htx).encode
  | opened id hg => cases List.mem_singleton.mp hcall
  | unknown _ | noTransaction _ _ _ | noEndpoint _ _ _ | readOff _ | staged _ _ | identified _ _ | committed _ _
  | noResult _ _ | reported _ _ => cases hcall

end ResolverGraph

/-- A client cannot choose the repository of a transaction or bring in context with it. Two objects that differ only in
their repositories and in what is not listed of their contexts are resolved alike; and whatever the receiver is, every
transaction that comes out, and every one that an endpoint is sent, is on the repository of the graph and has no other
context than the listed keys. -/
theorem transaction_receiver_confined (surface : Surface) (repository : Value) (field : String) (args raw : Value) :
    let graph := ResolverGraph.ofSurface surface repository
    (∀ first second : OrderedMap Value, SameTransaction first second →
        graph.resolve transactionType field (.json (.object first.entries)) args raw =
          graph.resolve transactionType field (.json (.object second.entries)) args raw) ∧
      ∀ receiver events outcome, Exchange.Run (graph.resolve transactionType field receiver args raw) events outcome →
        (∀ tx, outcome = .ok (.transaction tx) → tx.ConfinedTo repository) ∧
          ∀ uri request answer, .callResolver uri request answer ∈ events → request.obj.ConfinedTo repository := by
  refine ⟨fun first second h => ?_, fun receiver events outcome hrun => ?_⟩
  · exact ResolverGraph.resolve_transaction_congr (ResolvedValue.transactionOn?_object_congr h repository) args raw
  · have h := Resolves.of_run hrun
    exact ⟨fun _ => ResolverGraph.confinedTo_of_outcome h, fun _ _ _ => ResolverGraph.confinedTo_of_callResolver h⟩

/-- On a graph for orders, a forged repository and a forged context change nothing, neither when an action is staged nor
when a preview is asked for. -/
theorem orders_receiver_confined :
    let preview : FieldSpec := { returnType := some (.one "String"), resolver := some ⟨"http://svc/preview"⟩ }
    let surface : Surface :=
      { types := .ofList [(transactionType, ⟨.ofList [("preview", preview)]⟩)]
        inputs := .empty
        actions := .ofList [("place", .ofType transactionType)] }
    let graph := ResolverGraph.ofSurface surface (.string "orders")
    let members (repository ctxt : Value) : OrderedMap Value :=
      .ofList [("id", Uuid.zero.encode), ("repository", repository), ("ctxt", ctxt), ("tasks", .array [])]
    let forged := members (.string "elsewhere") (.object [("authorization", .string "Bearer x")])
    let own := members (.string "orders") (.object [])
    let tx := Transaction.start .zero (.string "elsewhere") .null
    let rebound := tx.onRepository (.string "orders")
    graph.resolve transactionType "place" (.json (.object forged.entries)) .null .null =
        graph.resolve transactionType "place" (.json (.object own.entries)) .null .null ∧
      (rebound.stage "place" .null).ConfinedTo (.string "orders") ∧ rebound.encode.ConfinedTo (.string "orders") := by
  intro preview surface graph members forged own tx rebound
  have hforged : SameTransaction forged own := ⟨rfl, rfl, ⟨rfl, rfl⟩, _, _, rfl, rfl, rfl⟩
  have htx : (ResolvedValue.json tx.encode).transactionOn? graph.repository = some rebound :=
    (ResolvedValue.transaction tx).transactionOn?_toJson _
  have hstage : Exchange.Run (graph.resolve transactionType "place" (.json tx.encode) .null .null) []
      (.ok (.transaction (rebound.stage "place" .null))) :=
    Resolves.run (.staged rfl htx)
  have hobj : graph.sent? transactionType (.json tx.encode) = some rebound.encode := by
    rw [ResolverGraph.sent?, if_pos rfl, htx, Option.map_some]
  have hdispatch : graph.get? transactionType "preview" = some (.dispatch preview) := rfl
  have hpreview : Exchange.Run (graph.resolve transactionType "preview" (.json tx.encode) .null .null)
      [.callResolver "http://svc/preview" ⟨rebound.encode, .null, .filter .null⟩ (.ok {})] (.ok (.json .null)) :=
    Resolves.run (.answered (.ok {}) hdispatch hobj rfl)
  obtain ⟨hsame, hplace⟩ := transaction_receiver_confined surface (.string "orders") "place" .null .null
  obtain ⟨-, hsent⟩ := transaction_receiver_confined surface (.string "orders") "preview" .null .null
  exact ⟨hsame _ _ hforged, (hplace _ _ _ hstage).1 _ rfl,
    (hsent _ _ _ hpreview).2 _ _ _ (List.mem_singleton.mpr rfl)⟩

end AggregateGateway
