import AggregateGateway.Proofs.Gateway.Exchange
import AggregateGateway.Resolver.Resolve

/-!
What resolving a field comes to. The relation `Resolves` has one rule for every way in which a run ends: a dispatched
field without an endpoint fails at once, one with an endpoint asks it a single time, a field that needs a transaction
goes on only with a receiver that is one, and all others answer without a question. Its instances are the runs.
-/

namespace AggregateGateway

open Json

/-- The resolvers that go on only with a receiver that is a transaction. -/
def FieldResolver.NeedsTransaction (type : String) : FieldResolver → Prop
  | dispatch _ => type = transactionType
  | stage _ | transactionId | commit => True
  | transact _ | aggregateField _ | resultField _ => False

/-- What an endpoint is sent for a receiver: its JSON form, or that of a transaction on the repository of the graph. -/
def ResolverGraph.sent? (graph : ResolverGraph) (type : String) (receiver : ResolvedValue) : Option Value :=
  if type = transactionType then (receiver.transactionOn? graph.repository).map Transaction.encode
  else some receiver.toJson

/-- The questions that resolving a field asks, with their answers, and the outcome that they lead to. -/
inductive Resolves (graph : ResolverGraph) (type field : String) (receiver : ResolvedValue) (args raw : Value) :
    List Event → Resolution → Prop
  | unknown : graph.get? type field = none →
      Resolves graph type field receiver args raw [] (.error (.unknownField type field))
  | noTransaction {resolver : FieldResolver} : graph.get? type field = some resolver →
      resolver.NeedsTransaction type → receiver.transactionOn? graph.repository = none →
      Resolves graph type field receiver args raw [] (.error (.invalidReceiver type field "Transaction"))
  | noEndpoint {spec : FieldSpec} {obj : Value} : graph.get? type field = some (.dispatch spec) →
      graph.sent? type receiver = some obj → spec.resolver = none →
      Resolves graph type field receiver args raw [] (.error (.notFound type field))
  | answered {spec : FieldSpec} {obj : Value} {endpoint : ResolverRef}
      (answer : Except TransportError ResolverResponse) : graph.get? type field = some (.dispatch spec) →
      graph.sent? type receiver = some obj → spec.resolver = some endpoint →
      Resolves graph type field receiver args raw [.callResolver endpoint.uri ⟨obj, args, .filter raw⟩ answer]
        ((ResolverResponse.resolution type field answer).map .json)
  | opened {repository : Value} (id : Uuid) : graph.get? type field = some (.transact repository) →
      Resolves graph type field receiver args raw [.drawId id] (.ok (.transaction (.start id repository raw)))
  | readOff {which : AggregateField} : graph.get? type field = some (.aggregateField which) →
      Resolves graph type field receiver args raw [] (.ok (.json (which.read receiver)))
  | staged {action : String} {tx : Transaction} : graph.get? type field = some (.stage action) →
      receiver.transactionOn? graph.repository = some tx →
      Resolves graph type field receiver args raw [] (.ok (.transaction (tx.stage action args)))
  | identified {tx : Transaction} : graph.get? type field = some .transactionId →
      receiver.transactionOn? graph.repository = some tx →
      Resolves graph type field receiver args raw [] (.ok (.json tx.id.encode))
  | committed {tx : Transaction} : graph.get? type field = some .commit →
      receiver.transactionOn? graph.repository = some tx →
      Resolves graph type field receiver args raw [] (.ok (.result tx.commit))
  | noResult {which : ResultField} : graph.get? type field = some (.resultField which) →
      receiver.commitResult? = none →
      Resolves graph type field receiver args raw [] (.error (.invalidReceiver type field "Result"))
  | reported {which : ResultField} {result : CommitResult} : graph.get? type field = some (.resultField which) →
      receiver.commitResult? = some result →
      Resolves graph type field receiver args raw [] (.ok (.json (which.read result)))

section
variable {graph : ResolverGraph} {type field : String} {receiver : ResolvedValue} {args raw : Value}
  {events : List Event} {outcome : Resolution}

/-! ### The parts of a run -/

/-- A dispatched field asks its own endpoint once, and nothing if it has none. -/
theorem run_dispatch_iff {spec : FieldSpec} {obj : Value} :
    Exchange.Run ((spec.dispatch type field obj args raw).map (Except.map .json)) events outcome ↔
      (spec.resolver = none ∧ events = [] ∧ outcome = .error (.notFound type field)) ∨
        ∃ endpoint answer, spec.resolver = some endpoint ∧
          events = [.callResolver endpoint.uri ⟨obj, args, .filter raw⟩ answer] ∧
          outcome = (ResolverResponse.resolution type field answer).map .json := by
  rw [FieldSpec.dispatch]
  cases spec.resolver with
  | none =>
    simp only [reduceCtorEq, false_and, exists_false, or_false, true_and]
    exact Exchange.run_done_iff
  | some endpoint =>
    constructor
    · intro h
      obtain ⟨_, hdispatch, rfl⟩ := Exchange.run_map_iff.mp h
      obtain ⟨answer, hcall, rfl⟩ := Exchange.run_map_iff.mp hdispatch
      exact .inr ⟨endpoint, answer, rfl, Exchange.run_call_iff.mp hcall, rfl⟩
    · rintro (⟨h, -⟩ | ⟨_, answer, h, rfl, rfl⟩)
      · cases h
      · cases h
        refine Exchange.run_map_iff.mpr ⟨_, Exchange.run_map_iff.mpr ⟨answer, ?_, rfl⟩, rfl⟩
        exact Exchange.run_call_iff.mpr rfl

theorem run_onTransaction_iff {next : Transaction → Exchange Resolution} :
    Exchange.Run (graph.onTransaction type field receiver next) events outcome ↔
      (receiver.transactionOn? graph.repository = none ∧ events = [] ∧
        outcome = .error (.invalidReceiver type field "Transaction")) ∨
        ∃ tx, receiver.transactionOn? graph.repository = some tx ∧ Exchange.Run (next tx) events outcome := by
  rw [ResolverGraph.onTransaction]
  cases receiver.transactionOn? graph.repository with
  | none => simpa using Exchange.run_done_iff
  | some tx => simp

/-- What an endpoint answers is never an error of the graph. -/
theorem resolution_error {answer : Except TransportError ResolverResponse} {error : ResolverError}
    (h : ResolverResponse.resolution type field answer = .error error) :
    (∃ source, error = .transport type field source) ∨ ∃ value, error = .application value := by
  cases answer with
  | error source =>
    cases h
    exact .inl ⟨source, rfl⟩
  | ok response =>
    rw [ResolverResponse.resolution] at h
    cases hr : response.result with
    | ok data =>
      rw [hr] at h
      cases h
    | error value =>
      rw [hr] at h
      cases h
      exact .inr ⟨value, rfl⟩

/-- A dispatched field asks its endpoint about what is sent for the receiver. -/
theorem Resolves.of_run_dispatch {spec : FieldSpec} {obj : Value} (hg : graph.get? type field = some (.dispatch spec))
    (hobj : graph.sent? type receiver = some obj)
    (h : Exchange.Run ((spec.dispatch type field obj args raw).map (Except.map .json)) events outcome) :
    Resolves graph type field receiver args raw events outcome := by
  obtain ⟨hr, rfl, rfl⟩ | ⟨endpoint, answer, hr, rfl, rfl⟩ := run_dispatch_iff.mp h
  · exact .noEndpoint hg hobj hr
  · exact .answered answer hg hobj hr

/-! ### Runs and rules -/

theorem Resolves.of_run (h : Exchange.Run (graph.resolve type field receiver args raw) events outcome) :
    Resolves graph type field receiver args raw events outcome := by
  rw [ResolverGraph.resolve] at h
  cases hg : graph.get? type field with
  | none =>
    rw [hg] at h
    obtain ⟨rfl, rfl⟩ := Exchange.run_done_iff.mp h
    exact .unknown hg
  | some resolver =>
    rw [hg] at h
    cases resolver with
    | dispatch spec =>
      by_cases htype : type = transactionType
      · simp only [if_pos htype] at h
        obtain ⟨ht, rfl, rfl⟩ | ⟨tx, ht, h⟩ := run_onTransaction_iff.mp h
        · exact .noTransaction hg htype ht
        · exact .of_run_dispatch hg (by rw [ResolverGraph.sent?, if_pos htype, ht]; rfl) h
      · simp only [if_neg htype] at h
        exact .of_run_dispatch hg (if_neg htype) h
    | transact repository =>
      obtain ⟨id, hdrawn, rfl⟩ := Exchange.run_map_iff.mp h
      obtain rfl := Exchange.run_freshId_iff.mp hdrawn
      exact .opened id hg
    | aggregateField which =>
      obtain ⟨rfl, rfl⟩ := Exchange.run_done_iff.mp h
      exact .readOff hg
    | stage action =>
      obtain ⟨ht, rfl, rfl⟩ | ⟨tx, ht, h⟩ := run_onTransaction_iff.mp h
      · exact .noTransaction hg trivial ht
      · obtain ⟨rfl, rfl⟩ := Exchange.run_done_iff.mp h
        exact .staged hg ht
    | transactionId =>
      obtain ⟨ht, rfl, rfl⟩ | ⟨tx, ht, h⟩ := run_onTransaction_iff.mp h
      · exact .noTransaction hg trivial ht
      · obtain ⟨rfl, rfl⟩ := Exchange.run_done_iff.mp h
        exact .identified hg ht
    | commit =>
      obtain ⟨ht, rfl, rfl⟩ | ⟨tx, ht, h⟩ := run_onTransaction_iff.mp h
      · exact .noTransaction hg trivial ht
      · obtain ⟨rfl, rfl⟩ := Exchange.run_done_iff.mp h
        exact .committed hg ht
    | resultField which =>
      cases hr : receiver.commitResult? with
      | none =>
        simp only [hr] at h
        obtain ⟨rfl, rfl⟩ := Exchange.run_done_iff.mp h
        exact .noResult hg hr
      | some result =>
        simp only [hr] at h
        obtain ⟨rfl, rfl⟩ := Exchange.run_done_iff.mp h
        exact .reported hg hr

theorem run_resolve_of_dispatch {spec : FieldSpec} {obj : Value} (hg : graph.get? type field = some (.dispatch spec))
    (hobj : graph.sent? type receiver = some obj)
    (h : Exchange.Run ((spec.dispatch type field obj args raw).map (Except.map .json)) events outcome) :
    Exchange.Run (graph.resolve type field receiver args raw) events outcome := by
  unfold ResolverGraph.sent? at hobj
  simp only [ResolverGraph.resolve, hg]
  split at hobj
  · next htype =>
    obtain ⟨tx, ht, rfl⟩ := Option.map_eq_some_iff.mp hobj
    rw [if_pos htype]
    exact run_onTransaction_iff.mpr (.inr ⟨tx, ht, h⟩)
  · next htype =>
    cases hobj
    rw [if_neg htype]
    exact h

theorem Resolves.run (h : Resolves graph type field receiver args raw events outcome) :
    Exchange.Run (graph.resolve type field receiver args raw) events outcome := by
  cases h with
  | unknown hg =>
    rw [ResolverGraph.resolve, hg]
    exact .done
  | @noTransaction resolver hg hneeds ht =>
    rw [ResolverGraph.resolve, hg]
    cases resolver with
    | dispatch spec =>
      simp only [if_pos (show type = transactionType from hneeds)]
      exact run_onTransaction_iff.mpr (.inl ⟨ht, rfl, rfl⟩)
    | stage action => exact run_onTransaction_iff.mpr (.inl ⟨ht, rfl, rfl⟩)
    | transactionId => exact run_onTransaction_iff.mpr (.inl ⟨ht, rfl, rfl⟩)
    | commit => exact run_onTransaction_iff.mpr (.inl ⟨ht, rfl, rfl⟩)
    | transact _ => exact hneeds.elim
    | aggregateField _ => exact hneeds.elim
    | resultField _ => exact hneeds.elim
  | noEndpoint hg hobj hr => exact run_resolve_of_dispatch hg hobj (run_dispatch_iff.mpr (.inl ⟨hr, rfl, rfl⟩))
  | answered answer hg hobj hr =>
    exact run_resolve_of_dispatch hg hobj (run_dispatch_iff.mpr (.inr ⟨_, answer, hr, rfl, rfl⟩))
  | opened id hg =>
    rw [ResolverGraph.resolve, hg]
    exact Exchange.run_map_iff.mpr ⟨id, Exchange.run_freshId_iff.mpr rfl, rfl⟩
  | readOff hg =>
    rw [ResolverGraph.resolve, hg]
    exact .done
  | staged hg ht | identified hg ht | committed hg ht =>
    rw [ResolverGraph.resolve, hg]
    exact run_onTransaction_iff.mpr (.inr ⟨_, ht, .done⟩)
  | noResult hg hr | reported hg hr =>
    simp only [ResolverGraph.resolve, hg, hr]
    exact .done

theorem run_resolve_iff : Exchange.Run (graph.resolve type field receiver args raw) events outcome ↔
    Resolves graph type field receiver args raw events outcome :=
  ⟨.of_run, Resolves.run⟩

end

end AggregateGateway
