import AggregateGateway.Gateway.Exchange
import AggregateGateway.Resolver.Graph
import AggregateGateway.Resolver.Receiver

/-!
Resolving one field on a receiver. A dispatched field makes one call to its endpoint with the filtered context, and no
second attempt; all other fields are resolved without a call. Where a transaction is expected, the receiver is first
moved to the repository of the graph.
-/

namespace AggregateGateway

open Json

/-- What resolving a field gives. -/
abbrev Resolution := Except ResolverError ResolvedValue

/-- The value of a field that an endpoint has answered. -/
def ResolverResponse.resolution (type field : String) :
    Except TransportError ResolverResponse → Except ResolverError Value
  | .error source => .error (.transport type field source)
  | .ok response =>
    match response.result with
    | .ok data => .ok data
    | .error error => .error (.application error)

/-- Resolves a field through the endpoint that it declares. -/
def FieldSpec.dispatch (spec : FieldSpec) (type field : String) (obj args raw : Value) :
    Exchange (Except ResolverError Value) :=
  match spec.resolver with
  | none => .done (.error (.notFound type field))
  | some resolver =>
    (Exchange.call resolver.uri ⟨obj, args, .filter raw⟩).map (ResolverResponse.resolution type field)

/-- The attribute of a receiver, or zero where it is missing or `null`. -/
def AggregateField.read (which : AggregateField) (receiver : ResolvedValue) : Value :=
  match receiver.toJson.get? which.key with
  | some value => if value.isNull then .ofInt 0 else value
  | none => .ofInt 0

/-- The attribute of the result of a commit. -/
def ResultField.read (which : ResultField) (result : CommitResult) : Value :=
  match which with
  | .id => result.id.encode
  | .success => .bool result.success

namespace ResolverGraph

/-- Goes on with the receiver as a transaction on the repository of the graph. -/
def onTransaction (graph : ResolverGraph) (type field : String) (receiver : ResolvedValue)
    (next : Transaction → Exchange Resolution) : Exchange Resolution :=
  match receiver.transactionOn? graph.repository with
  | some tx => next tx
  | none => .done (.error (.invalidReceiver type field "Transaction"))

/-- Resolves a field on a receiver; `raw` is the context of the request before it is filtered. -/
def resolve (graph : ResolverGraph) (type field : String) (receiver : ResolvedValue) (args raw : Value) :
    Exchange Resolution :=
  match graph.get? type field with
  | none => .done (.error (.unknownField type field))
  | some (.dispatch spec) =>
    let dispatchOn (obj : Value) := (spec.dispatch type field obj args raw).map (Except.map .json)
    if type = transactionType then graph.onTransaction type field receiver fun tx => dispatchOn tx.encode
    else dispatchOn receiver.toJson
  | some (.transact repository) => Exchange.freshId.map fun id => .ok (.transaction (.start id repository raw))
  | some (.aggregateField which) => .done (.ok (.json (which.read receiver)))
  | some (.stage action) =>
    graph.onTransaction type field receiver fun tx => .done (.ok (.transaction (tx.stage action args)))
  | some .transactionId => graph.onTransaction type field receiver fun tx => .done (.ok (.json tx.id.encode))
  | some .commit => graph.onTransaction type field receiver fun tx => .done (.ok (.result tx.commit))
  | some (.resultField which) =>
    match receiver.commitResult? with
    | some result => .done (.ok (.json (which.read result)))
    | none => .done (.error (.invalidReceiver type field "Result"))

end ResolverGraph

end AggregateGateway
