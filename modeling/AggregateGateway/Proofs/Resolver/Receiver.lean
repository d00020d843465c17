import AggregateGateway.Proofs.Resolver.Resolve
import AggregateGateway.Proofs.Transaction

/-!
A receiver and its JSON form. Resolving looks at a receiver in three ways: as a transaction on the repository of the
graph, as the result of a commit, and as JSON. The JSON form looks the same in all three, so that a client that holds
nothing else can go on where it was.
-/

namespace AggregateGateway

open Json

/-! ### The views of a receiver -/

namespace ResolvedValue

theorem decoded?_eq_toOption {α : Type} (decoded : Decoded α) : decoded? decoded = decoded.toOption := by
  cases decoded <;> rfl

theorem transactionOn?_toJson (repository : Value) (receiver : ResolvedValue) :
    (json receiver.toJson).transactionOn? repository = receiver.transactionOn? repository := by
  cases receiver with
  | json value => rfl
  | transaction tx =>
    rw [toJson, transactionOn?, Transaction.decode_encode]
    rfl
  | result commit =>
    rw [toJson, transactionOn?, decoded?_eq_toOption, Transaction.toOption_decode_result]
    rfl

theorem commitResult?_toJson (receiver : ResolvedValue) :
    (json receiver.toJson).commitResult? = receiver.commitResult? := by
  cases receiver with
  | json value => rfl
  | transaction tx =>
    rw [toJson, commitResult?, decoded?_eq_toOption, CommitResult.toOption_decode_transaction]
    rfl
  | result commit =>
    rw [toJson, commitResult?, CommitResult.decode_encode]
    rfl

end ResolvedValue

/-! ### Resolving by the views -/

namespace ResolverGraph

variable {graph : ResolverGraph} {type field : String} {first second : ResolvedValue}

theorem onTransaction_congr (htx : first.transactionOn? graph.repository = second.transactionOn? graph.repository)
    (next : Transaction → Exchange Resolution) :
    graph.onTransaction type field first next = graph.onTransaction type field second next := by
  rw [onTransaction, onTransaction, htx]

/-- A field that needs a transaction looks at nothing else of its receiver. -/
theorem resolve_congr_of_needsTransaction {resolver : FieldResolver} (hg : graph.get? type field = some resolver)
    (hneeds : resolver.NeedsTransaction type)
    (htx : first.transactionOn? graph.repository = second.transactionOn? graph.repository) (args raw : Value) :
    graph.resolve type field first args raw = graph.resolve type field second args raw := by
  rw [resolve, resolve, hg]
  cases resolver with
  | dispatch spec =>
    have htype : type = transactionType := hneeds
    simp only [if_pos htype]
    exact onTransaction_congr htx _
  | stage _ | transactionId | commit => exact onTransaction_congr htx _
  | transact _ | aggregateField _ | resultField _ => exact hneeds.elim

theorem resolve_congr (htx : first.transactionOn? graph.repository = second.transactionOn? graph.repository)
    (hresult : first.commitResult? = second.commitResult?) (hjson : first.toJson = second.toJson) (args raw : Value) :
    graph.resolve type field first args raw = graph.resolve type field second args raw := by
  cases hg : graph.get? type field with
  | none => rw [resolve, resolve, hg]
  | some resolver =>
    by_cases hneeds : resolver.NeedsTransaction type
    · exact resolve_congr_of_needsTransaction hg hneeds htx args raw
    · rw [resolve, resolve, hg]
      cases resolver with
      | dispatch spec =>
        have htype : type ≠ transactionType := hneeds
        simp only [if_neg htype, hjson]
      | transact _ => rfl
      | aggregateField which => simp only [AggregateField.read, hjson]
      | resultField which => simp only [hresult]
      | stage _ | transactionId | commit => exact absurd trivial hneeds

/-- The gateway keeps nothing for its clients: on the JSON form of a receiver a field asks the outside the same
questions, goes on alike with every answer, and comes to the same outcome. -/
theorem resolve_on_json_form (graph : ResolverGraph) (type field : String) (receiver : ResolvedValue)
    (args raw : Value) :
    graph.resolve type field receiver args raw = graph.resolve type field (.json receiver.toJson) args raw :=
  resolve_congr (receiver.transactionOn?_toJson graph.repository).symm receiver.commitResult?_toJson.symm rfl args raw

end ResolverGraph

end AggregateGateway
