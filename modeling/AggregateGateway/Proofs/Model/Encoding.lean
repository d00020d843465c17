import AggregateGateway.Model.Aggregate
import AggregateGateway.Proofs.Transaction
import AggregateGateway.Resolver.Envelope
import AggregateGateway.Routing.Table

/-!
Domain models, route tables, transactions and resolver envelopes are read back as they were written. Each type takes one
lemma, from those of its parts, with its members in the order of its fields.
-/

namespace AggregateGateway

open Json

/-! ### Declared fields -/

theorem ReturnType.decode_encode : Undoes decode encode := by
  intro type
  have hname := decodeOption_ofString? type.name
  exact Record.decode_of_sets (by decide) (.set (bind_of_ok hname _) (.set rfl .nil))

theorem ResolverRef.decode_encode : Undoes decode encode := by
  intro resolver
  exact Record.decode_of_sets (by decide) (.set rfl .nil)

namespace FieldSpec

/-- Every parameter is written as a text, and so none is dropped. -/
theorem decodeParams_encode : Undoes decodeParams (OrderedMap.encode .string) := by
  intro params
  have hraw : (params.encode .string).decodeOrderedMap .ok = .ok (params.map fun _ => Value.string) :=
    decodeOrderedMap_entries (params.map fun _ => Value.string)
  rw [decodeParams, bind_of_ok hraw, OrderedMap.entries_map, List.filterMap_map]
  have hkeep : ∀ entries : List (String × String), entries.filterMap some = entries := fun _ => List.filterMap_some
  exact congrArg Except.ok ((congrArg OrderedMap.ofList (hkeep params.entries)).trans params.ofList_entries)

theorem decode_encode : Undoes decode encode := by
  intro spec
  have hresolver := decodeOption_encode ResolverRef.decode_encode fun _ => nofun
  have htype := decodeOption_encode ReturnType.decode_encode fun _ => nofun
  have hparams := decodeParams_encode spec.params
  -- The return type and the resolver are left out if they are missing.
  rw [encode, List.append_assoc, ← List.append_nil (spec.resolver.map _).toList]
  refine Record.decode_of_sets (by decide) (.set (bind_of_ok hparams _) ?_)
  refine .setOption (fun type => { spec with returnType := type, resolver := none }) ?_ ?_ ?_
  · rfl
  · exact fun type => bind_of_ok (htype type) _
  · refine .setOption (fun resolver => { spec with resolver := resolver }) ?_ ?_ .nil
    · rfl
    · exact fun resolver => bind_of_ok (hresolver resolver) _

end FieldSpec

theorem TypeDefinition.decode_encode : Undoes decode encode := by
  intro type
  have hmethods := decodeOrderedMap_encode FieldSpec.decode_encode type.methods
  exact Record.decode_of_sets (by decide) (.set (bind_of_ok hmethods _) .nil)

/-! ### Domain models -/

theorem AggregateDefinition.decode_encode : Undoes decode encode := by
  intro aggregate
  have hfields := decodeOrderedMap_encode FieldSpec.decode_encode
  have htypes := decodeOrderedMap_encode TypeDefinition.decode_encode
  refine Record.decode_of_sets (by decide) ?_
  refine .set (bind_of_ok (hfields aggregate.queries) _) ?_
  refine .set (bind_of_ok (hfields aggregate.methods) _) ?_
  refine .set (bind_of_ok (hfields aggregate.actions) _) ?_
  refine .set (bind_of_ok (htypes aggregate.entities) _) ?_
  refine .set (bind_of_ok (htypes aggregate.inputEntities) _) ?_
  exact .set (bind_of_ok (decodeOption_ofString? aggregate.repository) _) .nil

theorem VersionedAggregate.decode_encode : Undoes decode encode := by
  intro aggregate
  have hversions := decodeSortedMap_encode AggregateDefinition.decode_encode aggregate.versions
  exact Record.decode_of_sets (by decide) (.set (bind_of_ok hversions _) .nil)

theorem BoundedContext.decode_encode : Undoes decode encode := by
  intro context
  have haggregates := decodeSortedMap_encode VersionedAggregate.decode_encode context.aggregates
  exact Record.decode_of_sets (by decide) (.set (bind_of_ok haggregates _) .nil)

/-- Repositories are carried as they are. -/
theorem DomainModel.decode_encode : Undoes decode encode := by
  intro model
  have hcontexts := decodeSortedMap_encode BoundedContext.decode_encode model.boundedContexts
  have hrepositories : (model.repositories.encode id).decodeSortedMap .ok = .ok model.repositories :=
    decodeSortedMap_encode (fun _ => rfl) model.repositories
  refine Record.decode_of_sets (by decide) (.set (bind_of_ok hcontexts _) ?_)
  exact .set (bind_of_ok hrepositories _) .nil

theorem AggregateSelector.decode_encode : Undoes decode encode := by
  intro selector
  exact Record.decode_of_sets (by decide) (.set rfl (.set rfl (.set rfl .nil)))

/-! ### Route tables -/

theorem RouteRule.decode_encode : Undoes decode encode := by
  intro rule
  have hview := decodeOption_ofString? rule.view
  exact Record.decode_of_sets (by decide) (.set rfl (.set (bind_of_ok hview _) (.set rfl .nil)))

theorem RouteTable.decode_encode : Undoes decode encode := by
  intro table
  have hroutes := Value.decodeList_encode RouteRule.decode_encode table.routes
  exact Record.decode_of_sets (by decide) (.set (bind_of_ok hroutes _) .nil)

/-! ### Resolver envelopes -/

theorem ResolverRequest.decode_encode : Undoes decode encode := by
  intro request
  have hctxt := ContextSnapshot.decode_encode request.ctxt
  exact Record.decode_of_sets (by decide) (.set rfl (.set rfl (.set (bind_of_ok hctxt _) .nil)))

namespace ResolverResponse

/-- The response without an error that is `null`. -/
def normalized (response : ResolverResponse) : ResolverResponse :=
  { response with error := response.error.filter fun error => !error.isNull }

theorem decode_encode (response : ResolverResponse) : decode response.encode = .ok response.normalized := by
  obtain ⟨data, error⟩ := response
  cases error with
  | none => exact Record.decode_of_sets (by decide) (.set rfl (.skip rfl .nil))
  | some error => cases error <;> exact Record.decode_of_sets (by decide) (.set rfl (.set rfl .nil))

theorem result_normalized (response : ResolverResponse) : response.normalized.result = response.result := by
  obtain ⟨data, error⟩ := response
  cases error with
  | none => rfl
  | some error => cases error <;> rfl

theorem normalized_eq_iff {response : ResolverResponse} :
    response.normalized = response ↔ response.error ≠ some .null := by
  obtain ⟨data, error⟩ := response
  cases error with
  | none => simp [normalized]
  | some error => cases error <;> simp [normalized, Value.isNull]

end ResolverResponse

/-! ### Main statement -/

/-- A format: every value is read back from its form, and what any JSON value is read as has a form that is read as the
same and written as it stands. -/
structure RoundTrips {α : Type} (decode : Value → Decoded α) (encode : α → Value) : Prop where
  undoes : Undoes decode encode
  normal : ∀ value x, decode value = .ok x →
    decode (encode x) = .ok x ∧ encode <$> decode (encode x) = .ok (encode x)

theorem RoundTrips.of_undoes {α : Type} {decode : Value → Decoded α} {encode : α → Value} (h : Undoes decode encode) :
    RoundTrips decode encode where
  undoes := h
  normal _ x _ := ⟨h x, by rw [h x]; rfl⟩

/-- The stored and the exchanged formats are read back as they were written, with every order kept; of a response only
an error that is `null` is lost, which says nothing. -/
theorem formats_round_trip :
    RoundTrips DomainModel.decode DomainModel.encode ∧ RoundTrips RouteTable.decode RouteTable.encode ∧
      RoundTrips Transaction.decode Transaction.encode ∧ RoundTrips CommitResult.decode CommitResult.encode ∧
      RoundTrips ResolverRequest.decode ResolverRequest.encode ∧
      RoundTrips AggregateSelector.decode AggregateSelector.encode ∧
      ∀ response : ResolverResponse, ∃ again, ResolverResponse.decode response.encode = .ok again ∧
        again.result = response.result ∧ (again = response ↔ response.error ≠ some .null) := by
  refine ⟨.of_undoes DomainModel.decode_encode, .of_undoes RouteTable.decode_encode,
    .of_undoes Transaction.decode_encode, .of_undoes CommitResult.decode_encode,
    .of_undoes ResolverRequest.decode_encode, .of_undoes AggregateSelector.decode_encode, fun response => ?_⟩
  exact ⟨response.normalized, response.decode_encode, response.result_normalized,
    ResolverResponse.normalized_eq_iff⟩

end AggregateGateway
