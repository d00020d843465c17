import AggregateGateway.Proofs.Json.Path
import AggregateGateway.Proofs.Map.SortedMap
import AggregateGateway.Schema.Compile

/-!
The part of a document that a selector needs: the value at the path of the selector, and the entry of the repository
that the aggregate there names. The model that is decoded from it has that aggregate and that repository, and compiles
to what the two make.
-/

namespace AggregateGateway

open Json

/-- The names that lead to one version of an aggregate. -/
def AggregateSelector.path (selector : AggregateSelector) : List String :=
  ["boundedContexts", selector.boundedContext, "aggregates", selector.aggregate, "versions", selector.version]

/-- The names that lead to a repository. -/
def repositoryPath (name : String) : List String := ["repositories", name]

/-- A value that decodes as an aggregate is there. -/
theorem AggregateDefinition.ne_null_of_decode {value : Value} {aggregate : AggregateDefinition}
    (h : decode value = .ok aggregate) : value ≠ .null := by
  rintro rfl
  cases h

namespace DomainModel

variable {document value : Value} {selector : AggregateSelector} {aggregate : AggregateDefinition}

/-! ### What is addressed -/

theorem addressed?_eq_some_iff :
    addressed? document selector = some value ↔ document.At selector.path value ∧ value ≠ .null := by
  simp only [addressed?, Option.bind_eq_bind, Option.bind_eq_some_iff, AggregateSelector.path, Value.at_cons_iff,
    Value.at_nil_iff, ← Value.isNull_eq_false_iff]
  constructor
  · rintro ⟨contexts, h₁, context, h₂, aggregates, h₃, aggregate, h₄, versions, h₅, definition, h₆, h⟩
    split at h
    · cases h
    · next hnull =>
      cases h
      exact ⟨⟨contexts, h₁, context, h₂, aggregates, h₃, aggregate, h₄, versions, h₅, _, h₆, rfl⟩, by simpa using hnull⟩
  · rintro ⟨⟨contexts, h₁, context, h₂, aggregates, h₃, aggregate, h₄, versions, h₅, definition, h₆, rfl⟩, hnull⟩
    exact ⟨contexts, h₁, context, h₂, aggregates, h₃, aggregate, h₄, versions, h₅, _, h₆, by simp [hnull]⟩

theorem addressed?_eq_none_of_loses (h : document.Loses selector.path) : addressed? document selector = none := by
  rw [Option.eq_none_iff_forall_ne_some]
  intro value hvalue
  exact h.not_at (addressed?_eq_some_iff.mp hvalue).1

theorem addressed?_eq_none_of_null (h : document.At selector.path .null) : addressed? document selector = none := by
  rw [Option.eq_none_iff_forall_ne_some]
  intro value hvalue
  obtain ⟨hat, hne⟩ := addressed?_eq_some_iff.mp hvalue
  exact hne (hat.unique h)

/-! ### The model of one aggregate -/

theorem ofDocument_eq_ok (hat : document.At selector.path value)
    (hdecode : AggregateDefinition.decode value = .ok aggregate) :
    ofDocument document selector = .ok (ofAggregate document selector aggregate) := by
  rw [ofDocument, addressed?_eq_some_iff.mpr ⟨hat, AggregateDefinition.ne_null_of_decode hdecode⟩]
  simp only [hdecode]
  rfl

theorem aggregate?_ofAggregate : (ofAggregate document selector aggregate).aggregate? selector = some aggregate := by
  simp [ofAggregate, aggregate?]

theorem repository?_ofAggregate {name : String} (h : aggregate.repository = some name) :
    (ofAggregate document selector aggregate).repository? name =
      ((document.get? "repositories").bind (Value.get? name)).filter fun value => !value.isNull := by
  rw [repository?]
  congr 1
  simp only [ofAggregate, h]
  cases (document.get? "repositories").bind (Value.get? name) with
  | none => rfl
  | some entry => exact SortedMap.get?_single name entry

theorem repository?_ofAggregate_of_none (h : aggregate.repository = none) (name : String) :
    (ofAggregate document selector aggregate).repository? name = none := by
  simp [repository?, ofAggregate, h]

/-- Of repositories the model has the one that the aggregate names, unless it names none or the entry is `null`. -/
theorem repository?_ofAggregate_eq_some_iff {repository : Value} :
    (ofAggregate document selector aggregate).repository? (aggregate.repository.getD "") = some repository ↔
      ∃ name, aggregate.repository = some name ∧ document.At (repositoryPath name) repository ∧ repository ≠ .null := by
  cases hname : aggregate.repository with
  | none => simp [repository?_ofAggregate_of_none hname]
  | some name =>
    rw [Option.getD_some, repository?_ofAggregate hname, Option.filter_eq_some_iff, Value.bind_get?_eq_some_iff,
      Bool.not_eq_true', Value.isNull_eq_false_iff]
    simp [repositoryPath]

theorem repository?_ofAggregate_eq_none_iff :
    (ofAggregate document selector aggregate).repository? (aggregate.repository.getD "") = none ↔
      ∀ name, aggregate.repository = some name →
        document.Loses (repositoryPath name) ∨ document.At (repositoryPath name) .null := by
  rw [Option.eq_none_iff_forall_ne_some]
  simp only [ne_eq, repository?_ofAggregate_eq_some_iff]
  constructor
  · intro h name hname
    rcases document.exists_at_or_loses (repositoryPath name) with ⟨entry, hat⟩ | hloses
    · by_cases hnull : entry = .null
      · exact .inr (hnull ▸ hat)
      · exact absurd ⟨name, hname, hat, hnull⟩ (h entry)
    · exact .inl hloses
  · rintro h repository ⟨name, hname, hat, hnull⟩
    rcases h name hname with hloses | hat'
    · exact hloses.not_at hat
    · exact hnull (hat.unique hat')

/-- A model compiles to what the aggregate under the selector makes on the repository that it names. -/
theorem compile_of_aggregate? {model : DomainModel} (h : model.aggregate? selector = some aggregate) :
    model.compile selector =
      match model.repository? (aggregate.repository.getD "") with
      | none => .error (.repositoryNotFound (aggregate.repository.getD ""))
      | some repository => .ok (.ofAggregate aggregate repository) := by
  cases hr : model.repository? (aggregate.repository.getD "") with
  | none => simp only [compile, h, hr]
  | some repository => simp only [compile, h, hr]

end DomainModel

end AggregateGateway
