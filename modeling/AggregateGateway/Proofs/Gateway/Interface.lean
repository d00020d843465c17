import AggregateGateway.Gateway.Interface
import AggregateGateway.Proofs.Gateway.Exchange
import AggregateGateway.Proofs.Model.Addressed

/-!
Why an interface cannot be loaded. The relation `Offers` has one rule for every reason and one for success; loading
reads the domain model once, asks nothing else, and comes to what the rules say of the answer. The rules look at a
document in two places alone, and so a document that agrees with another one there offers the same interface, however
malformed the rest of either is.
-/

namespace AggregateGateway

open Json

/-! ### Outcomes -/

/-- What a read of a domain model offers under a selector. -/
inductive Offers (selector : AggregateSelector) : ReadResult → Except InterfaceError Interface → Prop
  | unreadable {error : StoreError} : Offers selector (.error error) (.error (.store error))
  | noDocument : Offers selector (.ok none) (.error (.compile (.aggregateNotFound selector)))
  | noAggregate {document : Value} : document.Loses selector.path →
      Offers selector (.ok (some document)) (.error (.compile (.aggregateNotFound selector)))
  | nullAggregate {document : Value} : document.At selector.path .null →
      Offers selector (.ok (some document)) (.error (.compile (.aggregateNotFound selector)))
  | malformed {document value : Value} {error : DecodeError} : document.At selector.path value → value ≠ .null →
      AggregateDefinition.decode value = .error error →
      Offers selector (.ok (some document)) (.error (.store (.serialization error.message)))
  /-- No repository is named. -/
  | unnamed {document value : Value} {aggregate : AggregateDefinition} : document.At selector.path value →
      AggregateDefinition.decode value = .ok aggregate → aggregate.repository = none →
      Offers selector (.ok (some document)) (.error (.compile (.repositoryNotFound "")))
  | noRepository {document value : Value} {aggregate : AggregateDefinition} {name : String} :
      document.At selector.path value → AggregateDefinition.decode value = .ok aggregate →
      aggregate.repository = some name → document.Loses (repositoryPath name) →
      Offers selector (.ok (some document)) (.error (.compile (.repositoryNotFound name)))
  | nullRepository {document value : Value} {aggregate : AggregateDefinition} {name : String} :
      document.At selector.path value → AggregateDefinition.decode value = .ok aggregate →
      aggregate.repository = some name → document.At (repositoryPath name) .null →
      Offers selector (.ok (some document)) (.error (.compile (.repositoryNotFound name)))
  | compiled {document value repository : Value} {aggregate : AggregateDefinition} {name : String} :
      document.At selector.path value → AggregateDefinition.decode value = .ok aggregate →
      aggregate.repository = some name → document.At (repositoryPath name) repository → repository ≠ .null →
      Offers selector (.ok (some document)) (.ok
        { schema :=
            { text := (Surface.ofAggregate aggregate).text
              surface := .ofAggregate aggregate
              repository := repository }
          resolvers := .ofSurface (.ofAggregate aggregate) repository })

namespace Interface

section
variable {selector : AggregateSelector} {document value : Value} {aggregate : AggregateDefinition}

theorem ofRead_of_not_addressed (h : DomainModel.addressed? document selector = none) :
    ofRead selector (.ok (some document)) = .error (.compile (.aggregateNotFound selector)) := by
  have hmodel : DomainModel.ofDocument document selector = .ok {} := by rw [DomainModel.ofDocument, h]
  simp only [ofRead, Option.map_some, Option.getD_some, hmodel]
  rfl

theorem ofRead_of_malformed {error : DecodeError} (hat : document.At selector.path value) (hne : value ≠ .null)
    (hdecode : AggregateDefinition.decode value = .error error) :
    ofRead selector (.ok (some document)) = .error (.store (.serialization error.message)) := by
  have hmodel : DomainModel.ofDocument document selector = .error error := by
    rw [DomainModel.ofDocument, DomainModel.addressed?_eq_some_iff.mpr ⟨hat, hne⟩]
    simp only [hdecode]
    rfl
  simp only [ofRead, Option.map_some, Option.getD_some, hmodel, StoreError.ofDecodeError]

/-- An aggregate that decodes is offered on the repository that it names. -/
theorem ofRead_of_aggregate (hat : document.At selector.path value)
    (hdecode : AggregateDefinition.decode value = .ok aggregate) :
    ofRead selector (.ok (some document)) =
      match (DomainModel.ofAggregate document selector aggregate).repository? (aggregate.repository.getD "") with
      | none => .error (.compile (.repositoryNotFound (aggregate.repository.getD "")))
      | some repository => .ok (ofSchema (.ofAggregate aggregate repository)) := by
  simp only [ofRead, Option.map_some, Option.getD_some, DomainModel.ofDocument_eq_ok hat hdecode,
    DomainModel.compile_of_aggregate? DomainModel.aggregate?_ofAggregate]
  cases (DomainModel.ofAggregate document selector aggregate).repository? (aggregate.repository.getD "") <;> rfl

theorem ofRead_of_noRepository (hat : document.At selector.path value)
    (hdecode : AggregateDefinition.decode value = .ok aggregate)
    (h : ∀ name, aggregate.repository = some name →
      document.Loses (repositoryPath name) ∨ document.At (repositoryPath name) .null) :
    ofRead selector (.ok (some document)) =
      .error (.compile (.repositoryNotFound (aggregate.repository.getD ""))) := by
  rw [ofRead_of_aggregate hat hdecode, DomainModel.repository?_ofAggregate_eq_none_iff.mpr h]

theorem ofRead_of_offers {answer : ReadResult} {outcome : Except InterfaceError Interface}
    (h : Offers selector answer outcome) : ofRead selector answer = outcome := by
  cases h with
  | unreadable => rfl
  | noDocument => rfl
  | noAggregate hloses => exact ofRead_of_not_addressed (DomainModel.addressed?_eq_none_of_loses hloses)
  | nullAggregate hnull => exact ofRead_of_not_addressed (DomainModel.addressed?_eq_none_of_null hnull)
  | malformed hat hne hdecode => exact ofRead_of_malformed hat hne hdecode
  | unnamed hat hdecode hname =>
    have h := ofRead_of_noRepository hat hdecode (by simp [hname])
    rwa [hname] at h
  | noRepository hat hdecode hname hloses =>
    have h := ofRead_of_noRepository hat hdecode (by simpa [hname] using .inl hloses)
    rwa [hname] at h
  | nullRepository hat hdecode hname hnull =>
    have h := ofRead_of_noRepository hat hdecode (by simpa [hname] using .inr hnull)
    rwa [hname] at h
  | compiled hat hdecode hname hentry hne =>
    rw [ofRead_of_aggregate hat hdecode,
      DomainModel.repository?_ofAggregate_eq_some_iff.mpr ⟨_, hname, hentry, hne⟩]
    rfl

/-- Every answer of the store falls under a rule. -/
theorem offers_ofRead (selector : AggregateSelector) (answer : ReadResult) :
    Offers selector answer (ofRead selector answer) := by
  -- Each case ends in the rule that says what was found; the outcome is then that of the rule.
  suffices h : ∃ outcome, Offers selector answer outcome by
    obtain ⟨outcome, h⟩ := h
    rwa [ofRead_of_offers h]
  match answer with
  | .error error => exact ⟨_, .unreadable⟩
  | .ok none => exact ⟨_, .noDocument⟩
  | .ok (some document) =>
    rcases document.exists_at_or_loses selector.path with ⟨value, hat⟩ | hloses
    case inr => exact ⟨_, .noAggregate hloses⟩
    by_cases hne : value = .null
    · exact ⟨_, .nullAggregate (hne ▸ hat)⟩
    cases hdecode : AggregateDefinition.decode value with
    | error error => exact ⟨_, .malformed hat hne hdecode⟩
    | ok aggregate =>
      cases hname : aggregate.repository with
      | none => exact ⟨_, .unnamed hat hdecode hname⟩
      | some name =>
        rcases document.exists_at_or_loses (repositoryPath name) with ⟨entry, hentry⟩ | hloses
        case inr => exact ⟨_, .noRepository hat hdecode hname hloses⟩
        by_cases hnull : entry = .null
        · exact ⟨_, .nullRepository hat hdecode hname (hnull ▸ hentry)⟩
        · exact ⟨_, .compiled hat hdecode hname hentry hnull⟩

theorem ofRead_eq_iff {answer : ReadResult} {outcome : Except InterfaceError Interface} :
    ofRead selector answer = outcome ↔ Offers selector answer outcome := by
  constructor
  · rintro rfl
    exact offers_ofRead selector answer
  · exact ofRead_of_offers

end

/-- Loading asks one question, for the domain. -/
theorem run_load_iff {domain : String} {selector : AggregateSelector} {events : List Event}
    {outcome : Except InterfaceError Interface} :
    Exchange.Run (load domain selector) events outcome ↔
      ∃ answer, events = [.readDocument (.domain domain) answer] ∧ ofRead selector answer = outcome := by
  rw [load, Exchange.run_map_iff]
  constructor
  · rintro ⟨answer, hread, rfl⟩
    exact ⟨answer, Exchange.run_read_iff.mp hread, rfl⟩
  · rintro ⟨answer, hevents, rfl⟩
    exact ⟨answer, Exchange.run_read_iff.mpr hevents, rfl⟩

end Interface

/-! ### Documents that agree where it counts -/

/-- Two documents have the same value under a selector and, for the repository that it names, the same entry. -/
structure SamePart (selector : AggregateSelector) (first second : Value) : Prop where
  aggregate : ∀ value, first.At selector.path value ↔ second.At selector.path value
  repository : ∀ value aggregate name, first.At selector.path value →
    AggregateDefinition.decode value = .ok aggregate → aggregate.repository = some name →
    ∀ entry, first.At (repositoryPath name) entry ↔ second.At (repositoryPath name) entry

theorem Json.Value.loses_congr {first second : Value} {path : List String}
    (h : ∀ found, first.At path found ↔ second.At path found) : first.Loses path ↔ second.Loses path := by
  simp only [Value.loses_iff, h]

theorem SamePart.offers {selector : AggregateSelector} {first second : Value} (h : SamePart selector first second)
    {outcome : Except InterfaceError Interface} (ho : Offers selector (.ok (some first)) outcome) :
    Offers selector (.ok (some second)) outcome := by
  cases ho with
  | noAggregate hloses => exact .noAggregate ((Value.loses_congr h.aggregate).mp hloses)
  | nullAggregate hnull => exact .nullAggregate ((h.aggregate _).mp hnull)
  | malformed hat hne hdecode => exact .malformed ((h.aggregate _).mp hat) hne hdecode
  | unnamed hat hdecode hname => exact .unnamed ((h.aggregate _).mp hat) hdecode hname
  | noRepository hat hdecode hname hloses =>
    have hentries := h.repository _ _ _ hat hdecode hname
    exact .noRepository ((h.aggregate _).mp hat) hdecode hname ((Value.loses_congr hentries).mp hloses)
  | nullRepository hat hdecode hname hnull =>
    have hentries := h.repository _ _ _ hat hdecode hname
    exact .nullRepository ((h.aggregate _).mp hat) hdecode hname ((hentries _).mp hnull)
  | compiled hat hdecode hname hentry hne =>
    have hentries := h.repository _ _ _ hat hdecode hname
    exact .compiled ((h.aggregate _).mp hat) hdecode hname ((hentries _).mp hentry) hne

/-! ### Main statement -/

/-- Loading an interface reads the document of the domain once and asks nothing else; it comes to an outcome exactly if
a rule of `Offers` says so of the answer. Two outsides whose documents of the domain agree on the addressed part lead
to the same outcome, whatever else they hold. -/
theorem interface_loads_by_addressed_part (domain : String) (selector : AggregateSelector) :
    (∀ events outcome, Exchange.Run (Interface.load domain selector) events outcome ↔
        ∃ answer, events = [.readDocument (.domain domain) answer] ∧ Offers selector answer outcome) ∧
      ∀ (outside outside' : Outside Id) (first second : Value),
        outside.readDocument (.domain domain) = .ok (some first) →
        outside'.readDocument (.domain domain) = .ok (some second) → SamePart selector first second →
        (Interface.load domain selector).run outside = (Interface.load domain selector).run outside' := by
  refine ⟨fun events outcome => ?_, fun outside outside' first second hfirst hsecond hsame => ?_⟩
  · simp only [Interface.run_load_iff, Interface.ofRead_eq_iff]
  · show Interface.ofRead selector (outside.readDocument (.domain domain)) =
      Interface.ofRead selector (outside'.readDocument (.domain domain))
    rw [hfirst, hsecond]
    exact (Interface.ofRead_of_offers (hsame.offers (Interface.offers_ofRead selector _))).symm

/-! ### Malformed siblings -/

/-- A document with one aggregate on one repository. -/
def orderDocument : Value :=
  .object [
    ("boundedContexts", .object [("sales", .object [("aggregates", .object [("order", .object [("versions",
      .object [("1", .object [("repository", .string "orders")])])])])])]),
    ("repositories", .object [("orders", .string "db")])]

/-- The aggregate of `orderDocument` between siblings of which none decodes. -/
def crowdedDocument : Value :=
  .object [
    ("owner", .bool true),
    ("repositories", .object [("invoices", .null), ("orders", .string "db")]),
    ("boundedContexts", .object [
      ("billing", .string "none"),
      ("sales", .object [("aggregates", .object [
        ("invoice", .object [("versions", .object [("1", .object [("queries", .string "all")])])]),
        ("order", .object [("versions", .object [
          ("1", .object [("repository", .string "orders")]),
          ("2", .array [.null])])])])])])]

/-- The crowded document offers what the plain one offers. -/
theorem crowded_document_loads_alike :
    let selector : AggregateSelector := ⟨"sales", "order", "1"⟩
    let outside (document : Value) : Outside Id :=
      ⟨fun _ => .ok (some document), fun _ _ => .error (.request "refused"), fun _ => .error "refused", .zero, 0⟩
    SamePart selector orderDocument crowdedDocument ∧
      (Interface.load "acme" selector).run (outside orderDocument) =
        (Interface.load "acme" selector).run (outside crowdedDocument) ∧
      ∃ api, Exchange.Run (Interface.load "acme" selector)
          [.readDocument (.domain "acme") (.ok (some crowdedDocument))] (.ok api) ∧
        api.schema.repository = .string "db" := by
  intro selector outside
  have hat : orderDocument.At selector.path (.object [("repository", .string "orders")]) := by
    iterate 6 refine .member rfl ?_
    exact .here
  have hat' : crowdedDocument.At selector.path (.object [("repository", .string "orders")]) := by
    iterate 6 refine .member rfl ?_
    exact .here
  have hentry : orderDocument.At (repositoryPath "orders") (.string "db") := .member rfl (.member rfl .here)
  have hentry' : crowdedDocument.At (repositoryPath "orders") (.string "db") := .member rfl (.member rfl .here)
  have hsame : SamePart selector orderDocument crowdedDocument := by
    refine ⟨hat.same_iff hat', ?_⟩
    intro value aggregate name hvalue hdecode hname
    cases hvalue.unique hat
    cases hdecode
    cases hname
    exact hentry.same_iff hentry'
  obtain ⟨hruns, halike⟩ := interface_loads_by_addressed_part "acme" selector
  exact ⟨hsame, halike (outside orderDocument) (outside crowdedDocument) _ _ rfl rfl hsame, _,
    (hruns _ _).mpr ⟨_, rfl, .compiled hat' rfl rfl hentry' nofun⟩, rfl⟩

end AggregateGateway
