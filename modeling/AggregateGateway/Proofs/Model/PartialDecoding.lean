import AggregateGateway.Proofs.Json.Record
import AggregateGateway.Proofs.Model.Addressed

/-!
Decoding a part of a document and decoding all of it. Where the whole document decodes, each level of the model holds
under a name what the document has there, decoded; so a selector finds the same aggregate in the part and in the whole,
and a repository that is named is found in both or in neither. The two differ over an aggregate that names no
repository: the whole model looks for one whose name is empty, and the part never has it.
-/

namespace AggregateGateway

open Json

/-! ### Optional values side by side -/

theorem rel_bind {α β γ δ : Type} {r : α → β → Prop} {s : γ → δ → Prop} {a : Option α} {b : Option β}
    {f : α → Option γ} {g : β → Option δ} (h : Option.Rel r a b)
    (hfg : ∀ x y, a = some x → r x y → Option.Rel s (f x) (g y)) : Option.Rel s (a.bind f) (b.bind g) := by
  cases h with
  | none => exact .none
  | some hxy => exact hfg _ _ rfl hxy

theorem rel_cases {α β : Type} {r : α → β → Prop} {a : Option α} {b : Option β} (h : Option.Rel r a b) :
    (a = none ∧ b = none) ∨ ∃ x y, a = some x ∧ b = some y ∧ r x y := by
  cases h with
  | none => exact .inl ⟨rfl, rfl⟩
  | some hxy => exact .inr ⟨_, _, rfl, rfl, hxy⟩

/-- What decodes to what. -/
abbrev DecodesTo {α : Type} (decode : Value → Decoded α) (value : Value) (x : α) : Prop := decode value = .ok x

/-! ### Maps -/

theorem rel_decodeSortedMap {α : Type} {decode : Value → Decoded α} {value : Value} (hdistinct : value.Distinct)
    {m : SortedMap α} (h : value.decodeSortedMap decode = .ok m) (name : String) :
    Option.Rel (DecodesTo decode) (value.get? name) (m.get? name) := by
  have own : ∀ (acc : SortedMap α) value next, acc.insert name <$> decode value = .ok next →
      some <$> decode value = .ok (next.get? name) := by
    intro acc value next hset
    obtain ⟨x, hx, rfl⟩ := map_eq_ok.mp hset
    rw [SortedMap.get?_insert, if_pos rfl]
    exact map_eq_ok.mpr ⟨x, hx, rfl⟩
  have others : ∀ (acc : SortedMap α) (member : String × Value) next, member.1 ≠ name →
      acc.insert member.1 <$> decode member.2 = .ok next → next.get? name = acc.get? name := by
    intro acc member next hne hset
    obtain ⟨x, -, rfl⟩ := map_eq_ok.mp hset
    rw [SortedMap.get?_insert, if_neg (Ne.symm hne)]
  cases hdistinct with
  | object hnames _ =>
    obtain ⟨hlookup, hget⟩ | ⟨inner, hlookup, hinner⟩ := lookup_of_foldlM own others hnames h
    · rw [Value.get?, hlookup, hget]
      exact .none
    · obtain ⟨x, hx, hget⟩ := map_eq_ok.mp hinner
      rw [Value.get?, hlookup, ← hget]
      exact .some hx
  | null | bool _ | number _ | string _ | array _ => cases h

/-- A map that a record shows holds what the document has there, decoded; where it has nothing there, the map is
empty. -/
theorem rel_of_shows {α β : Type} {record : Record β} {field : String} {view : β → SortedMap α}
    {decode : Value → Decoded α} (hshows : record.Shows field view (Value.decodeSortedMap decode))
    (hblank : view record.blank = .empty) {value : Value} (hobject : value.IsObject) (hdistinct : value.Distinct)
    {x : β} (h : record.decode value = .ok x) (name : String) :
    Option.Rel (DecodesTo decode) ((value.get? field).bind (Value.get? name)) ((view x).get? name) := by
  obtain ⟨members, rfl⟩ := hobject
  obtain ⟨hlookup, hview⟩ | ⟨inner, hlookup, hinner⟩ := hshows.of_decode hdistinct.nodup_names h
  · rw [Value.get?, hlookup, hview, hblank]
    exact .none
  · have hget : (Value.object members).get? field = some inner := hlookup
    rw [hget]
    exact rel_decodeSortedMap (hdistinct.of_get? hget) hinner name

/-! ### Levels of a model -/

theorem VersionedAggregate.shows_versions :
    record.Shows "versions" versions (Value.decodeSortedMap AggregateDefinition.decode) :=
  .of_single rfl fun _ _ => rfl

theorem BoundedContext.shows_aggregates :
    record.Shows "aggregates" aggregates (Value.decodeSortedMap VersionedAggregate.decode) :=
  .of_single rfl fun _ _ => rfl

namespace DomainModel

theorem shows_boundedContexts :
    record.Shows "boundedContexts" boundedContexts (Value.decodeSortedMap BoundedContext.decode) := by
  apply Record.Shows.of_parts
  · decide
  · simp only [record, List.forall_mem_cons]
    refine ⟨.own (fun model contexts => { model with boundedContexts := contexts }) rfl ?_ ?_,
      .other (Value.decodeSortedMap .ok) (fun model repositories => { model with repositories := repositories })
        (by decide) ?_ ?_, nofun⟩
    all_goals exact fun _ _ => rfl

theorem shows_repositories : record.Shows "repositories" repositories (Value.decodeSortedMap .ok) := by
  apply Record.Shows.of_parts
  · decide
  · simp only [record, List.forall_mem_cons]
    refine ⟨.other (Value.decodeSortedMap BoundedContext.decode)
        (fun model contexts => { model with boundedContexts := contexts }) (by decide) ?_ ?_,
      .own (fun model repositories => { model with repositories := repositories }) rfl ?_ ?_, nofun⟩
    all_goals exact fun _ _ => rfl

/-- What a document has under a selector, be it `null`. -/
def stored? (document : Value) (selector : AggregateSelector) : Option Value :=
  ((document.get? "boundedContexts").bind (Value.get? selector.boundedContext)).bind fun context =>
    ((context.get? "aggregates").bind (Value.get? selector.aggregate)).bind fun aggregate =>
      (aggregate.get? "versions").bind (Value.get? selector.version)

/-- The root, the addressed context and the addressed aggregate of a document are objects, as far as they are there. -/
structure ObjectsOnPath (selector : AggregateSelector) (document : Value) : Prop where
  root : document.IsObject
  context : ∀ value, document.At ["boundedContexts", selector.boundedContext] value → value.IsObject
  aggregate : ∀ value,
    document.At ["boundedContexts", selector.boundedContext, "aggregates", selector.aggregate] value → value.IsObject

/-- The aggregate under a selector names no repository, and there is one whose name is empty. -/
def FindsUnnamed (model : DomainModel) (selector : AggregateSelector) : Prop :=
  ∃ aggregate repository, model.aggregate? selector = some aggregate ∧ aggregate.repository = none ∧
    model.repository? "" = some repository

variable {document : Value} {selector : AggregateSelector} {whole : DomainModel}

theorem stored?_eq_some_iff {value : Value} :
    stored? document selector = some value ↔ document.At selector.path value := by
  simp only [stored?, Option.bind_eq_some_iff, AggregateSelector.path, Value.at_cons_iff, Value.at_nil_iff]
  constructor
  · rintro ⟨context, ⟨contexts, h₁, h₂⟩, aggregate, ⟨aggregates, h₃, h₄⟩, versions, h₅, h₆⟩
    exact ⟨contexts, h₁, context, h₂, aggregates, h₃, aggregate, h₄, versions, h₅, value, h₆, rfl⟩
  · rintro ⟨contexts, h₁, context, h₂, aggregates, h₃, aggregate, h₄, versions, h₅, _, h₆, rfl⟩
    exact ⟨context, ⟨contexts, h₁, h₂⟩, aggregate, ⟨aggregates, h₃, h₄⟩, versions, h₅, h₆⟩

/-- Level by level, a model that was decoded from all of a document has what the document has. -/
theorem rel_aggregate? (hdistinct : document.Distinct) (hobjects : ObjectsOnPath selector document)
    (hwhole : decode document = .ok whole) :
    Option.Rel (DecodesTo AggregateDefinition.decode) (stored? document selector) (whole.aggregate? selector) := by
  refine rel_bind (rel_of_shows shows_boundedContexts rfl hobjects.root hdistinct hwhole _) ?_
  intro context model hcontext hmodel
  have hat := Value.bind_get?_eq_some_iff.mp hcontext
  refine rel_bind (rel_of_shows BoundedContext.shows_aggregates rfl (hobjects.context _ hat) (hat.distinct hdistinct)
    hmodel _) ?_
  intro aggregate versioned haggregate hversioned
  have hat' := hat.append (Value.bind_get?_eq_some_iff.mp haggregate)
  exact rel_of_shows VersionedAggregate.shows_versions rfl (hobjects.aggregate _ hat') (hat'.distinct hdistinct)
    hversioned _

/-- A repository that the aggregate names is the same in the part and in the whole. -/
theorem repository?_ofAggregate_eq_whole (hdistinct : document.Distinct) (hroot : document.IsObject)
    (hwhole : decode document = .ok whole) {aggregate : AggregateDefinition} {name : String}
    (hname : aggregate.repository = some name) :
    (ofAggregate document selector aggregate).repository? name = whole.repository? name := by
  rw [repository?_ofAggregate hname, repository?]
  congr 1
  obtain ⟨hentry, hget⟩ | ⟨entry, _, hentry, hget, hsame⟩ :=
    rel_cases (rel_of_shows shows_repositories rfl hroot hdistinct hwhole name)
  · rw [hentry, hget]
  · cases hsame
    rw [hentry, hget]

/-- Where an aggregate is found, the part and the whole differ only over a repository that is not named. -/
theorem compile_ofAggregate_eq_iff (hdistinct : document.Distinct) (hroot : document.IsObject)
    (hwhole : decode document = .ok whole) {aggregate : AggregateDefinition}
    (haggregate : whole.aggregate? selector = some aggregate) :
    (ofAggregate document selector aggregate).compile selector = whole.compile selector ↔
      ¬whole.FindsUnnamed selector := by
  rw [compile_of_aggregate? aggregate?_ofAggregate, compile_of_aggregate? haggregate]
  cases hname : aggregate.repository with
  | some name =>
    have hnamed : ¬whole.FindsUnnamed selector := by
      rintro ⟨other, _, hother, hnone, -⟩
      cases haggregate.symm.trans hother
      cases hname.symm.trans hnone
    rw [Option.getD_some, repository?_ofAggregate_eq_whole hdistinct hroot hwhole hname]
    exact iff_of_true rfl hnamed
  | none =>
    rw [Option.getD_none, repository?_ofAggregate_of_none hname]
    cases hunnamed : whole.repository? "" with
    | none =>
      refine iff_of_true rfl ?_
      rintro ⟨_, repository, -, -, hrepository⟩
      cases hunnamed.symm.trans hrepository
    | some repository =>
      refine iff_of_false nofun ?_
      exact fun h => h ⟨aggregate, repository, haggregate, hname, hunnamed⟩

end DomainModel

/-! ### Main statement -/

/-- Of a document that decodes as a whole and has objects on the path of a selector, the part decodes too, and it
compiles to what the whole compiles to, errors included, unless the whole model finds a repository of empty name for an
aggregate that names none. That names are distinct holds of every document that is read from a text
(`Json.Value.distinct_of_parse?`). -/
theorem part_compiles_as_whole {document : Value} {selector : AggregateSelector} {whole : DomainModel}
    (hdistinct : document.Distinct) (hobjects : DomainModel.ObjectsOnPath selector document)
    (hwhole : DomainModel.decode document = .ok whole) :
    ∃ part, DomainModel.ofDocument document selector = .ok part ∧
      (part.compile selector = whole.compile selector ↔ ¬whole.FindsUnnamed selector) := by
  obtain ⟨hstored, haggregate⟩ | ⟨value, aggregate, hstored, haggregate, hdecode⟩ :=
    rel_cases (DomainModel.rel_aggregate? hdistinct hobjects hwhole)
  · have hmissing : DomainModel.addressed? document selector = none := by
      rw [Option.eq_none_iff_forall_ne_some]
      intro value hvalue
      have hat := (DomainModel.addressed?_eq_some_iff.mp hvalue).1
      cases hstored.symm.trans (DomainModel.stored?_eq_some_iff.mpr hat)
    refine ⟨{}, by rw [DomainModel.ofDocument, hmissing], iff_of_true ?_ ?_⟩
    · rw [DomainModel.compile, DomainModel.compile, haggregate]
      rfl
    · rintro ⟨_, _, h, -⟩
      cases haggregate.symm.trans h
  · have hat := DomainModel.stored?_eq_some_iff.mp hstored
    exact ⟨_, DomainModel.ofDocument_eq_ok hat hdecode,
      DomainModel.compile_ofAggregate_eq_iff hdistinct hobjects.root hwhole haggregate⟩

/-- Two versions of an aggregate, of which the second names no repository. -/
def twoVersions : Value :=
  .object [
    ("boundedContexts", .object [("sales", .object [("aggregates", .object [("order", .object [("versions",
      .object [("1", .object [("repository", .string "orders")]), ("2", .object [])])])])])]),
    ("repositories", .object [("orders", .string "db")])]

/-- The first is compiled and the second refused, from its part as from the whole. -/
theorem two_versions_compile_alike :
    let first : AggregateSelector := ⟨"sales", "order", "1"⟩
    let second : AggregateSelector := ⟨"sales", "order", "2"⟩
    twoVersions.Distinct ∧ DomainModel.ObjectsOnPath first twoVersions ∧
      DomainModel.ObjectsOnPath second twoVersions ∧
      ∃ whole part part', DomainModel.decode twoVersions = .ok whole ∧
        DomainModel.ofDocument twoVersions first = .ok part ∧ part.compile first = whole.compile first ∧
        whole.compile first = .ok (.ofAggregate { repository := some "orders" } (.string "db")) ∧
        DomainModel.ofDocument twoVersions second = .ok part' ∧ part'.compile second = whole.compile second ∧
        whole.compile second = .error (.repositoryNotFound "") := by
  intro first second
  have hdistinct : twoVersions.Distinct := by simp [twoVersions]
  have hobjects : ∀ version, DomainModel.ObjectsOnPath ⟨"sales", "order", version⟩ twoVersions := by
    intro version
    refine ⟨⟨_, rfl⟩, ?_, ?_⟩
    · simp [twoVersions, Value.at_cons_iff, Value.get?, Value.IsObject]
    · simp [twoVersions, Value.at_cons_iff, Value.get?, Value.IsObject]
  obtain ⟨whole, hwhole⟩ : ∃ whole, DomainModel.decode twoVersions = .ok whole := ⟨_, rfl⟩
  have hunnamed : ∀ selector, ¬whole.FindsUnnamed selector := by
    rintro selector ⟨_, repository, -, -, hrepository⟩
    cases hwhole
    cases hrepository
  obtain ⟨part, hpart, halike⟩ := part_compiles_as_whole hdistinct (hobjects "1") hwhole
  obtain ⟨part', hpart', halike'⟩ := part_compiles_as_whole hdistinct (hobjects "2") hwhole
  refine ⟨hdistinct, hobjects "1", hobjects "2", whole, part, part', hwhole, hpart, halike.mpr (hunnamed first), ?_,
    hpart', halike'.mpr (hunnamed second), ?_⟩
  · cases hwhole
    rfl
  · cases hwhole
    rfl

/-- An aggregate that names no repository, in a document with a repository of empty name. -/
def unnamedRepository : Value :=
  .object [
    ("boundedContexts", .object [("sales", .object [("aggregates", .object [("order", .object [("versions",
      .object [("1", .object [])])])])])]),
    ("repositories", .object [("", .string "orders")])]

/-- The whole model is compiled on the repository of empty name, and the part is not compiled at all. -/
theorem unnamed_repository_in_whole_only :
    let selector : AggregateSelector := ⟨"sales", "order", "1"⟩
    unnamedRepository.Distinct ∧ DomainModel.ObjectsOnPath selector unnamedRepository ∧
      ∃ whole part, DomainModel.decode unnamedRepository = .ok whole ∧
        DomainModel.ofDocument unnamedRepository selector = .ok part ∧
        part.compile selector = .error (.repositoryNotFound "") ∧
        whole.compile selector = .ok (.ofAggregate {} (.string "orders")) ∧
        part.compile selector ≠ whole.compile selector := by
  intro selector
  refine ⟨by simp [unnamedRepository], ⟨⟨_, rfl⟩, ?_, ?_⟩, _, _, rfl, rfl, rfl, rfl, nofun⟩
  · simp [unnamedRepository, selector, Value.at_cons_iff, Value.get?, Value.IsObject]
  · simp [unnamedRepository, selector, Value.at_cons_iff, Value.get?, Value.IsObject]

end AggregateGateway
