import AggregateGateway.Json.Reader
import AggregateGateway.Proofs.Json.Path

/-!
What a reader leaves of members of one name: the last one. No object that is read has two members of one name.
-/

namespace AggregateGateway.Json

namespace Value

/-! ### Members -/

theorem putMember_eq_put (members : List (String × Value)) (name : String) (value : Value) :
    putMember members name value = Entries.put name value members := by
  induction members with
  | nil => rfl
  | cons member members ih => rw [putMember, Entries.put, ih]

theorem ofMembers_eq (members : List (String × Value)) :
    ofMembers members =
      .object (members.foldl (fun acc (name, value) => Entries.put name value acc) []) := by
  simp only [ofMembers, putMember_eq_put]

theorem mem_putMember {members : List (String × Value)} {name : String} {value : Value} {member : String × Value}
    (h : member ∈ putMember members name value) : member = (name, value) ∨ member ∈ members := by
  induction members with
  | nil => exact .inl (List.mem_singleton.mp h)
  | cons first members ih =>
    rw [putMember] at h
    split at h
    · next hname =>
      rcases List.mem_cons.mp h with rfl | hmem
      · exact .inl (by rw [hname])
      · exact .inr (List.mem_cons_of_mem _ hmem)
    · rcases List.mem_cons.mp h with rfl | hmem
      · exact .inr List.mem_cons_self
      · exact (ih hmem).imp_right (List.mem_cons_of_mem _)

theorem ofMembers_of_nodup {members : List (String × Value)} (h : (Entries.keys members).Nodup) :
    ofMembers members = .object members := by
  rw [ofMembers_eq, Entries.foldl_put_of_nodup (by simpa using h), List.nil_append]

/-- The object that is made of members has each name once, with values of the members. -/
theorem distinct_ofMembers {members : List (String × Value)} (h : ∀ member ∈ members, member.2.Distinct) :
    (ofMembers members).Distinct := by
  have hfold : ∀ acc : List (String × Value), (Entries.keys acc).Nodup → (∀ member ∈ acc, member.2.Distinct) →
      (Value.object (members.foldl (fun acc (name, value) => putMember acc name value) acc)).Distinct := by
    induction members with
    | nil => exact fun acc hnames hacc => distinct_object_iff.mpr ⟨hnames, hacc⟩
    | cons member members ih =>
      intro acc hnames hacc
      have hput : (Entries.keys (putMember acc member.1 member.2)).Nodup := by
        rw [putMember_eq_put]
        exact Entries.nodup_keys_put hnames
      refine ih (fun m hm => h m (List.mem_cons_of_mem _ hm)) _ hput ?_
      intro m hm
      rcases mem_putMember hm with rfl | hmem
      · exact h _ List.mem_cons_self
      · exact hacc m hmem
  exact hfold [] List.nodup_nil nofun

end Value

namespace Reader

theorem distinct_of_readScalar {chars rest : List Char} {value : Value} (h : readScalar chars = some (value, rest)) :
    value.Distinct := by
  rw [readScalar.eq_def] at h
  split at h
  · obtain ⟨_, -, heq⟩ := Option.map_eq_some_iff.mp h
    cases heq
    exact .string _
  · obtain ⟨_, -, heq⟩ := Option.map_eq_some_iff.mp h
    cases heq
    exact .null
  · obtain ⟨_, -, heq⟩ := Option.map_eq_some_iff.mp h
    cases heq
    exact .bool _
  · obtain ⟨_, -, heq⟩ := Option.map_eq_some_iff.mp h
    cases heq
    exact .bool _
  · obtain ⟨_, -, heq⟩ := Option.map_eq_some_iff.mp h
    cases heq
    exact .number _

/-- What is read in so many steps. -/
structure ReadsDistinct (fuel : Nat) : Prop where
  value : ∀ depth chars value rest, readValue fuel depth .any chars = .ok (value, rest) → value.Distinct
  items : ∀ depth first acc chars value rest, (∀ item ∈ acc, item.Distinct) →
    readItems fuel depth first acc chars = .ok (value, rest) → value.Distinct
  members : ∀ depth first acc chars members rest, (∀ member ∈ acc, member.2.Distinct) →
    readMembers fuel depth (everyMember .any) first acc chars = .ok (members, rest) →
    ∀ member ∈ members, member.2.Distinct

theorem readsDistinct (fuel : Nat) : ReadsDistinct fuel := by
  induction fuel with
  | zero =>
    constructor
    case value =>
      intro depth chars value rest h
      rw [readValue] at h
      cases h
    case items =>
      intro depth first acc chars value rest _ h
      rw [readItems] at h
      cases h
    case members =>
      intro depth first acc chars members rest _ h
      rw [readMembers] at h
      cases h
  | succ fuel ih =>
    constructor
    case value =>
      intro depth chars value rest h
      rw [readValue.eq_def] at h
      dsimp only at h
      split at h
      · split at h
        · cases h
        · exact ih.items _ _ _ _ _ _ (by simp) h
      · split at h
        · cases h
        · split at h
          · next members _ hmembers =>
            cases h
            exact Value.distinct_ofMembers (ih.members _ _ _ _ _ _ (by simp) hmembers)
          · cases h
      · split at h
        · next hscalar =>
          cases h
          exact distinct_of_readScalar hscalar
        · cases h
      -- No other shape is that of any value.
      all_goals contradiction
    case items =>
      intro depth first acc chars value rest hacc h
      have hcons : ∀ {chars item after}, readValue fuel depth .any chars = .ok (item, after) →
          ∀ other ∈ item :: acc, other.Distinct := fun hread =>
        List.forall_mem_cons.mpr ⟨ih.value _ _ _ _ hread, hacc⟩
      rw [readItems.eq_def] at h
      dsimp only at h
      split at h
      · cases h
        exact .array (by simpa using hacc)
      · split at h
        · next hread => exact ih.items _ _ _ _ _ _ (hcons hread) h
        · cases h
      · cases h
        exact .array (by simpa using hacc)
      · split at h
        · next hread => exact ih.items _ _ _ _ _ _ (hcons hread) h
        · cases h
      · cases h
    case members =>
      intro depth first acc chars members rest hacc h
      rw [readMembers.eq_def] at h
      dsimp only at h
      split at h
      · split at h
        · cases h
          simpa using hacc
        · cases h
      · split at h
        · cases h
        · simp only [everyMember] at h
          split at h
          · split at h
            · next hread =>
              have hvalue := ih.value _ _ _ _ hread
              exact ih.members _ _ _ _ _ _ (List.forall_mem_cons.mpr ⟨hvalue, hacc⟩) h
            · cases h
          · cases h
      · cases h

end Reader

/-- Of a text every object is read with its names once. -/
theorem Value.distinct_of_parse? {text : String} {value : Value} (h : parse? text = some value) : value.Distinct := by
  rw [parse?, Shape.read] at h
  split at h
  · next hread =>
    split at h
    · cases h
      exact (Reader.readsDistinct _).value _ _ _ _ hread
    · cases h
  · cases h

end AggregateGateway.Json
