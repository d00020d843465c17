import AggregateGateway.Proofs.Json.Encoding
import AggregateGateway.Proofs.Json.RoundTrip
import AggregateGateway.Proofs.Map.History

/-!
Ordered maps that are decoded. The map is the one that the decoded members are collected to, in their order, whether or
not their names are distinct; it makes no difference if members of one name are brought together before, as they are
where a text is read. Main statement: however a map comes about and whatever is done to it, it shows its history; and
what is written of a map is read as the same map.
-/

namespace AggregateGateway

namespace OrderedMap

open Json

variable {V : Type} {decode : Value → Decoded V}

/-! ### Members and pairs -/

/-- A member, and its name with its decoded value. -/
def DecodesMember (decode : Value → Decoded V) (member : String × Value) (pair : String × V) : Prop :=
  pair.1 = member.1 ∧ decode member.2 = .ok pair.2

/-- A value, and the decoded pairs of its members in their order; `null` has none. -/
inductive DecodesPairs (decode : Value → Decoded V) : Value → List (String × V) → Prop
  | null : DecodesPairs decode .null []
  | object {members : List (String × Value)} {pairs : List (String × V)} :
      List.Forall₂ (DecodesMember decode) members pairs → DecodesPairs decode (.object members) pairs

/-- Decoding goes through if each member is decoded, and then the pairs are put one after another. -/
theorem foldlM_insert_eq_ok_iff {members : List (String × Value)} {acc m : OrderedMap V} :
    members.foldlM (fun m (key, value) => m.insert key <$> decode value) acc = .ok m ↔
      ∃ pairs, List.Forall₂ (DecodesMember decode) members pairs ∧
        m = pairs.foldl (fun m (key, value) => m.insert key value) acc := by
  induction members generalizing acc with
  | nil =>
    rw [List.foldlM_nil]
    constructor
    · rintro ⟨⟩
      exact ⟨[], .nil, rfl⟩
    · rintro ⟨pairs, hpairs, rfl⟩
      cases hpairs
      rfl
  | cons member members ih =>
    obtain ⟨key, value⟩ := member
    rw [List.foldlM_cons]
    dsimp only
    constructor
    · intro h
      cases hvalue : decode value with
      | error error =>
        rw [hvalue] at h
        cases h
      | ok x =>
        rw [hvalue] at h
        obtain ⟨pairs, hpairs, rfl⟩ := ih.mp h
        exact ⟨(key, x) :: pairs, .cons ⟨rfl, hvalue⟩ hpairs, rfl⟩
    · rintro ⟨pairs, hpairs, rfl⟩
      obtain ⟨⟨name, x⟩, pairs, ⟨hname, hvalue⟩, hrest, rfl⟩ := List.forall₂_cons_left_iff.mp hpairs
      obtain rfl : name = key := hname
      have hput : acc.insert name <$> decode value = .ok (acc.insert name x) := map_eq_ok.mpr ⟨x, hvalue, rfl⟩
      rw [bind_of_ok hput]
      exact ih.mpr ⟨pairs, hrest, rfl⟩

theorem decodeOrderedMap_eq_ok_iff {value : Value} {m : OrderedMap V} :
    value.decodeOrderedMap decode = .ok m ↔ ∃ pairs, DecodesPairs decode value pairs ∧ m = ofList pairs := by
  cases value with
  | null =>
    constructor
    · rintro ⟨⟩
      exact ⟨[], .null, rfl⟩
    · rintro ⟨pairs, ⟨⟩, rfl⟩
      rfl
  | object members =>
    rw [Value.decodeOrderedMap, foldlM_insert_eq_ok_iff]
    constructor
    · rintro ⟨pairs, hpairs, rfl⟩
      exact ⟨pairs, .object hpairs, rfl⟩
    · rintro ⟨pairs, hpairs, rfl⟩
      cases hpairs with
      | object hpairs => exact ⟨pairs, hpairs, rfl⟩
  | bool | number | string | array =>
    constructor
    · rintro ⟨⟩
    · rintro ⟨pairs, ⟨⟩, -⟩

/-! ### Names that come again -/

theorem forall₂_put {member : String × Value} {pair : String × V} (h : DecodesMember decode member pair)
    {members : List (String × Value)} {pairs : List (String × V)}
    (hrest : List.Forall₂ (DecodesMember decode) members pairs) :
    List.Forall₂ (DecodesMember decode) (Entries.put member.1 member.2 members) (Entries.put pair.1 pair.2 pairs) := by
  obtain ⟨name, value⟩ := member
  obtain ⟨_, x⟩ := pair
  obtain ⟨rfl, hvalue⟩ := h
  induction hrest with
  | nil => exact .cons ⟨rfl, hvalue⟩ .nil
  | @cons first other _ _ hfirst hrest ih =>
    obtain ⟨hname, hother⟩ := hfirst
    simp only [Entries.put, hname]
    split
    · exact .cons ⟨rfl, hvalue⟩ hrest
    · exact .cons ⟨rfl, hother⟩ ih

/-- Members of one name are brought together as their pairs are. -/
theorem forall₂_ofList {members : List (String × Value)} {pairs : List (String × V)}
    (h : List.Forall₂ (DecodesMember decode) members pairs) :
    List.Forall₂ (DecodesMember decode) (ofList members).entries (ofList pairs).entries := by
  have hfoldl : ∀ (entries : List (String × Value)) (others : List (String × V)),
      List.Forall₂ (DecodesMember decode) entries others → List.Forall₂ (DecodesMember decode)
        (members.foldl (fun entries (key, value) => Entries.put key value entries) entries)
        (pairs.foldl (fun entries (key, value) => Entries.put key value entries) others) := by
    induction h with
    | nil => exact fun _ _ hentries => hentries
    | cons hfirst _ ih => exact fun _ _ hentries => ih _ _ (forall₂_put hfirst hentries)
  rw [entries_ofList, entries_ofList]
  exact hfoldl [] [] .nil

theorem decodeOrderedMap_ofMembers {members : List (String × Value)} {pairs : List (String × V)}
    (h : List.Forall₂ (DecodesMember decode) members pairs) :
    (Value.ofMembers members).decodeOrderedMap decode = .ok (ofList pairs) := by
  rw [Value.ofMembers_eq, ← entries_ofList]
  exact decodeOrderedMap_eq_ok_iff.mpr ⟨_, .object (forall₂_ofList h), (ofList_entries (ofList pairs)).symm⟩

/-- A text of an object is decoded member by member, also where a name comes again. -/
theorem decodes_text {members : List (String × Value)} {pairs : List (String × V)}
    (hreadable : ∀ member ∈ members, member.2.Readable 126) (h : List.Forall₂ (DecodesMember decode) members pairs) :
    ∃ value, (Shape.fields .any).read (Value.object members).compact = .ok value ∧
      value.decodeOrderedMap decode = .ok (ofList pairs) :=
  ⟨.ofMembers members, Shape.read_compact_object hreadable, decodeOrderedMap_ofMembers h⟩

theorem forall₂_encode {encode : V → Value} {m : OrderedMap V} (h : ∀ x ∈ m.values, decode (encode x) = .ok x) :
    List.Forall₂ (DecodesMember decode) (m.entries.map fun (key, value) => (key, encode value)) m.entries := by
  rw [List.forall₂_map_left_iff, List.forall₂_same]
  exact fun entry hentry => ⟨rfl, h entry.2 (List.mem_map_of_mem hentry)⟩

/-! ### Main statement -/

/-- How a map comes about, and the pairs that are put for it one after another. -/
inductive Origin : OrderedMap V → List (String × V) → Prop
  | empty : Origin empty []
  | collected (pairs : List (String × V)) : Origin (ofList pairs) pairs
  | decoded {decode : Value → Decoded V} {value : Value} {m : OrderedMap V} {pairs : List (String × V)} :
      value.decodeOrderedMap decode = .ok m → DecodesPairs decode value pairs → Origin m pairs

theorem Origin.eq_ofList {m : OrderedMap V} {pairs : List (String × V)} (h : Origin m pairs) : m = ofList pairs := by
  cases h with
  | empty => rfl
  | collected => rfl
  | decoded hdecoded hpairs =>
    exact Except.ok.inj (hdecoded.symm.trans (decodeOrderedMap_eq_ok_iff.mpr ⟨pairs, hpairs, rfl⟩))

/-- What it takes for maps with values in `V` to be ordered by insertion. -/
structure InsertionOrdered (V : Type) : Prop where
  /-- However a map comes about and whatever is done to it, it shows its history. -/
  follows : ∀ {U : Type} {m : OrderedMap U} {pairs : List (String × U)}, Origin m pairs →
    ∀ edits : History U V, (edits.apply m).Follows ((History.ofPairs pairs).append edits)
  /-- An insertion gives the value that it replaces; a key that is there keeps its place, and any other goes last. -/
  inserts : ∀ (m : OrderedMap V) key value, m.getThenInsert? key value = (m.get? key, m.insert key value) ∧
    (m.insert key value).keys = if key ∈ m.keys then m.keys else m.keys ++ [key]
  maps : ∀ {W : Type} (m : OrderedMap V) (f : String → V → W), (m.map f).keys = m.keys ∧
    ∀ key, (m.map f).get? key = (m.get? key).map (f key)
  /-- A rule that counts its calls keeps no other entries than some rule on keys and values. -/
  filtersByPlace : ∀ (m : OrderedMap V) (rule : Nat → String → V → Bool), ∃ keep, (m.filter keep).entries =
    (m.entries.zipIdx.filter fun ((key, value), place) => rule place key value).map Prod.fst
  /-- A rule that counts its calls makes no other values than some rule on keys and values. -/
  mapsByPlace : ∀ {W : Type} (m : OrderedMap V) (rule : Nat → String → V → W), ∃ f, (m.map f).entries =
    m.entries.zipIdx.map fun ((key, value), place) => (key, rule place key value)
  /-- Of collected pairs, each key stands where it comes first, with the value that comes last. -/
  collects : ∀ pairs : List (String × V), (ofList pairs).keys = (Entries.keys pairs).eraseDups ∧
    ∀ key, (ofList pairs).get? key = pairs.reverse.lookup key
  decodesNull : ∀ decode : Value → Decoded V, Value.null.decodeOrderedMap decode = .ok empty
  /-- A map is decoded if every member is, and then it collects the members in their order. -/
  decodes : ∀ (decode : Value → Decoded V) value m, value.decodeOrderedMap decode = .ok m ↔
    ∃ pairs, DecodesPairs decode value pairs ∧ m = ofList pairs
  /-- So it is from a text, whether or not names come again. -/
  decodesText : ∀ (decode : Value → Decoded V) (members : List (String × Value)) (pairs : List (String × V)),
    (∀ member ∈ members, member.2.Readable 126) → List.Forall₂ (DecodesMember decode) members pairs →
    ∃ value, (Shape.fields .any).read (Value.object members).compact = .ok value ∧
      value.decodeOrderedMap decode = .ok (ofList pairs)
  /-- A map whose values are read back is read back in its order. -/
  readsBack : ∀ (decode : Value → Decoded V) (encode : V → Value) (m : OrderedMap V),
    (∀ x ∈ m.values, decode (encode x) = .ok x) → (m.encode encode).decodeOrderedMap decode = .ok m
  /-- So it is from its text, if that nests no deeper than a reader follows. -/
  readsBackText : ∀ (decode : Value → Decoded V) (encode : V → Value) (m : OrderedMap V),
    (∀ x ∈ m.values, decode (encode x) = .ok x) → (∀ x ∈ m.values, (encode x).Readable 126) →
    ∃ value, (Shape.fields .any).read (m.encode encode).compact = .ok value ∧
      value.decodeOrderedMap decode = .ok m

theorem insertion_order_is_kept (V : Type) : InsertionOrdered V where
  follows horigin edits := by
    rw [horigin.eq_ofList, ← History.apply_ofPairs, ← History.apply_append]
    exact History.follows_apply _
  inserts m key value := ⟨getThenInsert?_eq m key value, keys_insert_ite m key value⟩
  maps m f := ⟨keys_map m f, get?_map m f⟩
  filtersByPlace := exists_entries_filter
  mapsByPlace := exists_entries_map
  collects pairs := ⟨keys_ofList pairs, get?_ofList_eq_lookup_reverse pairs⟩
  decodesNull _ := rfl
  decodes _ _ _ := decodeOrderedMap_eq_ok_iff
  decodesText _ _ _ := decodes_text
  readsBack _ _ m hvalues :=
    decodeOrderedMap_eq_ok_iff.mpr ⟨m.entries, .object (forall₂_encode hvalues), m.ofList_entries.symm⟩
  readsBackText decode encode m hvalues hreadable := by
    have hmembers : ∀ member ∈ m.entries.map fun (key, value) => (key, encode value), member.2.Readable 126 := by
      intro member hmember
      obtain ⟨entry, hentry, rfl⟩ := List.mem_map.mp hmember
      exact hreadable entry.2 (List.mem_map_of_mem hentry)
    have htext := decodes_text hmembers (forall₂_encode hvalues)
    rwa [m.ofList_entries] at htext

/-- A map from a text with a name that comes again; the key is removed, and then it is put behind the other one. -/
theorem removed_key_returns_last :
    let members : List (String × Value) := [("b", .string "1"), ("a", .string "2"), ("b", .string "3")]
    let pairs := [("b", "1"), ("a", "2"), ("b", "3")]
    let edits : History String String :=
      (History.start.step (.filter fun key _ => key ≠ "b")).step (.insert "b" "4")
    let m : OrderedMap String := ofList pairs
    m.entries = [("b", "3"), ("a", "2")] ∧ (edits.apply m).entries = [("a", "2"), ("b", "4")] ∧
      (edits.apply m).Follows ((History.ofPairs pairs).append edits) ∧
      (∃ value, (Shape.fields .any).read (Value.object members).compact = .ok value ∧
        value.decodeOrderedMap Value.decodeString = .ok m) ∧
      (m.encode .string).decodeOrderedMap Value.decodeString = .ok m ∧
      ∃ value, (Shape.fields .any).read (m.encode .string).compact = .ok value ∧
        value.decodeOrderedMap Value.decodeString = .ok m := by
  intro members pairs edits m
  have hpairs : List.Forall₂ (DecodesMember Value.decodeString) members pairs :=
    .cons ⟨rfl, rfl⟩ (.cons ⟨rfl, rfl⟩ (.cons ⟨rfl, rfl⟩ .nil))
  have hdecoded : (Value.object members).decodeOrderedMap Value.decodeString = .ok m :=
    ((insertion_order_is_kept String).decodes _ _ _).mpr ⟨pairs, .object hpairs, rfl⟩
  have hreadable : ∀ member ∈ members, member.2.Readable 126 := by
    simp only [members, List.forall_mem_cons]
    exact ⟨.string "1", .string "2", .string "3", nofun⟩
  exact ⟨by decide +kernel, by decide +kernel,
    (insertion_order_is_kept String).follows (.decoded hdecoded (.object hpairs)) edits,
    (insertion_order_is_kept String).decodesText _ members pairs hreadable hpairs,
    (insertion_order_is_kept String).readsBack _ _ m fun _ _ => rfl,
    (insertion_order_is_kept String).readsBackText _ _ m (fun _ _ => rfl) fun x _ => .string x⟩

end OrderedMap

end AggregateGateway
