import AggregateGateway.Model.Field
import AggregateGateway.Proofs.Json.Record
import AggregateGateway.Proofs.Map.SortedMap

/-!
Decoding undoes encoding: lists, maps and records from their parts. Maps are read back in their order, for an ordered
map puts every new key last, and so does a sorted map whose keys come in ascending order. The members that are written
of a record stand in the order of its fields, and reading them sets one field after another; a field whose member is
left out keeps the value of the blank record, which is the value that it was left out for.
-/

namespace AggregateGateway

open Json

/-! ### Lists and maps -/

namespace Json

/-- Every value is read back from its form. -/
def Undoes {α : Type} (decode : Value → Decoded α) (encode : α → Value) : Prop := ∀ x, decode (encode x) = .ok x

variable {α β : Type} {decode : Value → Decoded α} {encode : α → Value}

/-- Members that are forms of values are collected as the values are. -/
theorem foldlM_forms (h : Undoes decode encode) (collect : β → String → α → β) (pairs : List (String × α)) (acc : β) :
    (pairs.map fun (key, x) => (key, encode x)).foldlM
        (fun acc (key, value) => collect acc key <$> decode value) acc =
      (.ok (pairs.foldl (fun acc (key, x) => collect acc key x) acc) : Decoded β) := by
  induction pairs generalizing acc with
  | nil => rfl
  | cons pair pairs ih =>
    obtain ⟨key, x⟩ := pair
    rw [List.map_cons, List.foldlM_cons, List.foldl_cons]
    dsimp only
    rw [h]
    exact ih _

theorem decodeOrderedMap_encode (h : Undoes decode encode) :
    Undoes (Value.decodeOrderedMap decode) (OrderedMap.encode encode) := by
  intro m
  rw [OrderedMap.encode, Value.decodeOrderedMap, foldlM_forms h OrderedMap.insert]
  exact congrArg Except.ok m.ofList_entries

/-- The members of an object as they are. -/
theorem decodeOrderedMap_entries (m : OrderedMap Value) : (Value.object m.entries).decodeOrderedMap .ok = .ok m := by
  have hmembers : m.encode id = .object m.entries := congrArg Value.object (List.map_id m.entries)
  rw [← hmembers]
  exact decodeOrderedMap_encode (fun _ => rfl) m

theorem decodeSortedMap_encode (h : Undoes decode encode) :
    Undoes (Value.decodeSortedMap decode) (SortedMap.encode encode) := by
  intro m
  rw [SortedMap.encode, Value.decodeSortedMap, foldlM_forms h SortedMap.insert]
  exact congrArg Except.ok m.ofList_entries

theorem Value.decodeList_encode (h : Undoes decode encode) (xs : List α) :
    decodeList decode (.array (xs.map encode)) = .ok xs := by
  rw [decodeList]
  induction xs with
  | nil => rfl
  | cons x xs ih =>
    rw [List.map_cons, List.mapM_cons, h, ih]
    rfl

/-! ### Values that may be missing -/

theorem decodeOption_ofString? (text : Option String) :
    (Value.ofString? text).decodeOption Value.decodeString = .ok text := by
  cases text <;> rfl

theorem decodeOption_encode (h : Undoes decode encode) (hnull : ∀ x, encode x ≠ .null) (x : α) :
    (encode x).decodeOption decode = .ok (some x) := by
  have hsome : (encode x).decodeOption decode = some <$> decode (encode x) := by
    rw [Value.decodeOption.eq_2]
    exact hnull x
  rw [hsome, h]
  rfl

theorem bind_of_ok {decoded : Decoded α} {x : α} (h : decoded = .ok x) (next : α → Decoded β) :
    decoded >>= next = next x := by
  rw [h]
  rfl

/-! ### Records -/

namespace Record

variable {record : Record α}

/-- `Sets acc fields members x`: the members are for fields among the given ones, in their order, and setting these
leads from `acc` to `x`; only fields that need not be there are left out. -/
inductive Sets : α → List (Field α) → List (String × Value) → α → Prop
  | nil {acc : α} : Sets acc [] [] acc
  | set {acc next x : α} {field : Field α} {fields : List (Field α)} {value : Value} {members : List (String × Value)} :
      field.set acc value = .ok next → Sets next fields members x →
      Sets acc (field :: fields) ((field.name, value) :: members) x
  | skip {acc x : α} {field : Field α} {fields : List (Field α)} {members : List (String × Value)} :
      field.required = false → Sets acc fields members x → Sets acc (field :: fields) members x

variable {acc x : α} {fields : List (Field α)} {members : List (String × Value)}

/-- A member that is left out for nothing. -/
theorem Sets.setOption {field : Field α} {encode : β → Value} {value? : Option β} (put : Option β → α)
    (hoptional : field.required = false) (hset : ∀ value, field.set (put none) (encode value) = .ok (put (some value)))
    (hrest : Sets (put value?) fields members x) :
    Sets (put none) (field :: fields) ((value?.map fun value => (field.name, encode value)).toList ++ members) x := by
  cases value? with
  | none => exact .skip hoptional hrest
  | some value => exact .set (hset value) hrest

theorem Sets.foldlM_eq (h : Sets acc fields members x) (hnames : (record.fields.map (·.name)).Nodup)
    (hfields : ∀ field ∈ fields, field ∈ record.fields) : members.foldlM record.setMember acc = .ok x := by
  induction h with
  | nil => rfl
  | @set acc next x field fields value members hset _ ih =>
    obtain ⟨hfield, hrest⟩ := List.forall_mem_cons.mp hfields
    have hmember : record.setMember acc (field.name, value) = .ok next := by
      rw [setMember, find?_name hnames hfield]
      exact hset
    rw [List.foldlM_cons, hmember]
    exact ih hrest
  | skip _ _ ih => exact ih (List.forall_mem_cons.mp hfields).2

theorem Sets.mem_names (h : Sets acc fields members x) {field : Field α} (hfield : field ∈ fields)
    (hrequired : field.required = true) : field.name ∈ Entries.keys members := by
  induction h with
  | nil => cases hfield
  | set _ _ ih =>
    rcases List.mem_cons.mp hfield with rfl | hrest
    · exact List.mem_cons_self
    · exact List.mem_cons_of_mem _ (ih hrest)
  | skip hoptional _ ih =>
    rcases List.mem_cons.mp hfield with rfl | hrest
    · rw [hoptional] at hrequired
      cases hrequired
    · exact ih hrest

/-- Members in the order of the fields are read one after another. -/
theorem decode_of_sets (hnames : (record.fields.map (·.name)).Nodup)
    (h : Sets record.blank record.fields members x) : record.decode (.object members) = .ok x := by
  have hpresent : record.fields.find? (fun field => field.required && (members.lookup field.name).isNone) = none := by
    rw [List.find?_eq_none]
    intro field hfield hmissing
    obtain ⟨hrequired, hnone⟩ := Bool.and_eq_true_iff.mp hmissing
    exact Entries.lookup_eq_none_iff.mp (Option.isNone_iff_eq_none.mp hnone) (h.mem_names hfield hrequired)
  rw [decode, h.foldlM_eq hnames fun _ hfield => hfield, Except.bind, hpresent]

/-- Without a member for a field that must be there, no object is read. -/
theorem toOption_decode_of_missing {field : Field α} (hfield : field ∈ record.fields) (hrequired : field.required = true)
    (hmissing : members.lookup field.name = none) : (record.decode (.object members)).toOption = none := by
  rw [decode]
  cases members.foldlM record.setMember record.blank with
  | error error => rfl
  | ok result =>
    rw [Except.bind]
    cases hfind : record.fields.find? fun field => field.required && (members.lookup field.name).isNone with
    | some other => rfl
    | none =>
      have hpresent := List.find?_eq_none.mp hfind field hfield
      rw [hrequired, hmissing] at hpresent
      exact absurd rfl hpresent

end Record

end Json

end AggregateGateway
