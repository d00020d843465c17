import AggregateGateway.Json.Value
import AggregateGateway.Proofs.Map.OrderedMap

/-!
Paths of names through JSON values. A path leads from object to object; it is lost where a value that is no object
stands in its way or an object has no member of the next name.
-/

namespace AggregateGateway.Json

namespace Value

theorem isNull_iff {value : Value} : value.isNull = true ↔ value = .null := by
  cases value <;> simp [isNull]

theorem isNull_eq_false_iff {value : Value} : value.isNull = false ↔ value ≠ .null := by
  rw [Ne, ← isNull_iff, Bool.not_eq_true]

/-! ### Paths -/

/-- `value.At path found`: from `value`, the names of `path` lead to `found`. -/
inductive At : Value → List String → Value → Prop
  | here {value : Value} : At value [] value
  | member {members : List (String × Value)} {name : String} {path : List String} {value found : Value} :
      members.lookup name = some value → At value path found → At (.object members) (name :: path) found

/-- `value.Loses path`: from `value`, the names of `path` lead nowhere. -/
inductive Loses : Value → List String → Prop
  | notObject {value : Value} {name : String} {path : List String} :
      (∀ members, value ≠ .object members) → Loses value (name :: path)
  | missing {members : List (String × Value)} {name : String} {path : List String} :
      members.lookup name = none → Loses (.object members) (name :: path)
  | later {members : List (String × Value)} {name : String} {path : List String} {value : Value} :
      members.lookup name = some value → Loses value path → Loses (.object members) (name :: path)

variable {value found : Value} {name : String} {path : List String}

theorem get?_eq_some_iff : value.get? name = some found ↔
    ∃ members, value = .object members ∧ members.lookup name = some found := by
  cases value <;> simp [get?]

@[simp] theorem at_nil_iff : value.At [] found ↔ found = value := by
  constructor
  · rintro ⟨⟩
    rfl
  · rintro rfl
    exact .here

theorem at_cons_iff : value.At (name :: path) found ↔ ∃ inner, value.get? name = some inner ∧ inner.At path found := by
  constructor
  · rintro ⟨⟩
    exact ⟨_, ‹_›, ‹_›⟩
  · rintro ⟨inner, hget, hat⟩
    obtain ⟨members, rfl, hlookup⟩ := get?_eq_some_iff.mp hget
    exact .member hlookup hat

theorem bind_get?_eq_some_iff {outer inner : String} :
    (value.get? outer).bind (get? inner) = some found ↔ value.At [outer, inner] found := by
  simp [at_cons_iff, Option.bind_eq_some_iff]

theorem At.append {inner : Value} {rest : List String} (h : value.At path inner) (h' : inner.At rest found) :
    value.At (path ++ rest) found := by
  induction h with
  | here => exact h'
  | member hlookup _ ih => exact .member hlookup (ih h')

/-- A path leads to one value at most. -/
theorem At.unique {other : Value} (h : value.At path found) (h' : value.At path other) : found = other := by
  induction h with
  | here => exact (at_nil_iff.mp h').symm
  | member hlookup _ ih =>
    obtain ⟨inner, hget, hat⟩ := at_cons_iff.mp h'
    cases hlookup.symm.trans hget
    exact ih hat

theorem At.same_iff {first second : Value} (h : first.At path found) (h' : second.At path found) (other : Value) :
    first.At path other ↔ second.At path other := by
  constructor
  · intro hat
    rwa [hat.unique h]
  · intro hat
    rwa [hat.unique h']

theorem Loses.not_at (h : value.Loses path) : ¬value.At path found := by
  induction h with
  | notObject hne =>
    rintro ⟨⟩
    exact hne _ rfl
  | missing hlookup =>
    intro hat
    obtain ⟨inner, hget, -⟩ := at_cons_iff.mp hat
    cases hlookup.symm.trans hget
  | later hlookup _ ih =>
    intro hat
    obtain ⟨inner, hget, hat⟩ := at_cons_iff.mp hat
    cases hlookup.symm.trans hget
    exact ih hat

theorem exists_at_or_loses (value : Value) (path : List String) :
    (∃ found, value.At path found) ∨ value.Loses path := by
  induction path generalizing value with
  | nil => exact .inl ⟨value, .here⟩
  | cons name path ih =>
    cases value with
    | object members =>
      cases hlookup : members.lookup name with
      | none => exact .inr (.missing hlookup)
      | some inner =>
        rcases ih inner with ⟨found, hat⟩ | hloses
        · exact .inl ⟨found, .member hlookup hat⟩
        · exact .inr (.later hlookup hloses)
    | null | bool _ | number _ | string _ | array _ => exact .inr (.notObject nofun)

theorem loses_iff : value.Loses path ↔ ∀ found, ¬value.At path found := by
  constructor
  · exact fun h found => h.not_at
  · intro h
    exact (exists_at_or_loses value path).resolve_left fun ⟨found, hat⟩ => h found hat

/-! ### Objects -/

def IsObject (value : Value) : Prop := ∃ members, value = .object members

/-- No object in the value has two members of one name. -/
inductive Distinct : Value → Prop
  | null : Distinct .null
  | bool (value : Bool) : Distinct (.bool value)
  | number (value : Number) : Distinct (.number value)
  | string (text : String) : Distinct (.string text)
  | array {items : List Value} : (∀ item ∈ items, Distinct item) → Distinct (.array items)
  | object {members : List (String × Value)} : (members.map Prod.fst).Nodup →
      (∀ member ∈ members, Distinct member.2) → Distinct (.object members)

@[simp] theorem distinct_string (text : String) : (Value.string text).Distinct := .string text

@[simp] theorem distinct_object_iff {members : List (String × Value)} : (Value.object members).Distinct ↔
    (Entries.keys members).Nodup ∧ ∀ member ∈ members, member.2.Distinct := by
  constructor
  · rintro ⟨⟩
    exact ⟨‹_›, ‹_›⟩
  · exact fun ⟨hnames, hvalues⟩ => .object hnames hvalues

theorem Distinct.nodup_names {members : List (String × Value)} (h : (Value.object members).Distinct) :
    (Entries.keys members).Nodup :=
  (distinct_object_iff.mp h).1

theorem Distinct.of_get? (h : value.Distinct) (hget : value.get? name = some found) : found.Distinct := by
  obtain ⟨members, rfl, hlookup⟩ := get?_eq_some_iff.mp hget
  cases h with
  | object hnames hvalues => exact hvalues _ ((Entries.lookup_eq_some_iff hnames).mp hlookup)

theorem At.distinct (h : value.At path found) (hdistinct : value.Distinct) : found.Distinct := by
  induction h with
  | here => exact hdistinct
  | member hlookup _ ih => exact ih (hdistinct.of_get? hlookup)

end Value

end AggregateGateway.Json
