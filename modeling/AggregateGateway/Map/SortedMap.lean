/-!
Maps whose entries are sorted by key. The order of insertion leaves no trace: two sorted maps with the same values
under the same keys are equal.
-/

namespace AggregateGateway

universe u

/-- Puts a value under a key at the place that the order of keys gives it. -/
def Entries.putSorted {V : Type u} (key : String) (value : V) : List (String × V) → List (String × V)
  | [] => [(key, value)]
  | (k, v) :: rest =>
    if k = key then (key, value) :: rest
    else if key < k then (key, value) :: (k, v) :: rest
    else (k, v) :: Entries.putSorted key value rest

/-- Entries in strictly ascending order of their keys. -/
abbrev Entries.Ascending {V : Type u} (entries : List (String × V)) : Prop :=
  (entries.map Prod.fst).Pairwise (· < ·)

theorem Entries.mem_keys_putSorted {V : Type u} {key k : String} {value : V} {entries : List (String × V)}
    (h : k ∈ (Entries.putSorted key value entries).map Prod.fst) : k = key ∨ k ∈ entries.map Prod.fst := by
  induction entries with
  | nil => simpa [Entries.putSorted] using h
  | cons entry rest ih =>
    simp only [Entries.putSorted] at h
    split at h
    · simp at h; rcases h with h | h <;> simp_all
    · split at h
      · simpa using h
      · simp only [List.map_cons, List.mem_cons] at h ⊢
        rcases h with h | h
        · exact .inr (.inl h)
        · rcases ih h with h | h
          · exact .inl h
          · exact .inr (.inr h)

theorem Entries.ascending_putSorted {V : Type u} {key : String} {value : V} {entries : List (String × V)}
    (h : Entries.Ascending entries) : Entries.Ascending (Entries.putSorted key value entries) := by
  induction entries with
  | nil => simp [Entries.putSorted, Entries.Ascending]
  | cons entry rest ih =>
    obtain ⟨k, v⟩ := entry
    obtain ⟨hk, hrest⟩ := List.pairwise_cons.mp h
    simp only [Entries.putSorted]
    split
    · next e => subst e; exact h
    · next ne =>
      split
      · next lt =>
        refine List.pairwise_cons.mpr ⟨fun k' hk' => ?_, h⟩
        rcases List.mem_cons.mp hk' with rfl | hk'
        · exact lt
        · exact String.lt_trans lt (hk k' hk')
      · next nlt =>
        have lt : k < key := by
          rcases Decidable.em (k < key) with lt | nlt'
          · exact lt
          · exact absurd (String.le_antisymm (String.not_lt.mp nlt) (String.not_lt.mp nlt')) ne
        refine List.pairwise_cons.mpr ⟨fun k' hk' => ?_, ih hrest⟩
        rcases Entries.mem_keys_putSorted hk' with rfl | hk'
        · exact lt
        · exact hk k' hk'

/-- A map with text keys, sorted by key. -/
structure SortedMap (V : Type u) where
  entries : List (String × V)
  ascending : Entries.Ascending entries
deriving DecidableEq, Repr

namespace SortedMap

variable {V : Type u}

@[ext] theorem ext {a b : SortedMap V} (h : a.entries = b.entries) : a = b := by
  cases a; cases b; cases h; rfl

/-- The map without entries. -/
def empty : SortedMap V := ⟨[], .nil⟩

instance : Inhabited (SortedMap V) := ⟨empty⟩

def keys (m : SortedMap V) : List String := m.entries.map Prod.fst

/-- The value under a key. -/
def get? (m : SortedMap V) (key : String) : Option V := m.entries.lookup key

/-- Puts a value under a key, replacing the one that was there. -/
def insert (m : SortedMap V) (key : String) (value : V) : SortedMap V :=
  ⟨Entries.putSorted key value m.entries, Entries.ascending_putSorted m.ascending⟩

/-- The map with a single entry. -/
def single (key : String) (value : V) : SortedMap V := empty.insert key value

/-- Collects pairs; of a repeated key the last value counts. -/
def ofList (pairs : List (String × V)) : SortedMap V := pairs.foldl (fun m (key, value) => m.insert key value) empty

end SortedMap

end AggregateGateway
