import AggregateGateway.Map.SortedMap
import AggregateGateway.Proofs.Map.OrderedMap

/-!
Sorted maps through their look-up: a value is found where it was put, and everything else is found as before. A map that
is collected from its own entries is the same map.
-/

namespace AggregateGateway

universe u

theorem Entries.lookup_putSorted {V : Type u} (key k : String) (value : V) (entries : List (String × V)) :
    (putSorted key value entries).lookup k = if k = key then some value else entries.lookup k := by
  induction entries with
  | nil => rw [putSorted, lookup_cons_ite]
  | cons entry rest ih =>
    obtain ⟨k', v⟩ := entry
    rw [putSorted]
    split
    · next heq =>
      -- The new value stands in place of the old one.
      subst heq
      rw [lookup_cons_ite, lookup_cons_ite]
      split <;> rfl
    · next hne =>
      split
      · rw [lookup_cons_ite]
      · rw [lookup_cons_ite, lookup_cons_ite, ih]
        by_cases hk : k = k'
        · subst hk
          simp [hne]
        · simp [hk]

theorem Entries.putSorted_of_lt {V : Type u} {key : String} {entries : List (String × V)}
    (h : ∀ k ∈ keys entries, k < key) (value : V) : putSorted key value entries = entries ++ [(key, value)] := by
  induction entries with
  | nil => rfl
  | cons entry entries ih =>
    obtain ⟨k, v⟩ := entry
    obtain ⟨hk, hrest⟩ := List.forall_mem_cons.mp h
    have hne : k ≠ key := by
      rintro rfl
      exact String.lt_irrefl k hk
    have hnlt : ¬key < k := fun hlt => String.lt_irrefl k (String.lt_trans hk hlt)
    rw [putSorted, if_neg hne, if_neg hnlt, ih hrest, List.cons_append]

/-- Pairs whose keys ascend behind those of the entries are put there in their order. -/
theorem Entries.foldl_putSorted_of_ascending {V : Type u} {pairs entries : List (String × V)}
    (h : Ascending (entries ++ pairs)) :
    pairs.foldl (fun entries (key, value) => putSorted key value entries) entries = entries ++ pairs := by
  induction pairs generalizing entries with
  | nil => simp
  | cons pair pairs ih =>
    obtain ⟨key, value⟩ := pair
    have hlt : ∀ k ∈ keys entries, k < key := by
      intro k hk
      rw [Ascending, List.map_append, List.map_cons] at h
      exact (List.pairwise_append.mp h).2.2 k hk key List.mem_cons_self
    have hrest := @ih (entries ++ [(key, value)]) (by simpa using h)
    rw [List.foldl_cons]
    simp only [putSorted_of_lt hlt, hrest, List.append_assoc, List.singleton_append]

namespace SortedMap

variable {V : Type u}

@[simp] theorem get?_empty (key : String) : (empty : SortedMap V).get? key = none := rfl

theorem get?_insert (m : SortedMap V) (key k : String) (value : V) :
    (m.insert key value).get? k = if k = key then some value else m.get? k :=
  Entries.lookup_putSorted key k value m.entries

theorem entries_foldl_insert (pairs : List (String × V)) (m : SortedMap V) :
    (pairs.foldl (fun m (key, value) => m.insert key value) m).entries =
      pairs.foldl (fun entries (key, value) => Entries.putSorted key value entries) m.entries := by
  induction pairs generalizing m with
  | nil => rfl
  | cons pair pairs ih => exact ih _

/-- The entries of a map, collected again. -/
theorem ofList_entries (m : SortedMap V) : ofList m.entries = m := by
  apply SortedMap.ext
  rw [ofList, entries_foldl_insert]
  exact Entries.foldl_putSorted_of_ascending m.ascending

@[simp] theorem get?_single (key : String) (value : V) : (single key value).get? key = some value := by
  rw [single, get?_insert, if_pos rfl]

end SortedMap

end AggregateGateway
