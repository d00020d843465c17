import Mathlib.Data.List.Basic
import Mathlib.Data.List.Induction
import AggregateGateway.Schema.Overlay

/-!
Ordered maps through their look-up. Every operation has one lemma on `get?`, and laying a map over another one also
has its list of entries: those of the fixed side in their order, then what only the declared side has.
-/

namespace AggregateGateway

universe u v w

/-! ### Entries -/

namespace Entries

variable {V : Type u} {W : Type v}

theorem lookup_cons_ite {K : Type v} [BEq K] [LawfulBEq K] [DecidableEq K] (k key : K) (value : V)
    (rest : List (K × V)) : List.lookup k ((key, value) :: rest) = if k = key then some value else rest.lookup k := by
  by_cases h : k = key
  · subst h
    simp
  · rw [List.lookup_cons, beq_eq_false_iff_ne.mpr h, if_neg h]

theorem lookup_put (key k : String) (value : V) (entries : List (String × V)) :
    (put key value entries).lookup k = if k = key then some value else entries.lookup k := by
  induction entries with
  | nil => rw [put, lookup_cons_ite]
  | cons entry rest ih =>
    obtain ⟨k', v⟩ := entry
    by_cases hk : k' = key
    · subst hk
      simp only [put, if_true, lookup_cons_ite]
      split <;> rfl
    · rw [put, if_neg hk, lookup_cons_ite, lookup_cons_ite, ih]
      by_cases h : k = k'
      · subst h
        simp [hk]
      · simp [h]

theorem exchange_fst (key : String) (value : V) (entries : List (String × V)) :
    (exchange key value entries).1 = entries.lookup key := by
  induction entries with
  | nil => rfl
  | cons entry rest ih =>
    obtain ⟨k, v⟩ := entry
    rw [lookup_cons_ite]
    by_cases hk : k = key
    · simp [exchange, hk]
    · simp [exchange, hk, Ne.symm hk, ih]

theorem put_of_not_mem {key : String} {entries : List (String × V)} (h : key ∉ keys entries) (value : V) :
    put key value entries = entries ++ [(key, value)] := by
  induction entries with
  | nil => rfl
  | cons entry rest ih =>
    simp only [keys, List.map_cons, List.mem_cons, not_or] at h
    rw [put, if_neg (Ne.symm h.1), ih h.2, List.cons_append]

/-- Pairs with new and distinct keys are put behind the entries in their order. -/
theorem foldl_put_of_nodup {pairs entries : List (String × V)} (h : (keys (entries ++ pairs)).Nodup) :
    pairs.foldl (fun entries (key, value) => put key value entries) entries = entries ++ pairs := by
  induction pairs generalizing entries with
  | nil => simp
  | cons pair pairs ih =>
    obtain ⟨key, value⟩ := pair
    have hnot : key ∉ keys entries := by
      intro hmem
      rw [keys, List.map_append, List.map_cons] at h
      exact (List.nodup_append.mp h).2.2 _ hmem _ List.mem_cons_self rfl
    have hrest := @ih (entries ++ [(key, value)]) (by simpa using h)
    rw [List.foldl_cons]
    simp only [put_of_not_mem hnot, hrest, List.append_assoc, List.singleton_append]

/-- The last value that is put under a key is found. -/
theorem lookup_foldl_put (pairs entries : List (String × V)) (k : String) :
    (pairs.foldl (fun entries (key, value) => put key value entries) entries).lookup k =
      (pairs.reverse.lookup k).or (entries.lookup k) := by
  induction pairs using List.reverseRecOn with
  | nil => rfl
  | append_singleton pairs pair ih =>
    obtain ⟨key, value⟩ := pair
    rw [List.foldl_append, List.foldl_cons, List.foldl_nil, lookup_put, ih, List.reverse_concat, lookup_cons_ite]
    split <;> rfl

/-- Keys stand in the order in which they are put first. -/
theorem keys_foldl_put (pairs : List (String × V)) :
    keys (pairs.foldl (fun entries (key, value) => put key value entries) []) = (keys pairs).eraseDups := by
  induction pairs using List.reverseRecOn with
  | nil => rfl
  | append_singleton pairs pair ih =>
    obtain ⟨key, value⟩ := pair
    have hkeys : keys (pairs ++ [(key, value)]) = keys pairs ++ [key] := List.map_append
    rw [List.foldl_append, List.foldl_cons, List.foldl_nil, keys_put, ih, hkeys, List.eraseDups_append]
    by_cases hkey : key ∈ keys pairs
    · rw [if_pos (List.mem_eraseDups.mpr hkey)]
      simp [List.removeAll, hkey]
    · rw [if_neg (fun h => hkey (List.mem_eraseDups.mp h))]
      simp [List.removeAll, hkey, List.eraseDups_cons]

theorem lookup_map (f : String → V → W) (k : String) (entries : List (String × V)) :
    (entries.map fun (key, value) => (key, f key value)).lookup k = (entries.lookup k).map (f k) := by
  induction entries with
  | nil => rfl
  | cons entry rest ih =>
    obtain ⟨k', v⟩ := entry
    rw [List.map_cons, lookup_cons_ite, lookup_cons_ite, ih]
    by_cases h : k = k'
    · subst h
      simp
    · simp [h]

theorem map_put (f : String → V → W) (key : String) (value : V) (entries : List (String × V)) :
    (put key value entries).map (fun (k, v) => (k, f k v)) =
      put key (f key value) (entries.map fun (k, v) => (k, f k v)) := by
  induction entries with
  | nil => rfl
  | cons entry rest ih =>
    obtain ⟨k, v⟩ := entry
    by_cases h : k = key
    · subst h
      simp [put]
    · simp [put, h, ih]

theorem lookup_eq_none_iff {entries : List (String × V)} {k : String} : entries.lookup k = none ↔ k ∉ keys entries := by
  rw [List.lookup_eq_none_iff, List.mem_map]
  constructor
  · rintro h ⟨entry, he, rfl⟩
    exact bne_iff_ne.mp (h entry he) rfl
  · intro h entry he
    exact bne_iff_ne.mpr fun heq => h ⟨entry, he, heq.symm⟩

/-- With distinct keys the look-up finds every entry. -/
theorem lookup_eq_some_iff {entries : List (String × V)} (h : (keys entries).Nodup) {k : String} {v : V} :
    entries.lookup k = some v ↔ (k, v) ∈ entries := by
  induction entries with
  | nil => simp
  | cons entry rest ih =>
    obtain ⟨k', v'⟩ := entry
    obtain ⟨hk', hrest⟩ := List.nodup_cons.mp h
    rw [lookup_cons_ite]
    by_cases hk : k = k'
    · subst hk
      have hnot : (k, v) ∉ rest := fun hm => hk' (List.mem_map.mpr ⟨(k, v), hm, rfl⟩)
      simp [hnot, eq_comm]
    · rw [if_neg hk, ih hrest]
      simp [hk]

/-- Entries of which some are kept, each under its key, have distinct keys if they had. -/
theorem nodup_keys_filterMap {entries : List (String × V)} (h : (keys entries).Nodup)
    {f : String × V → Option (String × W)} (hf : ∀ entry kept, f entry = some kept → kept.1 = entry.1) :
    (keys (entries.filterMap f)).Nodup := by
  rw [keys, List.Nodup, List.pairwise_map, List.pairwise_filterMap]
  apply (List.pairwise_map.mp h).imp
  intro entry other hne kept hkept kept' hkept'
  rw [hf entry kept hkept, hf other kept' hkept']
  exact hne

/-- Entries whose keys stand in a list without repetition are found again in the order of the list. -/
theorem filterMap_lookup {keys : List String} (hkeys : keys.Nodup) {entries : List (String × V)}
    (h : (entries.map Prod.fst).Sublist keys) :
    (keys.filterMap fun key => (entries.lookup key).map fun value => (key, value)) = entries := by
  induction keys generalizing entries with
  | nil =>
    rw [List.map_eq_nil_iff.mp (List.sublist_nil.mp h)]
    rfl
  | cons key keys ih =>
    obtain ⟨hnot, hnodup⟩ := List.nodup_cons.mp hkeys
    cases entries with
    | nil => exact ih hnodup (List.nil_sublist keys)
    | cons entry rest =>
      obtain ⟨k, v⟩ := entry
      -- The first key of the list is missing, or it is that of the first entry.
      rcases List.sublist_cons_iff.mp h with h | ⟨_, heq, h⟩
      · have hnone : List.lookup key ((k, v) :: rest) = none :=
          lookup_eq_none_iff.mpr fun hm => hnot (h.subset hm)
        rw [List.filterMap_cons_none (by rw [hnone]; rfl)]
        exact ih hnodup h
      · obtain ⟨rfl, rfl⟩ := List.cons.inj heq
        rw [List.filterMap_cons_some (b := (k, v)) (by rw [lookup_cons_ite, if_pos rfl]; rfl)]
        congr 1
        have hrest : ∀ key ∈ keys, List.lookup key ((k, v) :: rest) = rest.lookup key := by
          intro key hk
          have hne : key ≠ k := by
            rintro rfl
            exact hnot hk
          rw [lookup_cons_ite, if_neg hne]
        rw [List.filterMap_congr fun key hk => by rw [hrest key hk]]
        exact ih hnodup h

/-! ### One list of keys behind another -/

/-- Keys in their order, and behind them those that only a second list has. -/
def keysThen (first second : List String) : List String := first ++ second.filter fun key => key ∉ first

theorem mem_keysThen {first second : List String} {key : String} :
    key ∈ keysThen first second ↔ key ∈ first ∨ key ∈ second := by
  rw [keysThen, List.mem_append, List.mem_filter, decide_eq_true_iff]
  by_cases hfirst : key ∈ first <;> simp [hfirst]

@[simp] theorem nil_keysThen (keys : List String) : keysThen [] keys = keys := by
  simp [keysThen]

@[simp] theorem keysThen_nil (keys : List String) : keysThen keys [] = keys :=
  List.append_nil keys

theorem keysThen_of_subset {first second : List String} (h : ∀ key ∈ second, key ∈ first) :
    keysThen first second = first := by
  have hnone : second.filter (fun key => key ∉ first) = [] :=
    List.filter_eq_nil_iff.mpr fun key hkey => by simpa using h key hkey
  rw [keysThen, hnone, List.append_nil]

theorem keysThen_assoc (first second third : List String) :
    keysThen (keysThen first second) third = keysThen first (keysThen second third) := by
  have hthird : ∀ key, decide (key ∉ keysThen first second) = (decide (key ∉ first) && decide (key ∉ second)) := by
    intro key
    simp only [mem_keysThen, not_or, Bool.decide_and]
  calc keysThen (keysThen first second) third
      = first ++ second.filter (fun key => key ∉ first) ++ third.filter (fun key => key ∉ keysThen first second) := rfl
    _ = first ++ (second.filter (fun key => key ∉ first) ++
          (third.filter fun key => key ∉ second).filter fun key => key ∉ first) := by
        rw [List.append_assoc, List.filter_filter, List.filter_congr fun key _ => hthird key]
    _ = keysThen first (keysThen second third) := by
        rw [← List.filter_append]
        rfl

end Entries

namespace OrderedMap

variable {V : Type u} {W : Type v}

/-! ### One operation on the look-up -/

theorem get?_eq_some_iff {m : OrderedMap V} {key : String} {value : V} :
    m.get? key = some value ↔ (key, value) ∈ m.entries :=
  Entries.lookup_eq_some_iff m.distinct

theorem get?_eq_none_iff {m : OrderedMap V} {key : String} : m.get? key = none ↔ key ∉ m.keys :=
  Entries.lookup_eq_none_iff

theorem contains_iff {m : OrderedMap V} {key : String} : m.contains key = true ↔ key ∈ m.keys := by
  rw [contains, Option.isSome_iff_ne_none, ne_eq, get?_eq_none_iff, Decidable.not_not]

theorem mem_keys_iff {m : OrderedMap V} {key : String} : key ∈ m.keys ↔ ∃ value, m.get? key = some value := by
  rw [← Option.ne_none_iff_exists', ne_eq, get?_eq_none_iff, Decidable.not_not]

/-- A map is known by its keys in their order and by its look-up. -/
theorem ext_keys {a b : OrderedMap V} (hkeys : a.keys = b.keys) (hget : ∀ key, a.get? key = b.get? key) : a = b := by
  have hentries : ∀ m : OrderedMap V,
      (m.keys.filterMap fun key => (m.get? key).map fun value => (key, value)) = m.entries :=
    fun m => Entries.filterMap_lookup m.distinct (.refl m.keys)
  apply OrderedMap.ext
  rw [← hentries a, ← hentries b, hkeys]
  simp only [hget]

@[simp] theorem get?_empty (key : String) : (empty : OrderedMap V).get? key = none := rfl

theorem get?_insert (m : OrderedMap V) (key k : String) (value : V) :
    (m.insert key value).get? k = if k = key then some value else m.get? k :=
  Entries.lookup_put key k value m.entries

theorem getThenInsert?_eq (m : OrderedMap V) (key : String) (value : V) :
    m.getThenInsert? key value = (m.get? key, m.insert key value) :=
  Prod.ext (Entries.exchange_fst key value m.entries) (OrderedMap.ext (Entries.exchange_snd key value m.entries))

theorem entries_insert_of_not_contains {m : OrderedMap V} {key : String} (h : m.contains key = false) (value : V) :
    (m.insert key value).entries = m.entries ++ [(key, value)] :=
  Entries.put_of_not_mem (fun hm => by rw [contains_iff.mpr hm] at h; cases h) value

theorem get?_map (m : OrderedMap V) (f : String → V → W) (key : String) :
    (m.map f).get? key = (m.get? key).map (f key) :=
  Entries.lookup_map f key m.entries

theorem get?_filter (m : OrderedMap V) (keep : String → V → Bool) (key : String) :
    (m.filter keep).get? key = (m.get? key).filter (keep key) := by
  apply Option.ext
  intro value
  rw [Option.filter_eq_some_iff, get?_eq_some_iff, get?_eq_some_iff]
  simp [filter]

/-- Of pairs with distinct keys that are put into a map, each is found, and elsewhere the map is as before. -/
theorem get?_foldl_insert {pairs : List (String × V)} (h : (Entries.keys pairs).Nodup) (m : OrderedMap V)
    (key : String) : (pairs.foldl (fun m (key, value) => m.insert key value) m).get? key =
      (pairs.lookup key).or (m.get? key) := by
  induction pairs generalizing m with
  | nil => rfl
  | cons pair rest ih =>
    obtain ⟨k, v⟩ := pair
    obtain ⟨hk, hrest⟩ := List.nodup_cons.mp h
    rw [List.foldl_cons, ih hrest, get?_insert, Entries.lookup_cons_ite]
    by_cases hkey : key = k
    · subst hkey
      rw [Entries.lookup_eq_none_iff.mpr hk]
      simp
    · simp [hkey]

theorem get?_ofList {pairs : List (String × V)} (h : (Entries.keys pairs).Nodup) (key : String) :
    (ofList pairs).get? key = pairs.lookup key := by
  rw [ofList, get?_foldl_insert h, get?_empty, Option.or_none]

theorem entries_foldl_insert (pairs : List (String × V)) (m : OrderedMap V) :
    (pairs.foldl (fun m (key, value) => m.insert key value) m).entries =
      pairs.foldl (fun entries (key, value) => Entries.put key value entries) m.entries := by
  induction pairs generalizing m with
  | nil => rfl
  | cons pair pairs ih => exact ih _

theorem entries_ofList (pairs : List (String × V)) :
    (ofList pairs).entries = pairs.foldl (fun entries (key, value) => Entries.put key value entries) [] :=
  entries_foldl_insert pairs empty

theorem keys_ofList (pairs : List (String × V)) : (ofList pairs).keys = (Entries.keys pairs).eraseDups := by
  rw [keys, entries_ofList]
  exact Entries.keys_foldl_put pairs

/-- Of pairs with one key the last one is found. -/
theorem get?_ofList_eq_lookup_reverse (pairs : List (String × V)) (key : String) :
    (ofList pairs).get? key = pairs.reverse.lookup key := by
  rw [get?, entries_ofList, Entries.lookup_foldl_put, List.lookup_nil, Option.or_none]

/-- The entries of a map, collected again. -/
theorem ofList_entries (m : OrderedMap V) : ofList m.entries = m := by
  apply OrderedMap.ext
  rw [entries_ofList]
  exact Entries.foldl_put_of_nodup m.distinct

theorem keys_insert_ite (m : OrderedMap V) (key : String) (value : V) :
    (m.insert key value).keys = if key ∈ m.keys then m.keys else m.keys ++ [key] :=
  Entries.keys_put key value m.entries

theorem keys_insert (m : OrderedMap V) (key : String) (value : V) :
    (m.insert key value).keys = Entries.keysThen m.keys [key] := by
  rw [keys_insert_ite, Entries.keysThen]
  by_cases hkey : key ∈ m.keys <;> simp [hkey]

/-- Pairs with distinct keys stand where the map has their keys, and behind it where it does not. -/
theorem keys_foldl_insert {pairs : List (String × V)} (h : (Entries.keys pairs).Nodup) (m : OrderedMap V) :
    (pairs.foldl (fun m (key, value) => m.insert key value) m).keys =
      Entries.keysThen m.keys (Entries.keys pairs) := by
  induction pairs generalizing m with
  | nil => exact (Entries.keysThen_nil m.keys).symm
  | cons pair rest ih =>
    obtain ⟨key, value⟩ := pair
    obtain ⟨hkey, hrest⟩ := List.nodup_cons.mp h
    have hcons : Entries.keysThen [key] (Entries.keys rest) = key :: Entries.keys rest := by
      have hall : ∀ k ∈ Entries.keys rest, decide (k ∉ [key]) = true := by
        rintro k hk
        have hne : k ≠ key := by
          rintro rfl
          exact hkey hk
        simpa using hne
      rw [Entries.keysThen, List.filter_eq_self.mpr hall, List.singleton_append]
    rw [List.foldl_cons, ih hrest, keys_insert, Entries.keysThen_assoc, hcons]
    rfl

/-- A map with the entries of a row put into it. -/
def putRow {X : Type v} (view : X → V) (m : OrderedMap V) (row : List (String × X)) : OrderedMap V :=
  (row.map fun (key, x) => (key, view x)).foldl (fun m (key, value) => m.insert key value) m

theorem get?_putRow {X : Type v} {row : List (String × X)} (h : (Entries.keys row).Nodup) (view : X → V)
    (m : OrderedMap V) (key : String) : (putRow view m row).get? key = ((row.lookup key).map view).or (m.get? key) := by
  rw [putRow, get?_foldl_insert (by simpa [Entries.keys, Function.comp_def] using h),
    Entries.lookup_map fun _ x => view x]

theorem keys_putRow {X : Type v} {row : List (String × X)} (h : (Entries.keys row).Nodup) (view : X → V)
    (m : OrderedMap V) : (putRow view m row).keys = Entries.keysThen m.keys (Entries.keys row) := by
  have hkeys : Entries.keys (row.map fun (key, x) => (key, view x)) = Entries.keys row := by
    simp [Entries.keys, Function.comp_def]
  rw [putRow, keys_foldl_insert (hkeys.symm ▸ h), hkeys]

/-- What a table makes of its rows is found under their names. -/
theorem get?_ofTable {X : Type v} {W : Type u} {table : List (String × X)} (hrows : (Entries.keys table).Nodup)
    (make : String → X → W) (name : String) :
    (ofList (table.map fun (name, row) => (name, make name row))).get? name = (table.lookup name).map (make name) := by
  rw [get?_ofList (by simpa [Entries.keys, Function.comp_def] using hrows), Entries.lookup_map make]

/-- A map of maps that a table gives, each row put into a map of its own: a look-up asks the row first, and then the
map that the row was put into. -/
theorem bind_get?_ofTable {X : Type v} {W : Type u} {table : List (String × List (String × X))}
    (hrows : (Entries.keys table).Nodup) (hentries : ∀ row ∈ table, (Entries.keys row.2).Nodup) (view : X → V)
    (wrap : OrderedMap V → W) (unwrap : W → OrderedMap V) (hwrap : ∀ m, unwrap (wrap m) = m)
    (base : String → OrderedMap V) (hbase : ∀ name ∉ Entries.keys table, base name = empty) (outer inner : String) :
    ((ofList (table.map fun (name, row) => (name, wrap (putRow view (base name) row)))).get? outer).bind
        (fun w => (unwrap w).get? inner) =
      (((table.lookup outer).bind fun row => row.lookup inner).map view).or ((base outer).get? inner) := by
  rw [get?_ofTable hrows fun name row => wrap (putRow view (base name) row)]
  cases hrow : table.lookup outer with
  | none =>
    rw [hbase outer (Entries.lookup_eq_none_iff.mp hrow)]
    rfl
  | some row =>
    have hkeys : (Entries.keys row).Nodup := hentries _ ((Entries.lookup_eq_some_iff hrows).mp hrow)
    rw [Option.map_some, Option.bind_some, Option.bind_some, hwrap, get?_putRow hkeys]

/-- The keys of the map under a key, in a map of what holds maps; none if the key is missing. -/
def rowKeys {W : Type w} (m : OrderedMap W) (unwrap : W → OrderedMap V) (outer : String) : List String :=
  ((m.get? outer).map fun w => (unwrap w).keys).getD []

/-- In a map of maps that a table gives, the keys of a row stand where its map has them, and behind it where it does
not. -/
theorem rowKeys_ofTable {X : Type v} {W : Type u} {table : List (String × List (String × X))}
    (hrows : (Entries.keys table).Nodup) (hentries : ∀ row ∈ table, (Entries.keys row.2).Nodup) (view : X → V)
    (wrap : OrderedMap V → W) (unwrap : W → OrderedMap V) (hwrap : ∀ m, unwrap (wrap m) = m)
    (base : String → OrderedMap V) (hbase : ∀ name ∉ Entries.keys table, base name = empty) (outer : String) :
    (ofList (table.map fun (name, row) => (name, wrap (putRow view (base name) row)))).rowKeys unwrap outer =
      Entries.keysThen (base outer).keys (Entries.keys ((table.lookup outer).getD [])) := by
  rw [rowKeys, get?_ofTable hrows fun name row => wrap (putRow view (base name) row)]
  cases hrow : table.lookup outer with
  | none =>
    rw [hbase outer (Entries.lookup_eq_none_iff.mp hrow)]
    rfl
  | some row =>
    have hkeys : (Entries.keys row).Nodup := hentries _ ((Entries.lookup_eq_some_iff hrows).mp hrow)
    simp only [Option.map_some, Option.getD_some, hwrap, keys_putRow hkeys]

/-- What is gathered from the entries of a map is gathered key by key. -/
theorem flatMap_entries {W : Type v} (m : OrderedMap V) (gather : String → V → List W) :
    m.entries.flatMap (fun (key, value) => gather key value) =
      m.keys.flatMap fun key => ((m.get? key).map (gather key)).getD [] := by
  rw [keys, List.flatMap_map]
  apply List.flatMap_congr
  rintro ⟨key, value⟩ hentry
  rw [get?_eq_some_iff.mpr hentry]
  rfl

/-! ### Transforming the values -/

theorem entries_map (m : OrderedMap V) (f : String → V → W) :
    (m.map f).entries = m.entries.map fun (key, value) => (key, f key value) := rfl

@[simp] theorem keys_map (m : OrderedMap V) (f : String → V → W) : (m.map f).keys = m.keys := by
  simp only [keys, entries_map, List.map_map, Function.comp_def]

theorem map_map {X : Type w} (m : OrderedMap V) (f : String → V → W) (g : String → W → X) :
    (m.map f).map g = m.map fun key value => g key (f key value) := by
  apply OrderedMap.ext
  simp [map, Function.comp_def]

theorem map_filter (m : OrderedMap V) (f : String → V → W) (keep : String → V → Bool) (keep' : String → W → Bool)
    (h : ∀ key value, keep' key (f key value) = keep key value) :
    (m.filter keep).map f = (m.map f).filter keep' := by
  apply OrderedMap.ext
  simp only [map, filter, List.filter_map, Function.comp_def, h]

theorem map_insert (m : OrderedMap V) (f : String → V → W) (key : String) (value : V) :
    (m.insert key value).map f = (m.map f).insert key (f key value) :=
  OrderedMap.ext (Entries.map_put f key value m.entries)

theorem map_foldl_insert (f : String → V → W) (pairs : List (String × V)) (m : OrderedMap V) :
    (pairs.foldl (fun m (key, value) => m.insert key value) m).map f =
      (pairs.map fun (key, value) => (key, f key value)).foldl (fun m (key, value) => m.insert key value)
        (m.map f) := by
  induction pairs generalizing m with
  | nil => rfl
  | cons pair rest ih => rw [List.foldl_cons, ih, map_insert, List.map_cons, List.foldl_cons]

theorem map_ofList (f : String → V → W) (pairs : List (String × V)) :
    (ofList pairs).map f = ofList (pairs.map fun (key, value) => (key, f key value)) :=
  map_foldl_insert f pairs empty

/-! ### Rules that count their calls -/

/-- With distinct keys, the place of an entry is that of its key. -/
theorem zipIdx_entries (m : OrderedMap V) :
    m.entries.zipIdx = m.entries.map fun entry => (entry, m.keys.idxOf entry.1) := by
  refine List.ext_getElem (by simp) fun place h h' => ?_
  have hentry : place < m.entries.length := by simpa using h
  have hplace : place < m.keys.length := by simpa [keys] using hentry
  have hkey : m.entries[place].1 = m.keys[place] := (List.getElem_map Prod.fst).symm
  have hplaceOf : m.keys.idxOf m.keys[place] = place := m.distinct.idxOf_getElem place hplace
  rw [List.getElem_zipIdx, List.getElem_map, hkey, hplaceOf, Nat.zero_add]

/-- A rule on the place of entries keeps what a rule on keys keeps. -/
theorem exists_entries_filter (m : OrderedMap V) (rule : Nat → String → V → Bool) :
    ∃ keep, (m.filter keep).entries =
      (m.entries.zipIdx.filter fun ((key, value), place) => rule place key value).map Prod.fst := by
  refine ⟨fun key => rule (m.keys.idxOf key) key, ?_⟩
  rw [zipIdx_entries, List.filter_map, List.map_map]
  exact (List.map_id _).symm

/-- A rule on the place of entries makes what a rule on keys makes. -/
theorem exists_entries_map (m : OrderedMap V) (rule : Nat → String → V → W) :
    ∃ f, (m.map f).entries =
      m.entries.zipIdx.map fun ((key, value), place) => (key, rule place key value) := by
  refine ⟨fun key => rule (m.keys.idxOf key) key, ?_⟩
  rw [zipIdx_entries, List.map_map]
  rfl

/-! ### Laying one map over another -/

/-- Completing a map with entries of distinct keys appends those whose keys it does not have. -/
theorem entries_complete {entries : List (String × V)} (h : (Entries.keys entries).Nodup) (m : OrderedMap V) :
    (entries.foldl (fun merged (key, value) => if merged.contains key then merged else merged.insert key value)
      m).entries = m.entries ++ entries.filter fun entry => !m.contains entry.1 := by
  induction entries generalizing m with
  | nil => simp
  | cons entry rest ih =>
    obtain ⟨k, v⟩ := entry
    obtain ⟨hk, hrest⟩ := List.nodup_cons.mp h
    rw [List.foldl_cons, ih hrest]
    cases hc : m.contains k with
    | true => simp [hc]
    | false =>
      -- Past its first entry, the list has no key on which the map and the map with that entry differ.
      have hcontains : ∀ entry ∈ rest, (!(m.insert k v).contains entry.1) = !m.contains entry.1 := by
        intro entry he
        have hne : entry.1 ≠ k := fun heq => hk (heq ▸ List.mem_map.mpr ⟨entry, he, rfl⟩)
        rw [contains, contains, get?_insert, if_neg hne]
      simp [hc, entries_insert_of_not_contains hc, List.filter_congr hcontains]

section
variable [Overlay V]

/-- A value of the fixed side, over the one that the declared side has under its key. -/
def overlayAt (declared : OrderedMap V) (key : String) (value : V) : V :=
  match declared.get? key with
  | some other => Overlay.overlay value other
  | none => value

/-- The entries of the fixed side stay in place, and those of the declared side alone follow in their order. -/
theorem entries_overlay (fixed declared : OrderedMap V) :
    (Overlay.overlay fixed declared).entries =
      (fixed.entries.map fun (key, value) => (key, overlayAt declared key value)) ++
        declared.entries.filter fun entry => !fixed.contains entry.1 := by
  show (OrderedMap.overlay fixed declared).entries = _
  rw [OrderedMap.overlay, entries_complete declared.distinct]
  congr 1
  apply List.filter_congr
  intro entry _
  rw [contains, contains, get?_map, Option.isSome_map]

theorem keys_overlay (fixed declared : OrderedMap V) :
    (Overlay.overlay fixed declared).keys = Entries.keysThen fixed.keys declared.keys := by
  have hcontains : ∀ key, (!fixed.contains key) = decide (key ∉ fixed.keys) := by
    intro key
    rw [Bool.eq_iff_iff, Bool.not_eq_true', ← Bool.not_eq_true, contains_iff, decide_eq_true_iff]
  simp only [keys, entries_overlay, hcontains, Entries.keysThen, List.map_append, List.filter_map, List.map_map]
  rfl

theorem mem_keys_overlay {fixed declared : OrderedMap V} {key : String} :
    key ∈ (Overlay.overlay fixed declared).keys ↔ key ∈ fixed.keys ∨ key ∈ declared.keys := by
  rw [keys_overlay, Entries.mem_keysThen]

theorem get?_overlay (fixed declared : OrderedMap V) (key : String) :
    (Overlay.overlay fixed declared).get? key =
      Option.merge Overlay.overlay (fixed.get? key) (declared.get? key) := by
  rw [get?, entries_overlay, List.lookup_append, Entries.lookup_map (overlayAt declared)]
  change ((fixed.get? key).map (overlayAt declared key)).or
    ((declared.filter fun name _ => !fixed.contains name).get? key) = _
  rw [get?_filter, contains]
  cases fixed.get? key with
  | none => cases declared.get? key <;> rfl
  | some value =>
    simp only [Option.map_some, Option.some_or, overlayAt]
    cases declared.get? key <;> rfl

/-- Where values are laid over each other as a whole, a look-up asks the fixed side first. -/
theorem get?_overlay_of_leaf (leaf : ∀ a b : V, Overlay.overlay a b = a) (fixed declared : OrderedMap V)
    (key : String) : (Overlay.overlay fixed declared).get? key = (fixed.get? key).or (declared.get? key) := by
  rw [get?_overlay]
  cases fixed.get? key with
  | none => cases declared.get? key <;> rfl
  | some value => cases declared.get? key <;> simp [Option.merge, leaf]

/-- A look-up on two levels asks the fixed side first too, if the inner maps hold such values. -/
theorem bind_get?_overlay_of_leaf [Overlay W] (leaf : ∀ a b : V, Overlay.overlay a b = a) (view : W → OrderedMap V)
    (hview : ∀ a b, view (Overlay.overlay a b) = Overlay.overlay (view a) (view b)) (fixed declared : OrderedMap W)
    (outer inner : String) :
    ((Overlay.overlay fixed declared).get? outer).bind (fun w => (view w).get? inner) =
      ((fixed.get? outer).bind fun w => (view w).get? inner).or
        ((declared.get? outer).bind fun w => (view w).get? inner) := by
  rw [get?_overlay]
  cases fixed.get? outer with
  | none => cases declared.get? outer <;> rfl
  | some a =>
    cases declared.get? outer with
    | none => exact Option.or_none.symm
    | some b =>
      change (view (Overlay.overlay a b)).get? inner = _
      rw [hview, get?_overlay_of_leaf leaf]
      rfl

/-- The keys of the map under a key are those of the fixed side, and then those that only the declared side has. -/
theorem rowKeys_overlay [Overlay W] (view : W → OrderedMap V)
    (hview : ∀ a b, view (Overlay.overlay a b) = Overlay.overlay (view a) (view b)) (fixed declared : OrderedMap W)
    (outer : String) : (Overlay.overlay fixed declared).rowKeys view outer =
      Entries.keysThen (fixed.rowKeys view outer) (declared.rowKeys view outer) := by
  rw [rowKeys, rowKeys, rowKeys, get?_overlay]
  cases fixed.get? outer with
  | none => simp [Option.merge_none_left]
  | some a =>
    cases declared.get? outer with
    | none => simp [Option.merge_none_right]
    | some b => simp [Option.merge_some_some, hview, keys_overlay]

/-- Laying maps over each other and transforming their values can change places, if the two change places on values. -/
theorem map_overlay [Overlay W] {f : V → W}
    (hf : ∀ a b, f (Overlay.overlay a b) = Overlay.overlay (f a) (f b)) (fixed declared : OrderedMap V) :
    (Overlay.overlay fixed declared).map (fun _ => f) =
      Overlay.overlay (fixed.map fun _ => f) (declared.map fun _ => f) := by
  have hvalue : ∀ key value, f (overlayAt declared key value) = overlayAt (declared.map fun _ => f) key (f value) := by
    intro key value
    rw [overlayAt, overlayAt, get?_map]
    cases declared.get? key with
    | none => rfl
    | some other => exact hf value other
  have hcontains : ∀ key, (fixed.map fun _ => f).contains key = fixed.contains key := by
    intro key
    rw [contains, contains, get?_map, Option.isSome_map]
  apply OrderedMap.ext
  simp only [entries_map, entries_overlay, List.map_append, List.map_map, List.filter_map, Function.comp_def, hvalue,
    hcontains]

end

end OrderedMap

end AggregateGateway
