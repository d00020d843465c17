/-!
Maps whose entries keep the order of their declaration. A key stands once; a value put under a present key replaces the
value in place, and one put under a new key goes last. Equality counts the order.
-/

namespace AggregateGateway

universe u v

/-- The keys of a list of entries. -/
abbrev Entries.keys {V : Type u} (entries : List (String × V)) : List String := entries.map Prod.fst

/-- Puts a value under a key, in place if the key is present and last otherwise. -/
def Entries.put {V : Type u} (key : String) (value : V) : List (String × V) → List (String × V)
  | [] => [(key, value)]
  | (k, v) :: rest => if k = key then (k, value) :: rest else (k, v) :: Entries.put key value rest

theorem Entries.keys_put {V : Type u} (key : String) (value : V) (entries : List (String × V)) :
    Entries.keys (Entries.put key value entries) =
      if key ∈ Entries.keys entries then Entries.keys entries else Entries.keys entries ++ [key] := by
  induction entries with
  | nil => simp [Entries.put]
  | cons entry rest ih =>
    obtain ⟨k, v⟩ := entry
    by_cases h : k = key
    · simp [Entries.put, h]
    · have h' : key ≠ k := fun e => h e.symm
      simp only [Entries.keys] at ih
      by_cases hm : key ∈ rest.map Prod.fst <;> simp_all [Entries.put]

theorem Entries.nodup_keys_put {V : Type u} {key : String} {value : V} {entries : List (String × V)}
    (h : (Entries.keys entries).Nodup) : (Entries.keys (Entries.put key value entries)).Nodup := by
  rw [Entries.keys_put]
  split
  · exact h
  · next hm => exact List.nodup_append.mpr ⟨h, by simp, by simpa using fun a b hb e => hm (by simp_all)⟩

/-- Puts a value under a key as `put` does, and gives with the entries the value that stood there before. -/
def Entries.exchange {V : Type u} (key : String) (value : V) : List (String × V) → Option V × List (String × V)
  | [] => (none, [(key, value)])
  | (k, v) :: rest =>
    if k = key then (some v, (k, value) :: rest)
    else
      let (old, rest) := Entries.exchange key value rest
      (old, (k, v) :: rest)

theorem Entries.exchange_snd {V : Type u} (key : String) (value : V) (entries : List (String × V)) :
    (Entries.exchange key value entries).2 = Entries.put key value entries := by
  induction entries with
  | nil => rfl
  | cons entry rest ih =>
    simp only [Entries.exchange, Entries.put]
    split
    · rfl
    · exact congrArg (List.cons entry) ih

/-- An insertion-ordered map with text keys. -/
structure OrderedMap (V : Type u) where
  entries : List (String × V)
  distinct : (Entries.keys entries).Nodup
deriving DecidableEq, Repr

namespace OrderedMap

variable {V : Type u} {W : Type v}

@[ext] theorem ext {a b : OrderedMap V} (h : a.entries = b.entries) : a = b := by
  cases a; cases b; cases h; rfl

/-- The map without entries. -/
def empty : OrderedMap V := ⟨[], .nil⟩

instance : Inhabited (OrderedMap V) := ⟨empty⟩

def keys (m : OrderedMap V) : List String := m.entries.map Prod.fst

def values (m : OrderedMap V) : List V := m.entries.map Prod.snd

def size (m : OrderedMap V) : Nat := m.entries.length

def isEmpty (m : OrderedMap V) : Bool := m.entries.isEmpty

/-- The value under a key. -/
def get? (m : OrderedMap V) (key : String) : Option V := m.entries.lookup key

def contains (m : OrderedMap V) (key : String) : Bool := (m.get? key).isSome

/-- Puts a value under a key, in place if the key is present and last otherwise. -/
def insert (m : OrderedMap V) (key : String) (value : V) : OrderedMap V :=
  ⟨Entries.put key value m.entries, Entries.nodup_keys_put m.distinct⟩

/-- Puts a value under a key as `insert` does, and gives with the map the value that it replaces. -/
def getThenInsert? (m : OrderedMap V) (key : String) (value : V) : Option V × OrderedMap V :=
  let exchanged := Entries.exchange key value m.entries
  (exchanged.1, ⟨exchanged.2, Entries.exchange_snd key value m.entries ▸ Entries.nodup_keys_put m.distinct⟩)

/-- Keeps the entries that `keep` accepts. -/
def filter (m : OrderedMap V) (keep : String → V → Bool) : OrderedMap V :=
  ⟨m.entries.filter fun (key, value) => keep key value, m.distinct.sublist (List.filter_sublist.map _)⟩

/-- Transforms every value and keeps keys and order. -/
def map (m : OrderedMap V) (f : String → V → W) : OrderedMap W :=
  ⟨m.entries.map fun (key, value) => (key, f key value), by
    have h := m.distinct
    simpa [Entries.keys, List.map_map, Function.comp_def] using h⟩

/-- Collects pairs from first to last; a repeated key keeps its first position and takes its last value. -/
def ofList (pairs : List (String × V)) : OrderedMap V := pairs.foldl (fun m (key, value) => m.insert key value) empty

end OrderedMap

end AggregateGateway
