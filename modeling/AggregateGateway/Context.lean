import AggregateGateway.Json.Decode

/-!
The part of a request context that may leave the gateway. Of a context only the listed keys are kept, with their values
unchanged; everything else, credentials among it, is dropped. A snapshot that is read back is projected again.
-/

namespace AggregateGateway

open Json

/-- The keys that a snapshot may have, in the order in which it holds them. -/
def contextKeys : List String :=
  ["baseUrl", "cookies", "hostname", "ip", "method", "originalUrl", "params", "path", "protocol", "query", "route", "user"]

theorem Entries.map_fst_filterMap_lookup {α : Type} (keys : List String) (get : String → Option α) :
    ((keys.filterMap fun key => (get key).map fun value => (key, value)).map Prod.fst).Sublist keys := by
  induction keys with
  | nil => exact .slnil
  | cons key keys ih =>
    cases h : get key with
    | none => simpa [h] using .cons key ih
    | some value => simpa [h] using ih

/-- The listed part of a request context. -/
structure ContextSnapshot where
  entries : List (String × Value)
  listed : (entries.map Prod.fst).Sublist contextKeys

namespace ContextSnapshot

@[ext] theorem ext {a b : ContextSnapshot} (h : a.entries = b.entries) : a = b := by
  cases a; cases b; cases h; rfl

/-- The snapshot of no entries. -/
def empty : ContextSnapshot := ⟨[], List.nil_sublist _⟩

instance : Inhabited ContextSnapshot := ⟨empty⟩

/-- Keeps of an object the members with listed keys; any other value has none. -/
def filter (raw : Value) : ContextSnapshot :=
  ⟨contextKeys.filterMap fun key => (raw.get? key).map fun value => (key, value),
    Entries.map_fst_filterMap_lookup contextKeys fun key => raw.get? key⟩

def get? (snapshot : ContextSnapshot) (key : String) : Option Value := snapshot.entries.lookup key

def contains (snapshot : ContextSnapshot) (key : String) : Bool := (snapshot.get? key).isSome

def keys (snapshot : ContextSnapshot) : List String := snapshot.entries.map Prod.fst

def isEmpty (snapshot : ContextSnapshot) : Bool := snapshot.entries.isEmpty

/-- The snapshot as an object. -/
def encode (snapshot : ContextSnapshot) : Value := .object snapshot.entries

/-- Any value is read as a context and projected. -/
def decode (value : Value) : Decoded ContextSnapshot := .ok (filter value)

end ContextSnapshot

end AggregateGateway
