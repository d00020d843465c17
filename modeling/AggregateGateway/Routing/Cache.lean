import AggregateGateway.Routing.Table

/-!
A bounded cache of route tables by host. The hosts stand in the order of their last use; a new host takes the place of
the one that was used longest ago when the cache is full, and an entry that has reached its age is removed when it is
looked up.
-/

namespace AggregateGateway

open Json

/-- The bounds of a cache. -/
structure RouteCacheConfig where
  /-- How many hosts it may hold; zero counts as one. -/
  maxSize : Nat := 500
  /-- The age at which an entry expires, in milliseconds. -/
  maxAgeMs : Nat := 3600000
deriving DecidableEq, Repr, Inhabited

namespace RouteCacheConfig

def record : Record RouteCacheConfig where
  name := "RouteCacheConfig"
  blank := {}
  fields := [
    ⟨"max_size", false, fun config value => do return { config with maxSize := ← value.decodeNat (Nat.pow 2 64) "usize" }⟩,
    ⟨"max_age_ms", false, fun config value => do return { config with maxAgeMs := ← value.decodeNat (Nat.pow 2 64) "u64" }⟩]

def decode : Value → Decoded RouteCacheConfig := record.decode

/-- How many hosts a cache holds at most. -/
def capacity (config : RouteCacheConfig) : Nat := max 1 config.maxSize

end RouteCacheConfig

/-- A route table, and the time at which it was loaded. -/
structure CachedTable where
  table : RouteTable
  loadedAt : Nat
deriving DecidableEq, Repr, Inhabited

/-- Route tables by host, the host used last first. -/
structure RouteCache where
  config : RouteCacheConfig
  entries : List (String × CachedTable) := []
deriving DecidableEq, Repr, Inhabited

namespace RouteCache

/-- The entries of other hosts. -/
def others (cache : RouteCache) (host : String) : List (String × CachedTable) :=
  cache.entries.filter fun (key, _) => key ≠ host

/-- Looks a host up at a time. A fresh entry becomes the one used last, and an expired one is removed. -/
def lookup (cache : RouteCache) (now : Nat) (host : String) : Option RouteTable × RouteCache :=
  match cache.entries.lookup host with
  | none => (none, cache)
  | some entry =>
    if now - entry.loadedAt < cache.config.maxAgeMs then
      (some entry.table, { cache with entries := (host, entry) :: cache.others host })
    else (none, { cache with entries := cache.others host })

/-- Puts a table as the one used last, and drops the one used longest ago if there are too many. -/
def put (cache : RouteCache) (now : Nat) (host : String) (table : RouteTable) : RouteCache :=
  { cache with entries := ((host, ⟨table, now⟩) :: cache.others host).take cache.config.capacity }

/-- How many hosts are held. -/
def size (cache : RouteCache) : Nat := cache.entries.length

end RouteCache

end AggregateGateway
