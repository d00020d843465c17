import AggregateGateway.Proofs.Gateway.Exchange
import AggregateGateway.Proofs.Map.OrderedMap
import AggregateGateway.Routing.Reroute

/-!
What rerouting a request does to the cache. A call has one of three ends, the rules of `Reroutes`: it finds a fresh
table and moves it to the front, it reads the route document and cannot make a table of it, or it puts the table that it
has read to the front. A run is a list of such calls, the last one first; between two of them the store may change in
any way, its documents as well as whether it fails.
-/

namespace AggregateGateway

/-! ### The entries of a cache -/

namespace RouteCache

/-- The hosts that are held, the one used last first. -/
def hosts (cache : RouteCache) : List String := Entries.keys cache.entries

def Misses (cache : RouteCache) (now : Nat) (host : String) : Prop :=
  ∀ entry, cache.entries.lookup host = some entry → cache.config.maxAgeMs ≤ now - entry.loadedAt

variable {cache : RouteCache} {host other : String}

theorem lookup_others :
    (cache.others host).lookup other = if other = host then none else cache.entries.lookup other := by
  rw [others]
  induction cache.entries with
  | nil => simp
  | cons entry rest ih =>
    obtain ⟨key, value⟩ := entry
    by_cases hkey : key = host
    · subst hkey
      rw [List.filter_cons_of_neg (by simp), ih, Entries.lookup_cons_ite]
      split <;> rfl
    · rw [List.filter_cons_of_pos (by simpa using hkey), Entries.lookup_cons_ite, Entries.lookup_cons_ite, ih]
      by_cases hother : other = key
      · subst hother
        rw [if_pos rfl, if_pos rfl, if_neg hkey]
      · rw [if_neg hother, if_neg hother]

theorem others_eq_entries (h : cache.entries.lookup host = none) : cache.others host = cache.entries := by
  rw [others, List.filter_eq_self]
  rintro ⟨key, value⟩ hentry
  have hne : key ≠ host := by
    rintro rfl
    exact Entries.lookup_eq_none_iff.mp h (List.mem_map.mpr ⟨_, hentry, rfl⟩)
  simpa using hne

theorem keys_others : Entries.keys (cache.others host) = cache.hosts.filter (· ≠ host) := by
  rw [others, hosts, Entries.keys, Entries.keys, List.filter_map]
  rfl

/-- Looking a host up finds a fresh table, or leaves the entries of the others. -/
theorem lookup_cases (cache : RouteCache) (now : Nat) (host : String) :
    (∃ entry, cache.entries.lookup host = some entry ∧ now - entry.loadedAt < cache.config.maxAgeMs ∧
        cache.lookup now host = (some entry.table, { cache with entries := (host, entry) :: cache.others host })) ∨
      (cache.Misses now host ∧ cache.lookup now host = (none, { cache with entries := cache.others host })) := by
  unfold lookup
  cases hentry : cache.entries.lookup host with
  | none =>
    refine .inr ⟨fun entry h => ?_, by rw [others_eq_entries hentry]⟩
    rw [hentry] at h
    cases h
  | some entry =>
    dsimp only
    split
    · next hfresh => exact .inl ⟨entry, rfl, hfresh, rfl⟩
    · next hexpired =>
      refine .inr ⟨fun other h => ?_, rfl⟩
      rw [hentry] at h
      cases h
      exact Nat.le_of_not_lt hexpired

/-- What is put does not depend on what was held for the host before. -/
theorem put_others (cache : RouteCache) (time : Nat) (host : String) (table : RouteTable) :
    ({ cache with entries := cache.others host } : RouteCache).put time host table = cache.put time host table := by
  simp only [put, others, List.filter_filter, Bool.and_self]

end RouteCache

/-! ### One call -/

/-- The questions that a call asks, with their answers, the outcome, and the cache that it leaves. -/
inductive Reroutes (cache : RouteCache) (host url : String) :
    List Event → Except RouteError (Option RouteTarget) → RouteCache → Prop
  | hit {entry : CachedTable} (now : Nat) : cache.entries.lookup host = some entry →
      now - entry.loadedAt < cache.config.maxAgeMs →
      Reroutes cache host url [.readClock now] (.ok (entry.table.resolve host url))
        { cache with entries := (host, entry) :: cache.others host }
  | failed {error : StoreError} (now : Nat) (answer : ReadResult) : cache.Misses now host →
      RouteTable.ofRead answer = .error error →
      Reroutes cache host url [.readClock now, .readDocument (.routes host) answer] (.error (.lookup error))
        { cache with entries := cache.others host }
  | loaded {table : RouteTable} (now time : Nat) (answer : ReadResult) : cache.Misses now host →
      RouteTable.ofRead answer = .ok table →
      Reroutes cache host url [.readClock now, .readDocument (.routes host) answer, .readClock time]
        (.ok (table.resolve host url)) (cache.put time host table)

theorem DocumentKey.routes_inj {host other : String} : routes host = routes other ↔ host = other := by
  simp [routes]

theorem RouteCacheConfig.capacity_pos (config : RouteCacheConfig) : 0 < config.capacity :=
  Nat.lt_of_lt_of_le Nat.zero_lt_one (Nat.le_max_left 1 config.maxSize)

theorem Entries.lookup_of_take {V : Type} {entries : List (String × V)} {key : String} {value : V} {n : Nat}
    (h : (entries.take n).lookup key = some value) : entries.lookup key = some value := by
  rw [← List.take_append_drop n entries, List.lookup_append, h, Option.some_or]

section
variable {cache next : RouteCache} {host url : String} {events : List Event}
  {outcome : Except RouteError (Option RouteTarget)}

theorem Reroutes.of_run (h : Exchange.Run (cache.reroute host url) events (outcome, next)) :
    Reroutes cache host url events outcome next := by
  obtain ⟨now, rest, rfl, hlooked⟩ := Exchange.run_now_bind_iff.mp h
  obtain ⟨entry, hentry, hfresh, hlookup⟩ | ⟨hmiss, hlookup⟩ := cache.lookup_cases now host
  · rw [hlookup] at hlooked
    obtain ⟨rfl, hdone⟩ := Exchange.run_done_iff.mp hlooked
    cases hdone
    exact .hit now hentry hfresh
  · rw [hlookup] at hlooked
    obtain ⟨answer, rest, rfl, hread⟩ := Exchange.run_read_bind_iff.mp hlooked
    cases htable : RouteTable.ofRead answer with
    | error error =>
      rw [htable] at hread
      obtain ⟨rfl, hdone⟩ := Exchange.run_done_iff.mp hread
      cases hdone
      exact .failed now answer hmiss htable
    | ok table =>
      rw [htable] at hread
      obtain ⟨time, hnow, hput⟩ := Exchange.run_map_iff.mp hread
      cases hput
      obtain rfl := Exchange.run_now_iff.mp hnow
      rw [RouteCache.put_others]
      exact .loaded now time answer hmiss htable

theorem RouteCache.lookup_of_fresh {now : Nat} {entry : CachedTable} (hentry : cache.entries.lookup host = some entry)
    (hfresh : now - entry.loadedAt < cache.config.maxAgeMs) :
    cache.lookup now host = (some entry.table, { cache with entries := (host, entry) :: cache.others host }) := by
  rw [lookup, hentry]
  dsimp only
  rw [if_pos hfresh]

theorem RouteCache.lookup_of_misses {now : Nat} (h : cache.Misses now host) :
    cache.lookup now host = (none, { cache with entries := cache.others host }) := by
  obtain ⟨entry, hentry, hfresh, -⟩ | ⟨-, hlookup⟩ := cache.lookup_cases now host
  · exact absurd (h entry hentry) (Nat.not_le.mpr hfresh)
  · exact hlookup

theorem Reroutes.run (h : Reroutes cache host url events outcome next) :
    Exchange.Run (cache.reroute host url) events (outcome, next) := by
  cases h with
  | hit now hentry hfresh =>
    refine Exchange.run_now_bind_iff.mpr ⟨now, _, rfl, ?_⟩
    rw [RouteCache.lookup_of_fresh hentry hfresh]
    exact .done
  | failed now answer hmiss hread =>
    refine Exchange.run_now_bind_iff.mpr ⟨now, _, rfl, ?_⟩
    rw [RouteCache.lookup_of_misses hmiss]
    refine Exchange.run_read_bind_iff.mpr ⟨answer, _, rfl, ?_⟩
    rw [hread]
    exact .done
  | loaded now time answer hmiss hread =>
    refine Exchange.run_now_bind_iff.mpr ⟨now, _, rfl, ?_⟩
    rw [RouteCache.lookup_of_misses hmiss]
    refine Exchange.run_read_bind_iff.mpr ⟨answer, _, rfl, ?_⟩
    rw [hread, ← RouteCache.put_others]
    exact Exchange.run_map_iff.mpr ⟨time, Exchange.run_now_iff.mpr rfl, rfl⟩

/-! ### What a call leaves -/

theorem Reroutes.config_eq (h : Reroutes cache host url events outcome next) : next.config = cache.config := by
  cases h <;> rfl

/-- What the cache holds for a host afterwards the call has read, or it held it before and the call has not read the
document of that host. -/
theorem Reroutes.lookup_after {other : String} {entry : CachedTable}
    (h : Reroutes cache host url events outcome next) (hentry : next.entries.lookup other = some entry) :
    (cache.entries.lookup other = some entry ∧ ∀ answer, .readDocument (.routes other) answer ∉ events) ∨
      ∃ answer, .readDocument (.routes other) answer ∈ events ∧ RouteTable.ofRead answer = .ok entry.table := by
  cases h with
  | hit now hfound hfresh =>
    have hnoRead : ∀ answer, Event.readDocument (.routes other) answer ∉ [.readClock now] := by simp
    rw [Entries.lookup_cons_ite, RouteCache.lookup_others] at hentry
    split at hentry
    · next hother => exact .inl ⟨by rw [hother, hfound, hentry], hnoRead⟩
    · exact .inl ⟨hentry, hnoRead⟩
  | failed now answer hmiss hread =>
    rw [RouteCache.lookup_others] at hentry
    split at hentry
    · cases hentry
    · next hother => exact .inl ⟨hentry, by simp [DocumentKey.routes_inj, hother]⟩
  | loaded now time answer hmiss hread =>
    have hput := Entries.lookup_of_take hentry
    rw [Entries.lookup_cons_ite, RouteCache.lookup_others] at hput
    split at hput
    · next hother =>
      cases hput
      exact .inr ⟨answer, by simp [hother], hread⟩
    · next hother => exact .inl ⟨hput, by simp [DocumentKey.routes_inj, hother]⟩

/-- A call that succeeds is answered by the table that the cache holds for its host afterwards. -/
theorem Reroutes.target_of_ok {target : Option RouteTarget} (h : Reroutes cache host url events (.ok target) next) :
    ∃ entry, next.entries.lookup host = some entry ∧ target = entry.table.resolve host url := by
  cases h with
  | hit now hfound hfresh => exact ⟨_, by rw [Entries.lookup_cons_ite, if_pos rfl], rfl⟩
  | @loaded table now time answer hmiss hread =>
    obtain ⟨n, hn⟩ := Nat.exists_eq_add_one.mpr cache.config.capacity_pos
    refine ⟨⟨table, time⟩, ?_, rfl⟩
    rw [RouteCache.put, hn, List.take_succ_cons, Entries.lookup_cons_ite, if_pos rfl]

/-- Only a call whose read gives no table fails; it leaves nothing for its host, and the rest as it is. -/
theorem Reroutes.of_failed_read {key : DocumentKey} {answer : ReadResult} {error : StoreError}
    (h : Reroutes cache host url events outcome next) (hread : .readDocument key answer ∈ events)
    (herror : RouteTable.ofRead answer = .error error) :
    outcome = .error (.lookup error) ∧ next.entries = cache.others host := by
  cases h with
  | hit now hfound hfresh => simp at hread
  | failed now answer' hmiss hread' =>
    obtain ⟨-, rfl⟩ : key = .routes host ∧ answer = answer' := by simpa using hread
    rw [hread'] at herror
    cases herror
    exact ⟨rfl, rfl⟩
  | loaded now time answer' hmiss hread' =>
    obtain ⟨-, rfl⟩ : key = .routes host ∧ answer = answer' := by simpa using hread
    rw [hread'] at herror
    cases herror

end

/-! ### Runs -/

/-- A call, with the store at its time. -/
structure Rerouting where
  before : RouteCache
  host : String
  url : String
  store : DocumentKey → ReadResult
  events : List Event
  outcome : Except RouteError (Option RouteTarget)
  after : RouteCache
  run : Exchange.Run (before.reroute host url) events (outcome, after)
  answered : ∀ key answer, .readDocument key answer ∈ events → answer = store key

def Event.readKey? : Event → Option DocumentKey
  | readDocument key _ => some key
  | callResolver _ _ _ | send _ _ | drawId _ | readClock _ => none

namespace Rerouting

theorem reroutes (call : Rerouting) : Reroutes call.before call.host call.url call.events call.outcome call.after :=
  .of_run call.run

def reads (call : Rerouting) : List DocumentKey := call.events.filterMap Event.readKey?

/-- The entry of the host, if there is one, has not expired when the call looks for it. -/
def FindsFresh (call : Rerouting) : Prop :=
  ∀ now rest entry, call.events = .readClock now :: rest → call.before.entries.lookup call.host = some entry →
    now - entry.loadedAt < call.before.config.maxAgeMs

/-- A call for any host comes to an end, whatever the store answers. -/
theorem exists_call (before : RouteCache) (host url : String) (outside : Outside Id) :
    ∃ call : Rerouting, call.before = before ∧ call.host = host ∧ call.url = url ∧
      call.store = outside.readDocument := by
  obtain ⟨events, hrun, hanswered⟩ := Exchange.exists_run outside (before.reroute host url)
  exact ⟨⟨before, host, url, outside.readDocument, events, _, _, hrun, fun _ _ hread => (hanswered _ hread).symm⟩, rfl,
    rfl, rfl, rfl⟩

theorem lookup_eq_none {call : Rerouting} (hfresh : call.FindsFresh) {now : Nat} {rest : List Event}
    (hevents : call.events = .readClock now :: rest) (hmiss : call.before.Misses now call.host) :
    call.before.entries.lookup call.host = none := by
  cases hentry : call.before.entries.lookup call.host with
  | none => rfl
  | some entry => exact absurd (hmiss entry hentry) (Nat.not_le.mpr (hfresh now rest entry hevents hentry))

end Rerouting

/-- `RerouteRun config history cache`: from an empty cache, the calls of the history lead to the cache; the last of them
stands first. -/
inductive RerouteRun (config : RouteCacheConfig) : List Rerouting → RouteCache → Prop
  | nil : RerouteRun config [] ⟨config, []⟩
  | cons {history : List Rerouting} (call : Rerouting) : RerouteRun config history call.before →
      RerouteRun config (call :: history) call.after

theorem RerouteRun.config_eq {config : RouteCacheConfig} {history : List Rerouting} {cache : RouteCache}
    (h : RerouteRun config history cache) : cache.config = config := by
  induction h with
  | nil => rfl
  | cons call _ ih => exact call.reroutes.config_eq.trans ih

end AggregateGateway
