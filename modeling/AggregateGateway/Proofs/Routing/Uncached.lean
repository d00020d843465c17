import AggregateGateway.Proofs.Routing.Reroute

/-!
Rerouting with and without a cache. Without one, the route document of the host is read and decoded for every call. With
a cache whose entries expire at once the answers are the same; with any other cache the table that answers a call is the
one that was made at the last read of its host that gave one. A read that gives none leaves no entry for its host and
leaves those of the other hosts as they are.
-/

namespace AggregateGateway

/-- Where a URL on a host goes by the route document that the store holds now. -/
def rerouteUncached (store : DocumentKey → ReadResult) (host url : String) : Except RouteError (Option RouteTarget) :=
  match store (.routes host) with
  | .error error => .error (.lookup error)
  | .ok none => .ok (({} : RouteTable).resolve host url)
  | .ok (some document) =>
    match RouteTable.decode document with
    | .error error => .error (.lookup (.ofDecodeError error))
    | .ok table => .ok (table.resolve host url)

theorem rerouteUncached_eq (store : DocumentKey → ReadResult) (host url : String) :
    rerouteUncached store host url =
      match RouteTable.ofRead (store (.routes host)) with
      | .error error => .error (.lookup error)
      | .ok table => .ok (table.resolve host url) := by
  rw [rerouteUncached]
  cases store (.routes host) with
  | error error => rfl
  | ok document =>
    cases document with
    | none => rfl
    | some document =>
      simp only [RouteTable.ofRead]
      cases RouteTable.decode document <;> rfl

theorem rerouteUncached_of_ok {store : DocumentKey → ReadResult} {host : String} {table : RouteTable}
    (h : RouteTable.ofRead (store (.routes host)) = .ok table) (url : String) :
    rerouteUncached store host url = .ok (table.resolve host url) := by
  rw [rerouteUncached_eq, h]

theorem rerouteUncached_of_error {store : DocumentKey → ReadResult} {host : String} {error : StoreError}
    (h : RouteTable.ofRead (store (.routes host)) = .error error) (url : String) :
    rerouteUncached store host url = .error (.lookup error) := by
  rw [rerouteUncached_eq, h]

/-! ### The last read of a host -/

theorem Rerouting.mem_reads_iff {call : Rerouting} {key : DocumentKey} :
    key ∈ call.reads ↔ ∃ answer, .readDocument key answer ∈ call.events := by
  rw [Rerouting.reads, List.mem_filterMap]
  constructor
  · rintro ⟨event, hevent, hkey⟩
    cases event with
    | readDocument key' answer =>
      cases hkey
      exact ⟨answer, hevent⟩
    | callResolver uri request response | send request response | drawId id | readClock now => cases hkey
  · rintro ⟨answer, hevent⟩
    exact ⟨_, hevent, rfl⟩

/-- The last call that read the route document of a host, with success or without. -/
def lastRead? (history : List Rerouting) (host : String) : Option Rerouting :=
  history.find? fun call => .routes host ∈ call.reads

theorem lastRead?_cons_of_mem {call : Rerouting} {host : String} (h : .routes host ∈ call.reads)
    (history : List Rerouting) : lastRead? (call :: history) host = some call :=
  List.find?_cons_of_pos (by simpa using h)

theorem lastRead?_cons_of_notMem {call : Rerouting} {host : String} (h : .routes host ∉ call.reads)
    (history : List Rerouting) : lastRead? (call :: history) host = lastRead? history host :=
  List.find?_cons_of_neg (by simpa using h)

section
variable {config : RouteCacheConfig} {history : List Rerouting} {cache : RouteCache}

/-- The tables in the cache are those of the last reads of their hosts; a failed read of a host removes its table. -/
theorem table_of_run (h : RerouteRun config history cache) {host : String} {entry : CachedTable}
    (hentry : cache.entries.lookup host = some entry) :
    ∃ last, lastRead? history host = some last ∧
      RouteTable.ofRead (last.store (.routes host)) = .ok entry.table := by
  induction h with
  | nil => cases hentry
  | @cons history call _ ih =>
    obtain ⟨hbefore, hnoRead⟩ | ⟨answer, hread, htable⟩ := call.reroutes.lookup_after hentry
    · have hnotMem : .routes host ∉ call.reads := by
        rw [Rerouting.mem_reads_iff]
        rintro ⟨answer, hread⟩
        exact hnoRead answer hread
      rw [lastRead?_cons_of_notMem hnotMem]
      exact ih hbefore
    · have hmem : .routes host ∈ call.reads := Rerouting.mem_reads_iff.mpr ⟨answer, hread⟩
      refine ⟨call, lastRead?_cons_of_mem hmem history, ?_⟩
      rw [← call.answered _ _ hread]
      exact htable

/-! ### One call of a run -/

/-- If entries expire at once, every call reads the document of its host once. -/
theorem Rerouting.uncached_of_zero_age (call : Rerouting) (hage : call.before.config.maxAgeMs = 0) :
    call.reads = [.routes call.host] ∧ call.outcome = rerouteUncached call.store call.host call.url := by
  obtain ⟨before, host, url, store, events, outcome, after, hrun, hanswered⟩ := call
  dsimp only at hage ⊢
  cases Reroutes.of_run hrun with
  | hit now hentry hfresh =>
    rw [hage] at hfresh
    exact absurd hfresh (Nat.not_lt_zero _)
  | failed now answer hmiss hread =>
    obtain rfl := hanswered (.routes host) answer (by simp)
    exact ⟨rfl, (rerouteUncached_of_error hread url).symm⟩
  | loaded now time answer hmiss hread =>
    obtain rfl := hanswered (.routes host) answer (by simp)
    exact ⟨rfl, (rerouteUncached_of_ok hread url).symm⟩

/-- The answers of a call that ends a run, beside those of rerouting without a cache. -/
structure AgreesUncached (config : RouteCacheConfig) (history : List Rerouting) (call : Rerouting) : Prop where
  /-- The two are the same if entries expire at once. -/
  expiring : config.maxAgeMs = 0 →
    call.reads = [.routes call.host] ∧ call.outcome = rerouteUncached call.store call.host call.url
  /-- Whatever the age is, success is by the table of the last read of the host, this call included. -/
  succeeding : ∀ target, call.outcome = .ok target → ∃ last table, lastRead? (call :: history) call.host = some last ∧
    RouteTable.ofRead (last.store (.routes call.host)) = .ok table ∧ target = table.resolve call.host call.url ∧
    (call.store (.routes call.host) = last.store (.routes call.host) →
      call.outcome = rerouteUncached call.store call.host call.url)
  /-- A read that gives no table leaves the entries of the other hosts, in their order, and no more. -/
  failing : ∀ key answer error, .readDocument key answer ∈ call.events → RouteTable.ofRead answer = .error error →
    call.outcome = .error (.lookup error) ∧ call.after.entries = call.before.entries.filter (·.1 ≠ call.host)

theorem agreesUncached_of_run {call : Rerouting} (h : RerouteRun config (call :: history) cache) :
    AgreesUncached config history call where
  expiring hage := by
    cases h with
    | cons _ hbefore => exact call.uncached_of_zero_age (hbefore.config_eq ▸ hage)
  succeeding := by
    intro target htarget
    have hreroutes := call.reroutes
    rw [htarget] at hreroutes
    obtain ⟨entry, hentry, rfl⟩ := hreroutes.target_of_ok
    have hafter : cache = call.after := by cases h with | cons => rfl
    obtain ⟨last, hlast, htable⟩ := table_of_run h (hafter ▸ hentry)
    refine ⟨last, entry.table, hlast, htable, rfl, fun hsame => ?_⟩
    rw [htarget, rerouteUncached_of_ok (hsame ▸ htable)]
  failing _ _ _ hread herror := call.reroutes.of_failed_read hread herror

/-- After every run, a call for any host, with any store, leads to a longer run, and its answer agrees with rerouting
without a cache. -/
theorem reroute_agrees_uncached (h : RerouteRun config history cache) :
    (∀ call : Rerouting, call.before = cache → AgreesUncached config history call) ∧
      ∀ host url (outside : Outside Id), ∃ call : Rerouting, call.before = cache ∧ call.host = host ∧ call.url = url ∧
        call.store = outside.readDocument ∧ RerouteRun config (call :: history) call.after := by
  refine ⟨?_, fun host url outside => ?_⟩
  · rintro call rfl
    exact agreesUncached_of_run (.cons call h)
  · obtain ⟨call, rfl, hhost, hurl, hstore⟩ := Rerouting.exists_call cache host url outside
    exact ⟨call, rfl, hhost, hurl, hstore, .cons call h⟩

/-- A table that was read before the store went down still answers. -/
theorem stale_table_answers :
    let config : RouteCacheConfig := ⟨1, 10⟩
    let table : RouteTable := { routes := [{ path := "/shop", view := some "https://view.example" }] }
    let start : RouteCache := ⟨config, []⟩
    let first : Rerouting :=
      { before := start, host := "a", url := "/", store := fun _ => .ok (some table.encode),
        events := [.readClock 0, .readDocument (.routes "a") (.ok (some table.encode)), .readClock 1],
        outcome := .ok none, after := start.put 1 "a" table,
        run := Reroutes.run (.loaded 0 1 (.ok (some table.encode)) (by rintro entry ⟨⟩) rfl), answered := by simp }
    let second : Rerouting :=
      { before := first.after, host := "a", url := "/shop/cart", store := fun _ => .error (.unavailable "down"),
        events := [.readClock 2], outcome := .ok (some ⟨"https://view.example", "a"⟩), after := first.after,
        run := Reroutes.run (@Reroutes.hit first.after "a" "/shop/cart" ⟨table, 1⟩ 2 rfl (by decide)),
        answered := fun _ _ h => nomatch List.mem_singleton.mp h }
    RerouteRun config [first] first.after ∧ AgreesUncached config [first] second ∧
      rerouteUncached second.store "a" "/shop/cart" = .error (.lookup (.unavailable "down")) := by
  intro config table start first second
  have hfirst : RerouteRun config [first] first.after := .cons first .nil
  obtain ⟨hagrees, -⟩ := reroute_agrees_uncached hfirst
  exact ⟨hfirst, hagrees second rfl, rfl⟩

end

end AggregateGateway
