import AggregateGateway.Proofs.Routing.Reroute

/-!
Calls that reroute at the same time. A call holds the lock of the cache while it looks its host up and again while it
puts a table, and not in between; so the steps of any number of calls interleave with each other and with what becomes
of the store. The steps of a call are the rules of `CallStep`, and a run lists what happened, the last first, each with
the server before it. Versions of documents are only recorded: no step looks at them. A call whose steps are not
interrupted comes to the ends of `RouteCache.reroute`, and to no others.
-/

namespace AggregateGateway

open Json

/-! ### A store that changes -/

/-- What was written under each key, the first first, where `none` removes the document; and the keys whose reads
fail. -/
structure ChangingStore where
  written : DocumentKey → List (Option Value)
  failing : DocumentKey → Option StoreError

namespace ChangingStore

variable (store : ChangingStore) (key : DocumentKey)

-- The number of writes so far; in version zero there is no document.
def version : Nat := (store.written key).length

def documentAt (version : Nat) : Option Value := (none :: store.written key)[version]?.join

def read : ReadResult :=
  match store.failing key with
  | some error => .error error
  | none => .ok (store.documentAt key (store.version key))

def write (document? : Option Value) : ChangingStore :=
  { store with written := fun k => if k = key then store.written k ++ [document?] else store.written k }

/-- From now on reads of the key fail, or they succeed again. -/
def fail (error? : Option StoreError) : ChangingStore :=
  { store with failing := fun k => if k = key then error? else store.failing k }

theorem version_le_write (k : DocumentKey) (document? : Option Value) :
    store.version k ≤ (store.write key document?).version k := by
  unfold version write
  dsimp only
  split
  · rw [List.length_append]
    exact Nat.le_add_right _ _
  · exact Nat.le_refl _

theorem documentAt_write {k : DocumentKey} {version : Nat} (h : version ≤ store.version k) (document? : Option Value) :
    (store.write key document?).documentAt k version = store.documentAt k version := by
  unfold documentAt write
  dsimp only
  split
  · have hlt : version < (none :: store.written k).length := Nat.lt_succ_of_le h
    rw [← List.cons_append, List.getElem?_append_left hlt]
  · rfl

end ChangingStore

/-! ### Calls -/

/-- A table, and the version of the route document that it was read from. -/
structure VersionedTable where
  version : Nat
  table : RouteTable
deriving DecidableEq, Repr

/-- Where a call stands. -/
inductive CallPhase
  | begun
  /-- The cache has no fresh table; the lock is released. -/
  | missed
  /-- The table is read, and still to be put. -/
  | loaded (held : VersionedTable)
  /-- The table is found in the cache or put there. -/
  | found (held : VersionedTable)
  /-- The read gave no table. -/
  | failed (error : StoreError)
  | answered (version : Nat) (target : Option RouteTarget)
  | refused (error : StoreError)
deriving DecidableEq, Repr

namespace CallPhase

/-- The table that a call in flight holds. -/
def held? : CallPhase → Option VersionedTable
  | loaded held | found held => some held
  | begun | missed | failed _ | answered _ _ | refused _ => none

def outcome? : CallPhase → Option (Except RouteError (Option RouteTarget))
  | answered _ target => some (.ok target)
  | refused error => some (.error (.lookup error))
  | begun | missed | loaded _ | found _ | failed _ => none

end CallPhase

structure RouteCall where
  host : String
  url : String
  phase : CallPhase
deriving DecidableEq, Repr

/-- What a call does without being interrupted. Times are those of the clock, and nothing is assumed of them. -/
inductive CallAction
  | lookup (now : Nat)
  | read
  | put (time : Nat)
  | answer
deriving DecidableEq, Repr

/-- What all calls have in common: the cache, the store, and for each host the version of the table that was put
last. -/
structure SharedRoutes where
  cache : RouteCache
  store : ChangingStore
  putVersion : String → Nat

def SharedRoutes.put (shared : SharedRoutes) (time : Nat) (host : String) (held : VersionedTable) : SharedRoutes :=
  { shared with
    cache := shared.cache.put time host held.table
    putVersion := fun h => if h = host then held.version else shared.putVersion h }

/-- The steps of one call for a URL on a host. -/
inductive CallStep (host url : String) : SharedRoutes → CallPhase → CallAction → SharedRoutes → CallPhase → Prop
  | hit {shared : SharedRoutes} {table : RouteTable} {cache : RouteCache} (now : Nat) :
      shared.cache.lookup now host = (some table, cache) →
      CallStep host url shared .begun (.lookup now) { shared with cache := cache }
        (.found ⟨shared.putVersion host, table⟩)
  | miss {shared : SharedRoutes} {cache : RouteCache} (now : Nat) : shared.cache.lookup now host = (none, cache) →
      CallStep host url shared .begun (.lookup now) { shared with cache := cache } .missed
  | load {shared : SharedRoutes} {table : RouteTable} :
      RouteTable.ofRead (shared.store.read (.routes host)) = .ok table →
      CallStep host url shared .missed .read shared (.loaded ⟨shared.store.version (.routes host), table⟩)
  | fail {shared : SharedRoutes} {error : StoreError} :
      RouteTable.ofRead (shared.store.read (.routes host)) = .error error →
      CallStep host url shared .missed .read shared (.failed error)
  | put {shared : SharedRoutes} {held : VersionedTable} (time : Nat) :
      CallStep host url shared (.loaded held) (.put time) (shared.put time host held) (.found held)
  | answer {shared : SharedRoutes} {held : VersionedTable} :
      CallStep host url shared (.found held) .answer shared
        (.answered held.version (held.table.resolve host url))
  | refuse {shared : SharedRoutes} {error : StoreError} :
      CallStep host url shared (.failed error) .answer shared (.refused error)

/-! ### Servers -/

/-- A server that reroutes. Calls are told apart by their positions, in the order in which they start. -/
structure RouteServer where
  shared : SharedRoutes
  calls : List RouteCall

inductive ServerEvent
  | write (key : DocumentKey) (document? : Option Value)
  | fail (key : DocumentKey) (error? : Option StoreError)
  | begin (host url : String)
  | act (id : Nat) (action : CallAction)

namespace RouteServer

/-- Nothing is cached at the start; the store may hold anything. -/
def start (config : RouteCacheConfig) (store : ChangingStore) : RouteServer := ⟨⟨⟨config, []⟩, store, fun _ => 0⟩, []⟩

inductive Step (server : RouteServer) : ServerEvent → RouteServer → Prop
  | write (key : DocumentKey) (document? : Option Value) : Step server (.write key document?)
      { server with shared := { server.shared with store := server.shared.store.write key document? } }
  | fail (key : DocumentKey) (error? : Option StoreError) : Step server (.fail key error?)
      { server with shared := { server.shared with store := server.shared.store.fail key error? } }
  | begin (host url : String) : Step server (.begin host url)
      { server with calls := server.calls ++ [⟨host, url, .begun⟩] }
  | act {host url : String} {action : CallAction} {phase next : CallPhase} {shared : SharedRoutes} (id : Nat) :
      server.calls[id]? = some ⟨host, url, phase⟩ → CallStep host url server.shared phase action shared next →
      Step server (.act id action) ⟨shared, server.calls.set id ⟨host, url, next⟩⟩

structure Moment where
  before : RouteServer
  event : ServerEvent

/-- `Run first history server`: from the first server, the history leads to the server; what happened last stands
first. -/
inductive Run (first : RouteServer) : List Moment → RouteServer → Prop
  | nil : Run first [] first
  | cons {history : List Moment} {server next : RouteServer} {event : ServerEvent} : Run first history server →
      Step server event next → Run first (⟨server, event⟩ :: history) next

theorem Run.append {first server next : RouteServer} {history later : List Moment} (h : Run first history server)
    (hlater : Run server later next) : Run first (later ++ history) next := by
  induction hlater with
  | nil => exact h
  | cons _ hstep ih => exact .cons ih hstep

/-! ### One step -/

variable {server next : RouteServer} {event : ServerEvent}

/-- A call after a step: it was there as it is, or it has just started, or it has just acted. -/
theorem Step.call_cases (h : Step server event next) {id : Nat} {call : RouteCall}
    (hcall : next.calls[id]? = some call) :
    server.calls[id]? = some call ∨ (id = server.calls.length ∧ call.phase = .begun) ∨
      ∃ action phase, event = .act id action ∧ server.calls[id]? = some ⟨call.host, call.url, phase⟩ ∧
        CallStep call.host call.url server.shared phase action next.shared call.phase := by
  cases h with
  | write | fail => exact .inl hcall
  | begin host url =>
    rw [List.getElem?_append] at hcall
    split at hcall
    · exact .inl hcall
    · next hnew =>
      obtain ⟨hid, rfl⟩ := List.getElem?_eq_some_iff.mp hcall
      rw [List.length_singleton] at hid
      exact .inr (.inl ⟨by omega, by simp⟩)
  | @act host url action phase next shared other hother hstep =>
    rw [List.getElem?_set] at hcall
    split at hcall
    · next heq =>
      subst heq
      split at hcall
      · cases hcall
        exact .inr (.inr ⟨action, phase, rfl, hother, hstep⟩)
      · cases hcall
    · exact .inl hcall

/-- A call before a step is there afterwards, as it was or where its action has led. -/
theorem Step.call_after (h : Step server event next) {id : Nat} {call : RouteCall}
    (hcall : server.calls[id]? = some call) :
    next.calls[id]? = some call ∨ ∃ action phase, event = .act id action ∧
      next.calls[id]? = some ⟨call.host, call.url, phase⟩ ∧
      CallStep call.host call.url server.shared call.phase action next.shared phase := by
  have hid : id < server.calls.length := (List.getElem?_eq_some_iff.mp hcall).1
  cases h with
  | write | fail => exact .inl hcall
  | begin host url => exact .inl (by rw [List.getElem?_append_left hid, hcall])
  | @act host url action phase after shared other hother hstep =>
    by_cases heq : other = id
    · subst heq
      obtain rfl := Option.some.inj (hcall.symm.trans hother)
      exact .inr ⟨action, after, rfl, List.getElem?_set_self hid, hstep⟩
    · exact .inl (by rw [List.getElem?_set_ne heq, hcall])

theorem Step.length_le (h : Step server event next) : server.calls.length ≤ next.calls.length := by
  cases h with
  | write | fail => exact Nat.le_refl _
  | begin host url => simp
  | act id hcall hstep => simp

end RouteServer

/-! ### A call alone -/

/-- Steps of a call that follow one another, with nothing in between. -/
inductive CallRun (host url : String) : SharedRoutes → CallPhase → SharedRoutes → CallPhase → Prop
  | refl {shared : SharedRoutes} {phase : CallPhase} : CallRun host url shared phase shared phase
  | step {shared middle next : SharedRoutes} {phase after last : CallPhase} {action : CallAction} :
      CallStep host url shared phase action middle after → CallRun host url middle after next last →
      CallRun host url shared phase next last

namespace CallRun

variable {host url : String} {shared next : SharedRoutes} {phase last : CallPhase}
  {outcome : Except RouteError (Option RouteTarget)}

theorem of_answered {version : Nat} {target : Option RouteTarget}
    (h : CallRun host url shared (.answered version target) next last) :
    next = shared ∧ last = .answered version target := by
  cases h with
  | refl => exact ⟨rfl, rfl⟩
  | step hstep _ => cases hstep

theorem of_found {held : VersionedTable} (h : CallRun host url shared (.found held) next last)
    (hend : last.outcome? = some outcome) : next = shared ∧ outcome = .ok (held.table.resolve host url) := by
  cases h with
  | refl => cases hend
  | step hstep hrest =>
    cases hstep with
    | answer =>
      obtain ⟨rfl, rfl⟩ := hrest.of_answered
      exact ⟨rfl, (Option.some.inj hend).symm⟩

theorem of_failed {error : StoreError} (h : CallRun host url shared (.failed error) next last)
    (hend : last.outcome? = some outcome) : next = shared ∧ outcome = .error (.lookup error) := by
  cases h with
  | refl => cases hend
  | step hstep hrest =>
    cases hstep with
    | refuse =>
      cases hrest with
      | refl => exact ⟨rfl, (Option.some.inj hend).symm⟩
      | step hstep _ => cases hstep

theorem of_loaded {held : VersionedTable} (h : CallRun host url shared (.loaded held) next last)
    (hend : last.outcome? = some outcome) :
    ∃ time, next = shared.put time host held ∧ outcome = .ok (held.table.resolve host url) := by
  cases h with
  | refl => cases hend
  | step hstep hrest =>
    cases hstep with
    | put time => exact ⟨time, hrest.of_found hend⟩

/-- From a miss on, a call reads, and puts what it has read. -/
theorem of_missed (h : CallRun host url shared .missed next last) (hend : last.outcome? = some outcome) :
    (∃ error, RouteTable.ofRead (shared.store.read (.routes host)) = .error error ∧ next = shared ∧
        outcome = .error (.lookup error)) ∨
      ∃ table time, RouteTable.ofRead (shared.store.read (.routes host)) = .ok table ∧
        next.cache = shared.cache.put time host table ∧ outcome = .ok (table.resolve host url) := by
  cases h with
  | refl => cases hend
  | step hstep hrest =>
    cases hstep with
    | fail hread => exact .inl ⟨_, hread, hrest.of_failed hend⟩
    | load hread =>
      obtain ⟨time, rfl, houtcome⟩ := hrest.of_loaded hend
      exact .inr ⟨_, time, hread, rfl, houtcome⟩

theorem reroutes (h : CallRun host url shared .begun next last) (hend : last.outcome? = some outcome) :
    ∃ events, Reroutes shared.cache host url events outcome next.cache ∧
      ∀ key answer, .readDocument key answer ∈ events → answer = shared.store.read key := by
  cases h with
  | refl => cases hend
  | step hstep hrest =>
    cases hstep with
    | hit now hlookup =>
      obtain ⟨rfl, rfl⟩ := hrest.of_found hend
      obtain ⟨entry, hentry, hfresh, hcases⟩ | ⟨-, hcases⟩ := shared.cache.lookup_cases now host
      · obtain ⟨htable, rfl⟩ := Prod.mk.inj (hlookup.symm.trans hcases)
        cases htable
        exact ⟨_, .hit now hentry hfresh, by simp⟩
      · cases hlookup.symm.trans hcases
    | miss now hlookup =>
      obtain ⟨entry, _, _, hcases⟩ | ⟨hmiss, hcases⟩ := shared.cache.lookup_cases now host
      · cases hlookup.symm.trans hcases
      · obtain ⟨-, rfl⟩ := Prod.mk.inj (hlookup.symm.trans hcases)
        obtain ⟨error, hread, rfl, rfl⟩ | ⟨table, time, hread, hcache, rfl⟩ := hrest.of_missed hend
        · exact ⟨_, .failed now _ hmiss hread, by simp⟩
        · rw [hcache, RouteCache.put_others]
          exact ⟨_, .loaded now time _ hmiss hread, by simp⟩

theorem of_reroutes {events : List Event} {cache : RouteCache} (h : Reroutes shared.cache host url events outcome cache)
    (hanswered : ∀ key answer, .readDocument key answer ∈ events → answer = shared.store.read key) :
    ∃ next last, CallRun host url shared .begun next last ∧ last.outcome? = some outcome ∧ next.cache = cache := by
  cases h with
  | hit now hentry hfresh =>
    have hlookup := RouteCache.lookup_of_fresh hentry hfresh
    exact ⟨_, _, .step (.hit now hlookup) (.step .answer .refl), rfl, rfl⟩
  | failed now answer hmiss hread =>
    obtain rfl := hanswered (.routes host) answer (by simp)
    have hlookup := RouteCache.lookup_of_misses hmiss
    exact ⟨_, _, .step (.miss now hlookup) (.step (.fail hread) (.step .refuse .refl)), rfl, rfl⟩
  | loaded now time answer hmiss hread =>
    obtain rfl := hanswered (.routes host) answer (by simp)
    have hlookup := RouteCache.lookup_of_misses hmiss
    exact ⟨_, _, .step (.miss now hlookup) (.step (.load hread) (.step (.put time) (.step .answer .refl))), rfl,
      RouteCache.put_others _ _ _ _⟩

/-- A call whose steps follow one another does what rerouting does: it comes to the same ends, and leaves the same
caches. -/
theorem exists_iff_reroute {cache : RouteCache} :
    (∃ next last, CallRun host url shared .begun next last ∧ last.outcome? = some outcome ∧ next.cache = cache) ↔
      ∃ events, Exchange.Run (shared.cache.reroute host url) events (outcome, cache) ∧
        ∀ key answer, .readDocument key answer ∈ events → answer = shared.store.read key := by
  constructor
  · rintro ⟨next, last, hrun, hend, rfl⟩
    obtain ⟨events, hreroutes, hanswered⟩ := hrun.reroutes hend
    exact ⟨events, hreroutes.run, hanswered⟩
  · rintro ⟨events, hrun, hanswered⟩
    exact of_reroutes (.of_run hrun) hanswered

theorem exists_end (host url : String) (shared : SharedRoutes) (phase : CallPhase) :
    ∃ next last, CallRun host url shared phase next last ∧ last.outcome?.isSome := by
  have hfound : ∀ shared held, ∃ next last, CallRun host url shared (.found held) next last ∧ last.outcome?.isSome :=
    fun _ _ => ⟨_, _, .step .answer .refl, rfl⟩
  have hmissed : ∀ shared, ∃ next last, CallRun host url shared .missed next last ∧ last.outcome?.isSome := by
    intro shared
    cases hread : RouteTable.ofRead (shared.store.read (.routes host)) with
    | error error => exact ⟨_, _, .step (.fail hread) (.step .refuse .refl), rfl⟩
    | ok table =>
      obtain ⟨next, last, hrun, hend⟩ := hfound (shared.put 0 host ⟨shared.store.version (.routes host), table⟩) _
      exact ⟨next, last, .step (.load hread) (.step (.put 0) hrun), hend⟩
  cases phase with
  | begun =>
    rcases hlookup : shared.cache.lookup 0 host with ⟨found, cache⟩
    cases found with
    | some table =>
      obtain ⟨next, last, hrun, hend⟩ := hfound { shared with cache := cache } ⟨shared.putVersion host, table⟩
      exact ⟨next, last, .step (.hit 0 hlookup) hrun, hend⟩
    | none =>
      obtain ⟨next, last, hrun, hend⟩ := hmissed { shared with cache := cache }
      exact ⟨next, last, .step (.miss 0 hlookup) hrun, hend⟩
  | missed => exact hmissed shared
  | loaded held =>
    obtain ⟨next, last, hrun, hend⟩ := hfound (shared.put 0 host held) held
    exact ⟨next, last, .step (.put 0) hrun, hend⟩
  | found held => exact hfound shared held
  | failed error => exact ⟨_, _, .step .refuse .refl, rfl⟩
  | answered | refused => exact ⟨_, _, .refl, rfl⟩

/-- On a server, a call may go on without being interrupted. -/
theorem run {first : RouteServer} {history : List RouteServer.Moment} {calls : List RouteCall} {id : Nat}
    (h : CallRun host url shared phase next last) (hid : id < calls.length)
    (hrun : RouteServer.Run first history ⟨shared, calls.set id ⟨host, url, phase⟩⟩) :
    ∃ history, RouteServer.Run first history ⟨next, calls.set id ⟨host, url, last⟩⟩ := by
  induction h generalizing history with
  | refl => exact ⟨history, hrun⟩
  | step hstep _ ih =>
    have hnext := RouteServer.Run.cons hrun (.act id (List.getElem?_set_self hid) hstep)
    rw [List.set_set] at hnext
    exact ih hnext

end CallRun

/-- No call waits for another: each may come to its end at any time, whatever the others have done. -/
theorem RouteServer.exists_end {server : RouteServer} {id : Nat} {call : RouteCall}
    (hcall : server.calls[id]? = some call) :
    ∃ history next phase, Run server history next ∧ next.calls[id]? = some ⟨call.host, call.url, phase⟩ ∧
      phase.outcome?.isSome := by
  obtain ⟨hid, hget⟩ := List.getElem?_eq_some_iff.mp hcall
  obtain ⟨next, last, hrun, hend⟩ := CallRun.exists_end call.host call.url server.shared call.phase
  have hnow : Run server [] ⟨server.shared, server.calls.set id call⟩ := by
    rw [← hget, List.set_getElem_self]
    exact .nil
  obtain ⟨history, hlater⟩ := hrun.run hid hnow
  exact ⟨history, _, last, hlater, List.getElem?_set_self hid, hend⟩

end AggregateGateway
