import AggregateGateway.Proofs.Routing.Interleaving

/-!
Interleaved calls stay apart. Whatever the order of their steps, every table that is cached or held for a host was read
from the route document of this host, a call is answered by such a table, a call whose read gives no table puts none,
and the cache never holds more hosts than it may. Each of these is kept by one step, and so by a run.
-/

namespace AggregateGateway

open Json

/-! ### Entries -/

namespace RouteCache

variable {cache next : RouteCache} {host : String} {now : Nat} {found : Option RouteTable}

theorem mem_entries_of_lookup {entries : List (String × CachedTable)} {entry : CachedTable}
    (h : entries.lookup host = some entry) : (host, entry) ∈ entries := by
  obtain ⟨before, after, rfl, -⟩ := List.lookup_eq_some_iff.mp h
  simp

theorem mem_of_mem_others {pair : String × CachedTable} (h : pair ∈ cache.others host) : pair ∈ cache.entries :=
  (List.mem_filter.mp h).1

theorem length_others_lt {entry : CachedTable} (h : cache.entries.lookup host = some entry) :
    (cache.others host).length < cache.entries.length :=
  List.length_filter_lt_length_iff_exists.mpr ⟨(host, entry), mem_entries_of_lookup h, by simp⟩

/-- Looking up adds nothing. -/
theorem mem_of_mem_lookup (h : cache.lookup now host = (found, next)) {pair : String × CachedTable}
    (hpair : pair ∈ next.entries) : pair ∈ cache.entries := by
  obtain ⟨entry, hentry, -, hlookup⟩ | ⟨-, hlookup⟩ := cache.lookup_cases now host
  · obtain ⟨-, rfl⟩ := Prod.mk.inj (hlookup.symm.trans h)
    rcases List.mem_cons.mp hpair with rfl | hother
    · exact mem_entries_of_lookup hentry
    · exact mem_of_mem_others hother
  · obtain ⟨-, rfl⟩ := Prod.mk.inj (hlookup.symm.trans h)
    exact mem_of_mem_others hpair

theorem exists_entry_of_lookup {table : RouteTable} (h : cache.lookup now host = (some table, next)) :
    ∃ entry, (host, entry) ∈ cache.entries ∧ entry.table = table := by
  obtain ⟨entry, hentry, -, hlookup⟩ | ⟨-, hlookup⟩ := cache.lookup_cases now host
  · obtain ⟨htable, -⟩ := Prod.mk.inj (hlookup.symm.trans h)
    exact ⟨entry, mem_entries_of_lookup hentry, Option.some.inj htable⟩
  · cases hlookup.symm.trans h

theorem size_lookup_le (h : cache.lookup now host = (found, next)) : next.size ≤ cache.size := by
  obtain ⟨entry, hentry, -, hlookup⟩ | ⟨-, hlookup⟩ := cache.lookup_cases now host
  · obtain ⟨-, rfl⟩ := Prod.mk.inj (hlookup.symm.trans h)
    exact length_others_lt hentry
  · obtain ⟨-, rfl⟩ := Prod.mk.inj (hlookup.symm.trans h)
    exact List.length_filter_le _ _

theorem config_lookup (h : cache.lookup now host = (found, next)) : next.config = cache.config := by
  obtain ⟨entry, -, -, hlookup⟩ | ⟨-, hlookup⟩ := cache.lookup_cases now host <;>
    obtain ⟨-, rfl⟩ := Prod.mk.inj (hlookup.symm.trans h) <;> rfl

/-- Of a host that is put only the new table is held. -/
theorem mem_put_cases {time : Nat} {table : RouteTable} {pair : String × CachedTable}
    (h : pair ∈ (cache.put time host table).entries) :
    pair = (host, ⟨table, time⟩) ∨ (pair ∈ cache.entries ∧ pair.1 ≠ host) := by
  rcases List.mem_cons.mp (List.mem_of_mem_take h) with heq | hother
  · exact .inl heq
  · exact .inr ⟨mem_of_mem_others hother, by simpa using (List.mem_filter.mp hother).2⟩

end RouteCache

/-! ### One step of a call -/

namespace CallStep

variable {host url : String} {shared next : SharedRoutes} {phase after : CallPhase} {action : CallAction}

/-- An entry afterwards was there, or the call has just put it. -/
theorem entry_cases (h : CallStep host url shared phase action next after) {pair : String × CachedTable}
    (hpair : pair ∈ next.cache.entries) :
    (pair ∈ shared.cache.entries ∧ next.putVersion pair.1 = shared.putVersion pair.1) ∨
      ∃ held time, phase = .loaded held ∧ action = .put time ∧ pair = (host, ⟨held.table, time⟩) ∧
        next.putVersion host = held.version := by
  cases h with
  | hit now hlookup | miss now hlookup => exact .inl ⟨RouteCache.mem_of_mem_lookup hlookup hpair, rfl⟩
  | load | fail | answer | refuse => exact .inl ⟨hpair, rfl⟩
  | @put held time =>
    rcases RouteCache.mem_put_cases hpair with heq | ⟨hmem, hne⟩
    · exact .inr ⟨held, time, rfl, rfl, heq, if_pos rfl⟩
    · exact .inl ⟨hmem, if_neg hne⟩

/-- A table that a call holds afterwards it has held before, found in the cache, or just read. -/
theorem held_cases (h : CallStep host url shared phase action next after) {held : VersionedTable}
    (hheld : after.held? = some held) :
    phase.held? = some held ∨
      (∃ entry, (host, entry) ∈ shared.cache.entries ∧ held = ⟨shared.putVersion host, entry.table⟩) ∨
      (phase = .missed ∧ action = .read ∧ held.version = shared.store.version (.routes host) ∧
        RouteTable.ofRead (shared.store.read (.routes host)) = .ok held.table) := by
  cases h with
  | hit now hlookup =>
    obtain ⟨entry, hentry, rfl⟩ := RouteCache.exists_entry_of_lookup hlookup
    cases hheld
    exact .inr (.inl ⟨entry, hentry, rfl⟩)
  | miss | fail | answer | refuse => cases hheld
  | load hread =>
    cases hheld
    exact .inr (.inr ⟨rfl, rfl, rfl, hread⟩)
  | put time => exact .inl hheld

theorem of_answered {version : Nat} {target : Option RouteTarget}
    (h : CallStep host url shared phase action next (.answered version target)) :
    ∃ held, phase.held? = some held ∧ version = held.version ∧ target = held.table.resolve host url := by
  cases h with
  | @answer held => exact ⟨held, rfl, rfl, rfl⟩

theorem outcome?_eq_none (h : CallStep host url shared phase action next after) : phase.outcome? = none := by
  cases h <;> rfl

theorem of_found {held : VersionedTable} (h : CallStep host url shared (.found held) action next after) :
    after = .answered held.version (held.table.resolve host url) := by
  cases h
  rfl

theorem of_failed {error : StoreError} (h : CallStep host url shared (.failed error) action next after) :
    after = .refused error := by
  cases h
  rfl

theorem size_le (h : CallStep host url shared phase action next after) :
    next.cache.size ≤ max shared.cache.size shared.cache.config.capacity := by
  cases h with
  | hit now hlookup | miss now hlookup => exact Nat.le_trans (RouteCache.size_lookup_le hlookup) (Nat.le_max_left _ _)
  | load | fail | answer | refuse => exact Nat.le_max_left _ _
  | put time => exact Nat.le_trans (List.length_take_le _ _) (Nat.le_max_right _ _)

theorem config_eq (h : CallStep host url shared phase action next after) :
    next.cache.config = shared.cache.config := by
  cases h with
  | hit now hlookup | miss now hlookup => exact RouteCache.config_lookup hlookup
  | load | fail | answer | refuse | put => rfl

end CallStep

namespace RouteServer

/-! ### Where tables come from -/

/-- At some moment a call for the host has read this table from the route document of the host in this version; without
a document the table is empty. -/
def WasRead (history : List Moment) (host : String) (version : Nat) (table : RouteTable) : Prop :=
  ∃ (before : RouteServer) (id : Nat) (url : String) (document? : Option Value),
    ⟨before, .act id .read⟩ ∈ history ∧ before.calls[id]? = some ⟨host, url, .missed⟩ ∧
    before.shared.store.read (.routes host) = .ok document? ∧ before.shared.store.version (.routes host) = version ∧
    RouteTable.ofRead (.ok document?) = .ok table

/-- The tables of a server, as far back as they were read. -/
structure Traced (history : List Moment) (server : RouteServer) : Prop where
  cached : ∀ host entry, (host, entry) ∈ server.shared.cache.entries →
    WasRead history host (server.shared.putVersion host) entry.table
  held : ∀ (id : Nat) (call : RouteCall) (held : VersionedTable), server.calls[id]? = some call →
    call.phase.held? = some held → WasRead history call.host held.version held.table
  answered : ∀ (id : Nat) (call : RouteCall) (version : Nat) (target : Option RouteTarget),
    server.calls[id]? = some call → call.phase = .answered version target →
    ∃ table, WasRead history call.host version table ∧ target = table.resolve call.host call.url

variable {config : RouteCacheConfig} {store : ChangingStore} {history : List Moment} {server next : RouteServer}
  {event : ServerEvent} {moment : Moment}

theorem WasRead.cons {host : String} {version : Nat} {table : RouteTable} (h : WasRead history host version table) :
    WasRead (moment :: history) host version table := by
  obtain ⟨before, id, url, document?, hread, hrest⟩ := h
  exact ⟨before, id, url, document?, List.mem_cons_of_mem _ hread, hrest⟩

theorem WasRead.of_step {id : Nat} {host url : String} {table : RouteTable}
    (hcall : server.calls[id]? = some ⟨host, url, .missed⟩)
    (hread : RouteTable.ofRead (server.shared.store.read (.routes host)) = .ok table) :
    WasRead (⟨server, .act id .read⟩ :: history) host (server.shared.store.version (.routes host)) table := by
  cases hanswer : server.shared.store.read (.routes host) with
  | error error =>
    rw [hanswer] at hread
    cases hread
  | ok document? =>
    rw [hanswer] at hread
    exact ⟨server, id, url, document?, List.mem_cons_self, hcall, hanswer, rfl, hread⟩

theorem Traced.step (h : Traced history server) (hstep : Step server event next) :
    Traced (⟨server, event⟩ :: history) next := by
  have hentries : ∀ host entry, (host, entry) ∈ server.shared.cache.entries →
      WasRead (⟨server, event⟩ :: history) host (server.shared.putVersion host) entry.table :=
    fun host entry hentry => (h.cached host entry hentry).cons
  constructor
  case cached =>
    intro host entry hentry
    cases hstep with
    | write | fail | begin => exact hentries host entry hentry
    | act id hcall hmove =>
      rcases hmove.entry_cases hentry with ⟨hmem, hversion⟩ | ⟨held, time, rfl, -, hpair, hversion⟩
      · rw [hversion]
        exact hentries host entry hmem
      · cases hpair
        rw [hversion]
        exact (h.held id _ held hcall rfl).cons
  case held =>
    intro id call held hcall hheld
    rcases hstep.call_cases hcall with hsame | ⟨-, hbegun⟩ | ⟨action, phase, rfl, hbefore, hmove⟩
    · exact (h.held id call held hsame hheld).cons
    · rw [hbegun] at hheld
      cases hheld
    · rcases hmove.held_cases hheld with hkept | ⟨entry, hentry, rfl⟩ | ⟨rfl, rfl, hversion, hread⟩
      · exact (h.held id _ held hbefore hkept).cons
      · exact hentries call.host entry hentry
      · rw [hversion]
        exact .of_step hbefore hread
  case answered =>
    intro id call version target hcall hanswered
    rcases hstep.call_cases hcall with hsame | ⟨-, hbegun⟩ | ⟨action, phase, rfl, hbefore, hmove⟩
    · obtain ⟨table, hread, htarget⟩ := h.answered id call version target hsame hanswered
      exact ⟨table, hread.cons, htarget⟩
    · cases hbegun.symm.trans hanswered
    · rw [hanswered] at hmove
      obtain ⟨held, hheld, rfl, rfl⟩ := hmove.of_answered
      exact ⟨held.table, (h.held id _ held hbefore hheld).cons, rfl⟩

theorem traced_of_run (h : Run (start config store) history server) : Traced history server := by
  induction h with
  | nil => exact ⟨fun _ _ => nofun, fun _ _ _ => nofun, fun _ _ _ _ => nofun⟩
  | cons _ hstep ih => exact ih.step hstep

/-! ### Failed reads -/

/-- The read of a call gave no table, for the store failed or the document did not decode. -/
def FailedRead (history : List Moment) (id : Nat) (host url : String) (error : StoreError) : Prop :=
  ∃ before : RouteServer, ⟨before, .act id .read⟩ ∈ history ∧ before.calls[id]? = some ⟨host, url, .missed⟩ ∧
    RouteTable.ofRead (before.shared.store.read (.routes host)) = .error error

/-- A call that has put a table has one, and a call whose read gave none has its error. -/
structure PutsOrFails (history : List Moment) (server : RouteServer) : Prop where
  put : ∀ (before : RouteServer) (id time : Nat), ⟨before, .act id (.put time)⟩ ∈ history →
    ∃ call : RouteCall, server.calls[id]? = some call ∧
      ((∃ held, call.phase = .found held) ∨ ∃ version target, call.phase = .answered version target)
  failed : ∀ (id : Nat) (host url : String) (error : StoreError), FailedRead history id host url error →
    ∃ phase, server.calls[id]? = some ⟨host, url, phase⟩ ∧ (phase = .failed error ∨ phase = .refused error)

theorem PutsOrFails.step (h : PutsOrFails history server) (hstep : Step server event next) :
    PutsOrFails (⟨server, event⟩ :: history) next := by
  constructor
  case put =>
    intro before id time hput
    rcases List.mem_cons.mp hput with hnow | hearlier
    · cases hnow
      cases hstep with
      | act id hcall hmove =>
        have hid := (List.getElem?_eq_some_iff.mp hcall).1
        cases hmove with
        | put => exact ⟨_, List.getElem?_set_self hid, .inl ⟨_, rfl⟩⟩
    · obtain ⟨call, hcall, hphase⟩ := h.put before id time hearlier
      rcases hstep.call_after hcall with hsame | ⟨action, phase, -, hafter, hmove⟩
      · exact ⟨call, hsame, hphase⟩
      · refine ⟨_, hafter, ?_⟩
        rcases hphase with ⟨held, hfound⟩ | ⟨version, target, hanswered⟩
        · rw [hfound] at hmove
          exact .inr ⟨_, _, hmove.of_found⟩
        · rw [hanswered] at hmove
          cases hmove.outcome?_eq_none
  case failed =>
    rintro id host url error ⟨before, hread, hbefore, herror⟩
    rcases List.mem_cons.mp hread with hnow | hearlier
    · cases hnow
      cases hstep with
      | act id hcall hmove =>
        have hid := (List.getElem?_eq_some_iff.mp hcall).1
        cases Option.some.inj (hbefore.symm.trans hcall)
        cases hmove with
        | load hok => cases hok.symm.trans herror
        | fail hfail =>
          cases hfail.symm.trans herror
          exact ⟨_, List.getElem?_set_self hid, .inl rfl⟩
    · obtain ⟨phase, hcall, hphase⟩ := h.failed id host url error ⟨before, hearlier, hbefore, herror⟩
      rcases hstep.call_after hcall with hsame | ⟨action, after, -, hafter, hmove⟩
      · exact ⟨phase, hsame, hphase⟩
      · refine ⟨after, hafter, .inr ?_⟩
        rcases hphase with rfl | rfl
        · exact hmove.of_failed
        · cases hmove.outcome?_eq_none

theorem putsOrFails_of_run (h : Run (start config store) history server) : PutsOrFails history server := by
  induction h with
  | nil => exact ⟨fun _ _ _ => nofun, by rintro _ _ _ _ ⟨_, hread, -⟩; cases hread⟩
  | cons _ hstep ih => exact ih.step hstep

/-! ### The size of the cache -/

theorem size_of_run (h : Run (start config store) history server) :
    server.shared.cache.config = config ∧ server.shared.cache.size ≤ config.capacity := by
  induction h with
  | nil => exact ⟨rfl, Nat.zero_le _⟩
  | cons _ hstep ih =>
    cases hstep with
    | write | fail | begin => exact ih
    | act id hcall hmove =>
      obtain ⟨hconfig, hsize⟩ := ih
      refine ⟨hmove.config_eq.trans hconfig, Nat.le_trans hmove.size_le ?_⟩
      rw [hconfig]
      exact Nat.max_le.mpr ⟨hsize, Nat.le_refl _⟩

/-! ### Main statement -/

/-- What holds of a server whose calls interleave. -/
structure Untangled (config : RouteCacheConfig) (history : List Moment) (server : RouteServer) : Prop where
  traced : Traced history server
  added : ∀ event next pair, Step server event next → pair ∈ next.shared.cache.entries →
    pair ∈ server.shared.cache.entries ∨ ∃ id time, event = .act id (.put time)
  /-- A call whose read gave no table has put none, and the error is its end. -/
  failed : ∀ (id : Nat) (host url : String) (error : StoreError), FailedRead history id host url error →
    (∀ moment ∈ history, ∀ time, moment.event ≠ .act id (.put time)) ∧
      ∃ phase, server.calls[id]? = some ⟨host, url, phase⟩ ∧
        (phase = .failed error ∨ phase.outcome? = some (.error (.lookup error)))
  size : server.shared.cache.size ≤ max 1 config.maxSize

/-- Calls whose steps interleave in any order, with each other and with what becomes of the store, never take the table
of another host and never cache a failure. -/
theorem interleaved_calls_stay_apart (h : Run (start config store) history server) :
    Untangled config history server where
  traced := traced_of_run h
  added := by
    intro event next pair hstep hpair
    cases hstep with
    | write | fail | begin => exact .inl hpair
    | act id hcall hmove =>
      rcases hmove.entry_cases hpair with ⟨hmem, -⟩ | ⟨held, time, -, rfl, -⟩
      · exact .inl hmem
      · exact .inr ⟨id, time, rfl⟩
  failed := by
    intro id host url error hfailed
    obtain ⟨hputs, hfails⟩ := putsOrFails_of_run h
    obtain ⟨phase, hcall, hphase⟩ := hfails id host url error hfailed
    refine ⟨fun ⟨other, event⟩ hmoment time hput => ?_, phase, hcall, ?_⟩
    · -- A call that has put a table is not at its error.
      obtain rfl : event = .act id (.put time) := hput
      obtain ⟨call', hcall', hhas⟩ := hputs other id time hmoment
      cases Option.some.inj (hcall.symm.trans hcall')
      rcases hphase with rfl | rfl <;> rcases hhas with ⟨_, hfound⟩ | ⟨_, _, hanswered⟩ <;> contradiction
    · rcases hphase with rfl | rfl
      · exact .inl rfl
      · exact .inr rfl
  size := (size_of_run h).2

/-- Two hosts at once: the store fails for the second one while its call is between look-up and read, and the first
call, which has read by then, puts its table and is answered. -/
theorem one_host_fails_beside_another :
    let table : RouteTable := { routes := [{ view := some "https://a.example" }] }
    let store : ChangingStore := ⟨fun _ => [some table.encode], fun _ => none⟩
    let down : StoreError := .unavailable "down"
    ∃ history server, Run (start {} store) history server ∧ Untangled {} history server ∧
      server.calls = [⟨"a", "/", .answered 1 (some ⟨"https://a.example", "a"⟩)⟩, ⟨"b", "/", .refused down⟩] ∧
      server.shared.cache.hosts = ["a"] := by
  intro table store down
  have hbegun : Run (start {} store) _ _ := .cons (.cons .nil (.begin "a" "/")) (.begin "b" "/")
  have hmissed : Run (start {} store) _ _ := .cons (.cons hbegun (.act 0 rfl (.miss 0 rfl))) (.act 1 rfl (.miss 0 rfl))
  have hloaded : Run (start {} store) _ _ := .cons hmissed (.act 0 rfl (@CallStep.load _ _ _ table rfl))
  have hfailed : Run (start {} store) _ _ :=
    .cons (.cons hloaded (.fail (.routes "b") (some down))) (.act 1 rfl (@CallStep.fail _ _ _ down rfl))
  have hput : Run (start {} store) _ _ := .cons hfailed (.act 0 rfl (.put 1))
  have hend : Run (start {} store) _ _ := .cons (.cons hput (.act 0 rfl .answer)) (.act 1 rfl .refuse)
  exact ⟨_, _, hend, interleaved_calls_stay_apart hend, rfl, rfl⟩

end RouteServer

end AggregateGateway
