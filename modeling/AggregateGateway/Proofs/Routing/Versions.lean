import AggregateGateway.Proofs.Routing.Concurrent

/-!
The versions that interleaved calls are answered from. The store only goes forward, but two calls may put their tables
in another order than they read them; then the older table stays in the cache, and a later call may be answered from an
earlier version than a call before it. Without such a late put, the answers for a host go forward.
-/

namespace AggregateGateway

open Json

/-! ### Stores go forward -/

namespace ChangingStore

variable {store : ChangingStore} {key : DocumentKey}

theorem of_read {document? : Option Value} (h : store.read key = .ok document?) :
    document? = store.documentAt key (store.version key) := by
  unfold read at h
  split at h
  · cases h
  · exact (Except.ok.inj h).symm

/-- A version of a route document, which makes this table. -/
def Holds (store : ChangingStore) (host : String) (version : Nat) (table : RouteTable) : Prop :=
  version ≤ store.version (.routes host) ∧
    RouteTable.ofRead (.ok (store.documentAt (.routes host) version)) = .ok table

theorem Holds.write {host : String} {version : Nat} {table : RouteTable} (h : store.Holds host version table)
    (key : DocumentKey) (document? : Option Value) : (store.write key document?).Holds host version table := by
  obtain ⟨hle, htable⟩ := h
  refine ⟨Nat.le_trans hle (store.version_le_write key _ document?), ?_⟩
  rw [store.documentAt_write key hle]
  exact htable

end ChangingStore

/-! ### One step of a call -/

namespace CallPhase

/-- The version of the table of a call. -/
def version? : CallPhase → Option Nat
  | loaded held | found held => some held.version
  | answered version _ => some version
  | begun | missed | failed _ | refused _ => none

/-- The version of the table of a call, from when it stands in the cache. -/
def cachedVersion? : CallPhase → Option Nat
  | found held => some held.version
  | answered version _ => some version
  | begun | missed | loaded _ | failed _ | refused _ => none

end CallPhase

namespace CallStep

variable {host url : String} {shared next : SharedRoutes} {phase after : CallPhase} {action : CallAction}

theorem store_eq (h : CallStep host url shared phase action next after) : next.store = shared.store := by
  cases h <;> rfl

/-- Only a put changes what was put last, and only for its own host. -/
theorem putVersion_cases (h : CallStep host url shared phase action next after) (other : String) :
    next.putVersion other = shared.putVersion other ∨ ∃ held time, phase = .loaded held ∧ action = .put time ∧
      other = host ∧ next.putVersion other = held.version := by
  cases h with
  | @put held time =>
    by_cases heq : other = host
    · exact .inr ⟨held, time, rfl, rfl, heq, if_pos heq⟩
    · exact .inl (if_neg heq)
  | hit | miss | load | fail | answer | refuse => exact .inl rfl

theorem version_cases (h : CallStep host url shared phase action next after) {version : Nat}
    (hversion : after.version? = some version) :
    phase.version? = some version ∨ version = shared.putVersion host ∨
      version = shared.store.version (.routes host) := by
  cases h with
  | hit =>
    cases hversion
    exact .inr (.inl rfl)
  | load =>
    cases hversion
    exact .inr (.inr rfl)
  | put | answer => exact .inl hversion
  | miss | fail | refuse => cases hversion

/-- A call comes to a cached table by a hit or by its own put. -/
theorem cachedVersion_cases (h : CallStep host url shared phase action next after) {version : Nat}
    (hversion : after.cachedVersion? = some version) :
    phase.cachedVersion? = some version ∨ version = next.putVersion host := by
  cases h with
  | hit =>
    cases hversion
    exact .inr rfl
  | put time =>
    cases hversion
    exact .inr (if_pos rfl).symm
  | answer => exact .inl hversion
  | miss | load | fail | refuse => cases hversion

end CallStep

namespace RouteServer

variable {config : RouteCacheConfig} {store : ChangingStore} {first server next : RouteServer}
  {history later : List Moment} {event : ServerEvent} {host : String}

theorem Step.version_le (h : Step server event next) (key : DocumentKey) :
    server.shared.store.version key ≤ next.shared.store.version key := by
  cases h with
  | write other document? => exact server.shared.store.version_le_write other key document?
  | fail | begin => exact Nat.le_refl _
  | act id hcall hmove => exact Nat.le_of_eq (by rw [hmove.store_eq])

theorem Step.holds {version : Nat} {table : RouteTable} (h : Step server event next)
    (hholds : server.shared.store.Holds host version table) : next.shared.store.Holds host version table := by
  cases h with
  | write key document? => exact hholds.write key document?
  | fail | begin => exact hholds
  | act id hcall hmove =>
    rw [hmove.store_eq]
    exact hholds

/-- What was read is still what the store had in that version. -/
theorem WasRead.holds {version : Nat} {table : RouteTable} (h : Run first history server)
    (hread : WasRead history host version table) : server.shared.store.Holds host version table := by
  induction h with
  | nil =>
    obtain ⟨_, _, _, _, hmem, -⟩ := hread
    cases hmem
  | cons _ hstep ih =>
    obtain ⟨before, id, url, document?, hmem, hcall, hdocument, rfl, htable⟩ := hread
    refine hstep.holds ?_
    rcases List.mem_cons.mp hmem with hnow | hearlier
    · cases hnow
      rw [ChangingStore.of_read hdocument] at htable
      exact ⟨Nat.le_refl _, htable⟩
    · exact ih ⟨before, id, url, document?, hearlier, hcall, hdocument, rfl, htable⟩

theorem putVersion_le_of_run (h : Run (start config store) history server) (host : String) :
    server.shared.putVersion host ≤ server.shared.store.version (.routes host) := by
  induction h with
  | nil => exact Nat.zero_le _
  | @cons history server next event hrun hstep ih =>
    refine Nat.le_trans ?_ (hstep.version_le _)
    cases hstep with
    | write | fail | begin => exact ih
    | act id hcall hmove =>
      rcases hmove.putVersion_cases host with hsame | ⟨held, time, rfl, -, rfl, hversion⟩
      · rw [hsame]
        exact ih
      · rw [hversion]
        exact (WasRead.holds hrun ((traced_of_run hrun).held id _ held hcall rfl)).1

/-! ### Late puts -/

/-- One of the first calls puts a table of the host from before version `n` over one that is not from before it. -/
def Moment.PutsLate (moment : Moment) (host : String) (n calls : Nat) : Prop :=
  ∃ id time url held, moment.event = .act id (.put time) ∧ id < calls ∧
    moment.before.calls[id]? = some ⟨host, url, .loaded held⟩ ∧ held.version < n ∧
    n ≤ moment.before.shared.putVersion host

variable {n calls : Nat}

/-- Without a late put, what was put last for the host does not fall behind. -/
theorem Step.le_putVersion (h : Step server event next) (hnone : ¬Moment.PutsLate ⟨server, event⟩ host n calls)
    (hlast : ∀ (id : Nat) (url : String) (held : VersionedTable), calls ≤ id →
      server.calls[id]? = some ⟨host, url, .loaded held⟩ → n ≤ held.version)
    (hn : n ≤ server.shared.putVersion host) : n ≤ next.shared.putVersion host := by
  cases h with
  | write | fail | begin => exact hn
  | @act _ url _ _ _ _ id hcall hmove =>
    rcases hmove.putVersion_cases host with hsame | ⟨held, time, rfl, rfl, rfl, hversion⟩
    · rw [hsame]
      exact hn
    · rw [hversion]
      rcases Nat.lt_or_ge id calls with hlt | hge
      · rcases Nat.lt_or_ge held.version n with hlate | hge
        · exact absurd ⟨id, time, url, held, rfl, hlt, hcall, hlate, hn⟩ hnone
        · exact hge
      · exact hlast id url held hge hcall

/-- A table in the cache is not newer than what was put last. -/
theorem le_putVersion_of_run (h : Run (start config store) history server) (hcalls : server.calls.length ≤ calls)
    (hnone : ∀ moment ∈ history, ¬moment.PutsLate host n calls) {id : Nat} {url : String} {phase : CallPhase}
    {version : Nat} (hcall : server.calls[id]? = some ⟨host, url, phase⟩) (hphase : phase.cachedVersion? = some version)
    (hn : n ≤ version) : n ≤ server.shared.putVersion host := by
  induction h generalizing id url phase version with
  | nil => cases hcall
  | @cons history server next event hrun hstep ih =>
    have hbefore : server.calls.length ≤ calls := Nat.le_trans hstep.length_le hcalls
    obtain ⟨hnow, hearlier⟩ := List.forall_mem_cons.mp hnone
    have hlast : ∀ (id : Nat) (url : String) (held : VersionedTable), calls ≤ id →
        server.calls[id]? = some ⟨host, url, .loaded held⟩ → n ≤ held.version := by
      intro id url held hid hcall
      rw [List.getElem?_eq_none (Nat.le_trans hbefore hid)] at hcall
      cases hcall
    have hkept : ∀ phase : CallPhase, server.calls[id]? = some ⟨host, url, phase⟩ →
        phase.cachedVersion? = some version → n ≤ next.shared.putVersion host :=
      fun _ hcall hphase => hstep.le_putVersion hnow hlast (ih hbefore hearlier hcall hphase hn)
    rcases hstep.call_cases hcall with hsame | ⟨-, hbegun⟩ | ⟨action, before, -, hacted, hmove⟩
    · exact hkept phase hsame hphase
    · obtain rfl : phase = .begun := hbegun
      cases hphase
    · rcases hmove.cachedVersion_cases hphase with hcached | rfl
      · exact hkept before hacted hcached
      · exact hn

/-- From a moment on, the host has gone past version `n`: in the cache, in the store, and for the calls that have
started since. -/
structure Past (host : String) (n calls : Nat) (server : RouteServer) : Prop where
  put : n ≤ server.shared.putVersion host
  stored : n ≤ server.shared.store.version (.routes host)
  called : ∀ (id : Nat) (url : String) (phase : CallPhase) (version : Nat), calls ≤ id →
    server.calls[id]? = some ⟨host, url, phase⟩ → phase.version? = some version → n ≤ version

theorem Past.step (h : Past host n calls server) (hstep : Step server event next)
    (hnone : ¬Moment.PutsLate ⟨server, event⟩ host n calls) : Past host n calls next where
  put := hstep.le_putVersion hnone (fun id url held hid hcall => h.called id url _ _ hid hcall rfl) h.put
  stored := Nat.le_trans h.stored (hstep.version_le _)
  called := by
    intro id url phase version hid hcall hversion
    rcases hstep.call_cases hcall with hsame | ⟨-, hbegun⟩ | ⟨action, before, -, hacted, hmove⟩
    · exact h.called id url phase version hid hsame hversion
    · obtain rfl : phase = .begun := hbegun
      cases hversion
    · rcases hmove.version_cases hversion with hkept | rfl | rfl
      · exact h.called id url before version hid hacted hkept
      · exact h.put
      · exact h.stored

theorem Past.run (h : Past host n calls server) (hlater : Run server later next)
    (hnone : ∀ moment ∈ later, ¬moment.PutsLate host n calls) : Past host n calls next := by
  induction hlater with
  | nil => exact h
  | cons _ hstep ih =>
    obtain ⟨hnow, hearlier⟩ := List.forall_mem_cons.mp hnone
    exact (ih hearlier).step hstep hnow

/-! ### Main statement -/

/-- A call has been answered from a version of the route document of its host. -/
def AnsweredFrom (server : RouteServer) (id : Nat) (host : String) (version : Nat) : Prop :=
  ∃ url table, server.calls[id]? = some ⟨host, url, .answered version (table.resolve host url)⟩ ∧
    server.shared.store.Holds host version table

/-- The recorded version is that of the table which has answered. -/
theorem answeredFrom_of_run (h : Run (start config store) history server) {id version : Nat} {url : String}
    {target : Option RouteTarget} (hcall : server.calls[id]? = some ⟨host, url, .answered version target⟩) :
    AnsweredFrom server id host version := by
  obtain ⟨table, hread, htarget⟩ := (traced_of_run h).answered id _ version target hcall rfl
  obtain rfl : target = table.resolve host url := htarget
  exact ⟨url, table, hcall, hread.holds h⟩

/-- Two calls for a host, the second one started after the first one was answered: it is not answered from an earlier
version, unless a call that had started before puts a table from before the version of the first answer over one that
is not from before it. -/
theorem answers_go_forward {id id' m : Nat} (h : Run (start config store) history server)
    (hlater : Run server later next) (hanswered : AnsweredFrom server id host n)
    (hstarted : server.calls.length ≤ id') (hanswered' : AnsweredFrom next id' host m)
    (hnone : ∀ moment ∈ later ++ history, ¬moment.PutsLate host n server.calls.length) : n ≤ m := by
  obtain ⟨url, table, hcall, -⟩ := hanswered
  obtain ⟨url', table', hcall', -⟩ := hanswered'
  obtain ⟨hafter, hbefore⟩ := List.forall_mem_append.mp hnone
  have hput : n ≤ server.shared.putVersion host :=
    le_putVersion_of_run h (Nat.le_refl _) hbefore hcall rfl (Nat.le_refl n)
  have hpast : Past host n server.calls.length server := by
    refine ⟨hput, Nat.le_trans hput (putVersion_le_of_run h host), ?_⟩
    intro id url phase version hid hcall
    rw [List.getElem?_eq_none hid] at hcall
    cases hcall
  exact (hpast.run hlater hafter).called id' url' _ m hstarted hcall' rfl

/-- Two overlapping calls that put their tables in the order in which they have read them, on both sides of a
write. -/
theorem timely_puts_go_forward :
    let old : RouteTable := { routes := [{ view := some "https://old.example" }] }
    let store : ChangingStore := ⟨fun _ => [some old.encode], fun _ => none⟩
    ∃ history server later next, Run (start {} store) history server ∧ Run server later next ∧
      AnsweredFrom server 0 "shop" 1 ∧ server.calls.length ≤ 2 ∧ AnsweredFrom next 2 "shop" 2 ∧
      (∀ moment ∈ later ++ history, ¬moment.PutsLate "shop" 1 server.calls.length) ∧ 1 ≤ 2 := by
  intro old store
  let new : RouteTable := { routes := [{ view := some "https://new.example" }] }
  let shop := DocumentKey.routes "shop"
  have hbegun : Run (start {} store) _ _ := .cons (.cons .nil (.begin "shop" "/")) (.begin "shop" "/")
  have hmissed : Run (start {} store) _ _ := .cons (.cons hbegun (.act 0 rfl (.miss 0 rfl))) (.act 1 rfl (.miss 0 rfl))
  have hread : Run (start {} store) _ _ := .cons hmissed (.act 0 rfl (@CallStep.load _ _ _ old rfl))
  have hwritten : Run (start {} store) _ _ := .cons hread (.write shop (some new.encode))
  have hread' : Run (start {} store) _ _ := .cons hwritten (.act 1 rfl (@CallStep.load _ _ _ new rfl))
  have hserver : Run (start {} store) _ _ := .cons (.cons hread' (.act 0 rfl (.put 1))) (.act 0 rfl .answer)
  have hfrom : ∀ {history server}, Run (start {} store) history server → Run server [] server := fun _ => .nil
  have hput := Run.cons (hfrom hserver) (.act 1 rfl (.put 2))
  have hlater := Run.cons (Run.cons (Run.cons hput (.begin "shop" "/")) (.act 2 rfl (.hit 3 rfl))) (.act 2 rfl .answer)
  have hanswered : AnsweredFrom _ 0 "shop" 1 := answeredFrom_of_run hserver rfl
  have hanswered' : AnsweredFrom _ 2 "shop" 2 := answeredFrom_of_run (hserver.append hlater) rfl
  refine ⟨_, _, _, _, hserver, hlater, hanswered, Nat.le_refl 2, hanswered', ?none,
    answers_go_forward hserver hlater hanswered (Nat.le_refl 2) hanswered' ?none⟩
  rintro moment hmoment ⟨id, time, url, held, hevent, -, hcall, hlate, -⟩
  simp only [List.cons_append, List.nil_append, List.mem_cons, List.not_mem_nil, or_false] at hmoment
  -- The two puts are of versions one and two; nothing else puts.
  rcases hmoment with rfl | rfl | rfl | rfl | rfl | rfl | rfl | rfl | rfl | rfl | rfl | rfl | rfl <;> cases hevent
  all_goals
    cases hcall
    exact absurd hlate (by decide)

/-- Two overlapping calls, of which the second one reads and puts what was written after the read of the first: it is
answered from version two, then the first call puts version one, and a call that starts afterwards is sent to the old
view. -/
theorem late_put_goes_back :
    let old : RouteTable := { routes := [{ view := some "https://old.example" }] }
    let store : ChangingStore := ⟨fun _ => [some old.encode], fun _ => none⟩
    ∃ history server later next, Run (start {} store) history server ∧ Run server later next ∧
      AnsweredFrom server 1 "shop" 2 ∧ server.calls.length ≤ 2 ∧ AnsweredFrom next 2 "shop" 1 ∧
      next.calls[1]? = some ⟨"shop", "/", .answered 2 (some ⟨"https://new.example", "shop"⟩)⟩ ∧
      next.calls[2]? = some ⟨"shop", "/", .answered 1 (some ⟨"https://old.example", "shop"⟩)⟩ := by
  intro old store
  let new : RouteTable := { routes := [{ view := some "https://new.example" }] }
  let shop := DocumentKey.routes "shop"
  have hmissed : Run (start {} store) _ _ := .cons (.cons .nil (.begin "shop" "/")) (.act 0 rfl (.miss 0 rfl))
  have hread : Run (start {} store) _ _ := .cons hmissed (.act 0 rfl (@CallStep.load _ _ _ old rfl))
  have hwritten : Run (start {} store) _ _ := .cons hread (.write shop (some new.encode))
  -- The second call misses as well, for the first one has not put its table yet.
  have hmissed' : Run (start {} store) _ _ := .cons (.cons hwritten (.begin "shop" "/")) (.act 1 rfl (.miss 1 rfl))
  have hread' : Run (start {} store) _ _ := .cons hmissed' (.act 1 rfl (@CallStep.load _ _ _ new rfl))
  have hserver : Run (start {} store) _ _ := .cons (.cons hread' (.act 1 rfl (.put 2))) (.act 1 rfl .answer)
  have hfrom : ∀ {history server}, Run (start {} store) history server → Run server [] server := fun _ => .nil
  have hlate := Run.cons (hfrom hserver) (.act 0 rfl (.put 3))
  have hlater := Run.cons (Run.cons (Run.cons hlate (.begin "shop" "/")) (.act 2 rfl (.hit 4 rfl))) (.act 2 rfl .answer)
  have hanswered : AnsweredFrom _ 1 "shop" 2 := answeredFrom_of_run hserver rfl
  have hanswered' : AnsweredFrom _ 2 "shop" 1 := answeredFrom_of_run (hserver.append hlater) rfl
  exact ⟨_, _, _, _, hserver, hlater, hanswered, Nat.le_refl 2, hanswered', rfl, rfl⟩

end RouteServer

end AggregateGateway
