import Mathlib.Data.List.Nodup
import AggregateGateway.Proofs.Routing.Reroute

/-!
The cache holds the hosts that were used last. As long as no entry expires, the hosts in the cache are those that were
rerouted most recently with success, as many as fit, in this order; a call reads the store exactly if its host is not
among them. A failed call counts neither as a use nor as an insertion.
-/

namespace AggregateGateway

/-! ### Lists without repetition -/

theorem eraseDups_filter (p : String → Bool) (l : List String) : (l.filter p).eraseDups = l.eraseDups.filter p := by
  induction h : l.length using Nat.strongRecOn generalizing l with
  | _ n ih =>
    cases l with
    | nil => rfl
    | cons a l =>
      have hlen : (l.filter fun b => !b == a).length < n := by
        have hle := List.length_filter_le (fun b => !b == a) l
        rw [List.length_cons] at h
        omega
      have htail := ih _ hlen (l.filter fun b => !b == a) rfl
      rw [List.eraseDups_cons, List.filter_cons]
      cases hp : p a with
      | true =>
        rw [if_pos rfl, List.eraseDups_cons, List.filter_cons_of_pos hp, ← htail, List.filter_filter,
          List.filter_filter]
        simp only [Bool.and_comm]
      | false =>
        rw [if_neg Bool.false_ne_true, List.filter_cons_of_neg (by simp [hp]), ← htail, List.filter_filter]
        congr 1
        apply List.filter_congr
        intro b _
        by_cases hb : b = a
        · subst hb
          simp [hp]
        · simp [hb]

theorem eraseDups_cons_eq (a : String) (l : List String) : (a :: l).eraseDups = a :: l.eraseDups.filter (· ≠ a) := by
  rw [List.eraseDups_cons, eraseDups_filter]
  congr 1
  apply List.filter_congr
  intro b _
  by_cases hb : b = a <;> simp [hb]

theorem nodup_eraseDups (l : List String) : l.eraseDups.Nodup := by
  induction l with
  | nil => simp
  | cons a l ih =>
    rw [eraseDups_cons_eq, List.nodup_cons]
    exact ⟨by simp, ih.filter _⟩

/-- Of the first items of a list without repetition, all but the last one are determined by those of the list without a
given item. -/
theorem take_filter_take {l : List String} (h : l.Nodup) (a : String) (n : Nat) :
    ((l.take (n + 1)).filter (· ≠ a)).take n = (l.filter (· ≠ a)).take n := by
  induction l generalizing n with
  | nil => rfl
  | cons b l ih =>
    obtain ⟨hnot, hl⟩ := List.nodup_cons.mp h
    rw [List.take_succ_cons]
    by_cases hb : b = a
    · -- The item is gone, and it does not come again.
      subst hb
      have hall : ∀ m : List String, (∀ c ∈ m, c ∈ l) → m.filter (· ≠ b) = m := by
        intro m hm
        rw [List.filter_eq_self]
        intro c hc
        have hne : c ≠ b := by
          rintro rfl
          exact hnot (hm c hc)
        simpa using hne
      rw [List.filter_cons_of_neg (by simp), List.filter_cons_of_neg (by simp),
        hall _ fun c hc => List.mem_of_mem_take hc, hall l fun c hc => hc, List.take_take, Nat.min_self]
    · rw [List.filter_cons_of_pos (by simpa using hb), List.filter_cons_of_pos (by simpa using hb)]
      cases n with
      | zero => rfl
      | succ n => rw [List.take_succ_cons, List.take_succ_cons, ih hl n]

/-! ### One call -/

/-- The hosts that were rerouted with success, the one used last first. -/
def recentHosts (history : List Rerouting) : List String :=
  ((history.filter fun call => call.outcome.isOk).map (·.host)).eraseDups

theorem nodup_recentHosts (history : List Rerouting) : (recentHosts history).Nodup := nodup_eraseDups _

theorem recentHosts_cons_of_ok {call : Rerouting} (h : call.outcome.isOk = true) (history : List Rerouting) :
    recentHosts (call :: history) = call.host :: (recentHosts history).filter (· ≠ call.host) := by
  have hfilter : ((call :: history).filter fun call => call.outcome.isOk) =
      call :: history.filter fun call => call.outcome.isOk := List.filter_cons_of_pos h
  rw [recentHosts, hfilter, List.map_cons, eraseDups_cons_eq, recentHosts]

theorem recentHosts_cons_of_error {call : Rerouting} (h : call.outcome.isOk = false) (history : List Rerouting) :
    recentHosts (call :: history) = recentHosts history := by
  have hfilter : ((call :: history).filter fun call => call.outcome.isOk) =
      history.filter fun call => call.outcome.isOk := List.filter_cons_of_neg (by simp [h])
  rw [recentHosts, hfilter, recentHosts]

namespace Rerouting

variable {call : Rerouting}

theorem mem_hosts_of_lookup {cache : RouteCache} {host : String} {entry : CachedTable}
    (h : cache.entries.lookup host = some entry) : host ∈ cache.hosts := by
  by_contra hnot
  rw [Entries.lookup_eq_none_iff.mpr hnot] at h
  cases h

/-- A call that succeeds moves its host to the front, and drops the last host if there are too many. -/
theorem hosts_after_of_ok (hok : call.outcome.isOk = true)
    (hsize : call.before.hosts.length ≤ call.before.config.capacity) :
    call.after.hosts =
      (call.host :: call.before.hosts.filter (· ≠ call.host)).take call.before.config.capacity := by
  obtain ⟨before, host, url, store, events, outcome, after, hrun, hanswered⟩ := call
  dsimp only at hok hsize ⊢
  cases Reroutes.of_run hrun with
  | hit now hentry hfresh =>
    have hmem := mem_hosts_of_lookup hentry
    have hlt : (before.hosts.filter (· ≠ host)).length < before.hosts.length :=
      List.length_filter_lt_length_iff_exists.mpr ⟨host, hmem, by simp⟩
    rw [List.take_of_length_le (by rw [List.length_cons]; omega), ← RouteCache.keys_others]
    rfl
  | failed now answer hmiss hread => cases hok
  | loaded now time answer hmiss hread =>
    rw [← RouteCache.keys_others, RouteCache.hosts, RouteCache.put, Entries.keys, List.map_take]
    rfl

/-- A call that fails changes nothing, as long as no entry expires. -/
theorem after_eq_before_of_error (herror : call.outcome.isOk = false) (hfresh : call.FindsFresh) :
    call.after = call.before := by
  obtain ⟨before, host, url, store, events, outcome, after, hrun, hanswered⟩ := call
  dsimp only at herror ⊢
  cases Reroutes.of_run hrun with
  | hit now hentry _ => cases herror
  | failed now answer hmiss hread =>
    have hnone : before.entries.lookup host = none := lookup_eq_none hfresh rfl hmiss
    rw [RouteCache.others_eq_entries hnone]
  | loaded now time answer hmiss hread => cases herror

theorem reads_eq (hfresh : call.FindsFresh) :
    call.reads = if call.host ∈ call.before.hosts then [] else [.routes call.host] := by
  obtain ⟨before, host, url, store, events, outcome, after, hrun, hanswered⟩ := call
  have hout : ∀ {now rest}, events = .readClock now :: rest → before.Misses now host → host ∉ before.hosts :=
    fun hevents hmiss => Entries.lookup_eq_none_iff.mp (lookup_eq_none hfresh hevents hmiss)
  dsimp only
  cases Reroutes.of_run hrun with
  | hit now hentry _ =>
    rw [if_pos (mem_hosts_of_lookup hentry)]
    rfl
  | failed now answer hmiss hread =>
    rw [if_neg (hout rfl hmiss)]
    rfl
  | loaded now time answer hmiss hread =>
    rw [if_neg (hout rfl hmiss)]
    rfl

end Rerouting

/-! ### Whole runs -/

variable {config : RouteCacheConfig} {history : List Rerouting} {cache : RouteCache}

theorem hosts_of_run (h : RerouteRun config history cache) (hfresh : ∀ call ∈ history, call.FindsFresh) :
    cache.hosts = (recentHosts history).take config.capacity := by
  induction h with
  | nil => exact List.take_nil.symm
  | @cons history call hrun ih =>
    obtain ⟨hlast, hrest⟩ := List.forall_mem_cons.mp hfresh
    have hbefore := ih hrest
    cases hok : call.outcome.isOk with
    | false => rw [call.after_eq_before_of_error hok hlast, hbefore, recentHosts_cons_of_error hok]
    | true =>
      have hconfig : call.before.config = config := hrun.config_eq
      have hsize : call.before.hosts.length ≤ call.before.config.capacity := by
        rw [hbefore, hconfig]
        exact List.length_take_le _ _
      obtain ⟨n, hn⟩ := Nat.exists_eq_add_one.mpr config.capacity_pos
      rw [call.hosts_after_of_ok hok hsize, hconfig, hbefore, recentHosts_cons_of_ok hok, hn, List.take_succ_cons,
        List.take_succ_cons, take_filter_take (nodup_recentHosts history)]

/-- As long as no entry expires, the cache holds the hosts that were rerouted with success most recently, as many as fit
and in this order; and the next call reads nothing if its host is one of them, and else one document, that of its
host. -/
theorem cache_holds_recent_hosts (h : RerouteRun config history cache) (hfresh : ∀ call ∈ history, call.FindsFresh) :
    cache.hosts = (recentHosts history).take config.capacity ∧
      cache.size = min config.capacity (recentHosts history).length ∧
      ∀ call : Rerouting, call.before = cache → call.FindsFresh →
        call.reads = if call.host ∈ (recentHosts history).take config.capacity then [] else [.routes call.host] := by
  have hhosts := hosts_of_run h hfresh
  refine ⟨hhosts, ?_, ?_⟩
  · rw [RouteCache.size, ← List.length_take, ← hhosts]
    exact (List.length_map _).symm
  · rintro call rfl hcall
    rw [← hhosts]
    exact call.reads_eq hcall

/-- A cache without room for more than one host: the second host displaces the first. -/
theorem second_host_displaces_first :
    let config : RouteCacheConfig := ⟨0, 10⟩
    let table : RouteTable := {}
    let start : RouteCache := ⟨config, []⟩
    let first : Rerouting :=
      { before := start, host := "a", url := "/", store := fun _ => .ok none,
        events := [.readClock 0, .readDocument (.routes "a") (.ok none), .readClock 1],
        outcome := .ok (table.resolve "a" "/"), after := start.put 1 "a" table,
        run := Reroutes.run (.loaded 0 1 (.ok none) nofun rfl), answered := by simp }
    let second : Rerouting :=
      { before := first.after, host := "b", url := "/", store := fun _ => .ok none,
        events := [.readClock 2, .readDocument (.routes "b") (.ok none), .readClock 3],
        outcome := .ok (table.resolve "b" "/"), after := first.after.put 3 "b" table,
        run := Reroutes.run (.loaded 2 3 (.ok none) nofun rfl), answered := by simp }
    RerouteRun config [second, first] second.after ∧ (∀ call ∈ [second, first], call.FindsFresh) ∧
      second.after.hosts = ["b"] ∧ second.after.size = 1 := by
  intro config table start first second
  have hrun : RerouteRun config [second, first] second.after := .cons second (.cons first .nil)
  have hfresh : ∀ call ∈ [second, first], call.FindsFresh :=
    List.forall_mem_cons.mpr ⟨nofun, List.forall_mem_singleton.mpr nofun⟩
  obtain ⟨hhosts, hsize, -⟩ := cache_holds_recent_hosts hrun hfresh
  have hrecent : recentHosts [second, first] = ["b", "a"] := by
    rw [recentHosts_cons_of_ok rfl, recentHosts_cons_of_ok rfl]
    rfl
  rw [hrecent] at hhosts hsize
  exact ⟨hrun, hfresh, hhosts, hsize⟩

end AggregateGateway
