import AggregateGateway.Proofs.List.First
import AggregateGateway.Routing.Table

/-!
Which rule of a table answers a URL. A mount covers a URL if its segments are the first segments of the path, where the
path ends at the first question mark; the rule that answers is the first one that covers the URL and has a view. So
tables that are put together answer one after the other, and rules that do not take part can be left out.
-/

namespace AggregateGateway

/-! ### Segments -/

/-- What stands between the slashes of a path. -/
def segments (path : List Char) : List (List Char) := path.splitOn '/'

theorem intercalate_append {separator : List Char} {pieces others : List (List Char)} (hpieces : pieces ≠ [])
    (hothers : others ≠ []) :
    separator.intercalate (pieces ++ others) =
      separator.intercalate pieces ++ separator ++ separator.intercalate others := by
  induction pieces with
  | nil => exact absurd rfl hpieces
  | cons piece pieces ih =>
    by_cases hne : pieces = []
    · rw [hne, List.singleton_append, List.intercalate_cons_of_ne_nil hothers, List.intercalate_singleton]
    · rw [List.cons_append, List.intercalate_cons_of_ne_nil (by simp [hne]), ih hne,
        List.intercalate_cons_of_ne_nil hne]
      simp only [List.append_assoc]

/-- Whole segments are followed by a slash or by nothing. -/
theorem segments_isPrefix_iff {start path : List Char} :
    segments start <+: segments path ↔ ∃ rest, path = start ++ rest ∧ ∀ c ∈ rest.head?, c = '/' := by
  constructor
  · rintro ⟨more, hmore⟩
    have hpath : ['/'].intercalate (segments start ++ more) = path := by
      rw [hmore, segments, List.intercalate_splitOn]
    have hstart : ['/'].intercalate (segments start) = start := List.intercalate_splitOn '/'
    by_cases hne : more = []
    · exact ⟨[], by rw [← hpath, hne, List.append_nil, List.append_nil, hstart], by simp⟩
    · have hsome : segments start ≠ [] := List.splitOn_ne_nil '/' start
      rw [intercalate_append hsome hne, hstart, List.append_assoc] at hpath
      exact ⟨_, hpath.symm, by simp⟩
  · rintro ⟨rest, rfl, hrest⟩
    cases rest with
    | nil => exact ⟨[], by simp only [List.append_nil]⟩
    | cons c rest =>
      obtain rfl : c = '/' := hrest c rfl
      rw [segments, segments, List.splitOn_append_cons_self]
      exact List.prefix_append _ _

/-! ### One rule -/

/-- A path ends at the first question mark. -/
def pathOf (url : List Char) : List Char := url.takeWhile (· ≠ '?')

namespace RouteRule

variable {rule : RouteRule} {url : List Char}

theorem after?_eq_some_iff {start text rest : List Char} : after? start text = some rest ↔ text = start ++ rest := by
  induction start generalizing text with
  | nil => simp [after?]
  | cons c start ih =>
    cases text with
    | nil => simp [after?]
    | cons d text =>
      rw [after?, List.cons_append, List.cons.injEq]
      split
      · next h => rw [ih, h, eq_self, true_and]
      · next h => simp [Ne.symm h]

theorem endsSegment_iff {rest : List Char} : endsSegment rest = true ↔ ∀ c ∈ rest.head?, c = '/' ∨ c = '?' := by
  cases rest <;> simp [endsSegment]

/-- What follows the mount begins a segment or the query, unless the mount is that of all URLs. -/
theorem remainder?_eq_some_iff {rest : List Char} :
    rule.remainder? url = some rest ↔
      url = rule.mount ++ rest ∧ (rule.mount = [] ∨ ∀ c ∈ rest.head?, c = '/' ∨ c = '?') := by
  rw [remainder?, ← endsSegment_iff]
  by_cases hmount : rule.mount = []
  · simp [hmount]
  · rw [if_neg (by simpa using hmount)]
    cases hafter : after? rule.mount url with
    | none =>
      have hnot : url ≠ rule.mount ++ rest := fun h => by rw [after?_eq_some_iff.mpr h] at hafter; cases hafter
      simp [hnot]
    | some after =>
      obtain rfl := after?_eq_some_iff.mp hafter
      by_cases hends : endsSegment after
      · simp only [hends, if_true, Option.some.injEq, List.append_cancel_left_eq, hmount, false_or]
        exact ⟨fun h => ⟨h, h ▸ hends⟩, fun h => h.1⟩
      · simp only [hends, Bool.false_eq_true, if_false, reduceCtorEq, List.append_cancel_left_eq, hmount, false_or,
          false_iff, not_and]
        rintro rfl
        exact hends

/-- The mount covers a URL segment by segment. -/
def Covers (rule : RouteRule) (url : List Char) : Prop :=
  rule.mount = [] ∨ segments rule.mount <+: segments (pathOf url)

/-- The mount is the path up to the slashes at its end. -/
theorem path_eq_mount_append (rule : RouteRule) :
    (∃ n, rule.path.toList = rule.mount ++ List.replicate n '/') ∧ rule.mount.getLast? ≠ some '/' := by
  constructor
  · have hsplit := List.takeWhile_append_dropWhile (p := (· == '/')) (l := rule.path.toList.reverse)
    have hslashes := List.eq_replicate_of_mem (l := rule.path.toList.reverse.takeWhile (· == '/')) (a := '/')
      fun c hc => by simpa using List.all_eq_true.mp List.all_takeWhile c hc
    refine ⟨(rule.path.toList.reverse.takeWhile (· == '/')).length, List.reverse_inj.mp ?_⟩
    rw [List.reverse_append, List.reverse_replicate, mount, List.reverse_reverse, ← hslashes, hsplit]
  · intro hlast
    rw [mount, List.getLast?_reverse] at hlast
    have hnot := List.head?_dropWhile_not (· == '/') rule.path.toList.reverse
    rw [hlast] at hnot
    simp at hnot

theorem not_mem_mount {c : Char} (h : c ∉ rule.path.toList) : c ∉ rule.mount := by
  obtain ⟨⟨n, hpath⟩, -⟩ := rule.path_eq_mount_append
  rw [hpath, List.mem_append, not_or] at h
  exact h.1

/-- What follows the path in a URL is nothing or a query. -/
theorem eq_pathOf_append (url : List Char) : ∃ query, url = pathOf url ++ query ∧ ∀ c ∈ query.head?, c = '?' := by
  refine ⟨url.dropWhile (· ≠ '?'), List.takeWhile_append_dropWhile.symm, fun c hc => ?_⟩
  have hnot := List.head?_dropWhile_not (fun c => decide (c ≠ '?')) url
  rw [Option.mem_def.mp hc] at hnot
  simpa using hnot

theorem isSome_remainder?_iff (hplain : '?' ∉ rule.path.toList) :
    (rule.remainder? url).isSome ↔ rule.Covers url := by
  rw [Covers, segments_isPrefix_iff, Option.isSome_iff_exists]
  simp only [remainder?_eq_some_iff]
  by_cases hmount : rule.mount = []
  · simp [hmount]
  · simp only [hmount, false_or]
    constructor
    · rintro ⟨rest, rfl, hrest⟩
      refine ⟨pathOf rest, ?_, ?_⟩
      · have hall : ∀ c ∈ rule.mount, decide (c ≠ '?') = true := by
          intro c hc
          have hne : c ≠ '?' := fun h => not_mem_mount hplain (h ▸ hc)
          simpa using hne
        exact List.takeWhile_append_of_pos hall
      · cases rest with
        | nil => simp [pathOf]
        | cons c rest => rcases hrest c rfl with rfl | rfl <;> simp [pathOf]
    · rintro ⟨rest, hpath, hrest⟩
      obtain ⟨query, hurl, hquery⟩ := eq_pathOf_append url
      rw [hpath, List.append_assoc] at hurl
      refine ⟨_, hurl, fun c hc => ?_⟩
      cases rest with
      | nil => exact .inr (hquery c hc)
      | cons d rest => exact .inl (hrest c hc)

/-- A rule that can answer a URL: it covers it, and it has a view. -/
structure Serves (rule : RouteRule) (url : String) : Prop where
  covers : rule.Covers url.toList
  hasView : ∃ view, rule.view = some view ∧ view ≠ ""

theorem view?_eq_some_iff {view : String} : rule.view? = some view ↔ rule.view = some view ∧ view ≠ "" := by
  simp [view?, Option.filter_eq_some_iff]

theorem address?_eq_some_iff {url address : String} :
    rule.address? url = some address ↔
      ∃ view rest, (rule.view = some view ∧ view ≠ "") ∧ rule.remainder? url.toList = some rest ∧
        address = if rule.passthru then view ++ String.ofList (forwarded rest) else view := by
  simp only [← view?_eq_some_iff]
  rw [address?]
  split
  · next view rest hview hrest =>
    rw [Option.some.injEq, eq_comm]
    exact ⟨fun h => ⟨view, rest, hview, hrest, h⟩, by
      rintro ⟨_, _, hview', hrest', h⟩
      rw [hview, Option.some.injEq] at hview'
      rw [hrest, Option.some.injEq] at hrest'
      rw [h, hview', hrest']⟩
  · next hnone =>
    rw [eq_false (by simp : ¬none = some address), false_iff]
    rintro ⟨view, rest, hview, hrest, -⟩
    exact hnone view rest hview hrest

theorem isSome_address?_iff {url : String} (hplain : '?' ∉ rule.path.toList) :
    (rule.address? url).isSome ↔ rule.Serves url := by
  rw [Option.isSome_iff_exists]
  simp only [address?_eq_some_iff]
  constructor
  · rintro ⟨_, view, rest, hview, hrest, -⟩
    exact ⟨(isSome_remainder?_iff hplain).mp (by rw [hrest]; rfl), view, hview⟩
  · rintro ⟨hcovers, view, hview⟩
    obtain ⟨rest, hrest⟩ := Option.isSome_iff_exists.mp ((isSome_remainder?_iff hplain).mpr hcovers)
    exact ⟨_, view, rest, hview, hrest, rfl⟩

end RouteRule

/-! ### Tables -/

namespace RouteTable

variable {table : RouteTable} {host url : String} {target : RouteTarget}

/-- The rule that answers a URL is the first one that gives an address. -/
def Answers (table : RouteTable) (url : String) (rule : RouteRule) : Prop :=
  IsFirst (fun rule => (rule.address? url).isSome) table.routes rule

theorem resolve_eq_some_iff :
    table.resolve host url = some target ↔
      ∃ rule, table.Answers url rule ∧ rule.address? url = some target.address ∧ target.host = host := by
  have hsome : ∀ rule : RouteRule,
      ((rule.address? url).map fun address => (⟨address, host⟩ : RouteTarget)).isSome = (rule.address? url).isSome :=
    fun rule => Option.isSome_map
  rw [resolve, findSome?_eq_some_iff_isFirst]
  simp only [hsome, Option.map_eq_some_iff]
  constructor
  · rintro ⟨rule, hfirst, address, haddress, rfl⟩
    exact ⟨rule, hfirst, haddress, rfl⟩
  · rintro ⟨rule, hfirst, haddress, rfl⟩
    exact ⟨rule, hfirst, _, haddress, rfl⟩

theorem resolve_eq_none_iff :
    table.resolve host url = none ↔ ∀ rule ∈ table.routes, rule.address? url = none := by
  simp only [resolve, List.findSome?_eq_none_iff, Option.map_eq_none_iff]

theorem resolve_append (table more : RouteTable) (host url : String) :
    (⟨table.routes ++ more.routes⟩ : RouteTable).resolve host url =
      (table.resolve host url).or (more.resolve host url) := List.findSome?_append

end RouteTable

/-- `Thinned url routes kept`: only rules that cannot answer the URL are left out. -/
inductive Thinned (url : String) : List RouteRule → List RouteRule → Prop
  | nil : Thinned url [] []
  | keep {routes kept : List RouteRule} (rule : RouteRule) : Thinned url routes kept →
      Thinned url (rule :: routes) (rule :: kept)
  | drop {routes kept : List RouteRule} {rule : RouteRule} : ¬rule.Serves url → Thinned url routes kept →
      Thinned url (rule :: routes) kept

theorem Thinned.resolve_eq {host url : String} {routes kept : List RouteRule} (h : Thinned url routes kept)
    (hplain : ∀ rule ∈ routes, '?' ∉ rule.path.toList) :
    (⟨kept⟩ : RouteTable).resolve host url = (⟨routes⟩ : RouteTable).resolve host url := by
  induction h with
  | nil => rfl
  | keep rule _ ih =>
    have hrest := ih (List.forall_mem_cons.mp hplain).2
    simp only [RouteTable.resolve, List.findSome?_cons] at hrest ⊢
    rw [hrest]
  | @drop routes kept rule hidle _ ih =>
    obtain ⟨hrule, hroutes⟩ := List.forall_mem_cons.mp hplain
    have hnone : rule.address? url = none := by
      rw [← Option.not_isSome_iff_eq_none, RouteRule.isSome_address?_iff hrule]
      exact hidle
    rw [ih hroutes, RouteTable.resolve, RouteTable.resolve, List.findSome?_cons, hnone]
    rfl

/-- If no rule has a question mark in its path, a rule matches exactly the URLs whose segments begin with those of its
mount, and a URL goes where the first rule sends it that matches and has a view. Tables answer one after the other, and
rules that do not match or have no view make no difference. -/
theorem first_covering_rule_decides (table : RouteTable) (hplain : ∀ rule ∈ table.routes, '?' ∉ rule.path.toList)
    (host url : String) :
    (∀ rule ∈ table.routes, ((∃ n, rule.path.toList = rule.mount ++ List.replicate n '/') ∧
        rule.mount.getLast? ≠ some '/') ∧ ((rule.remainder? url.toList).isSome ↔ rule.Covers url.toList)) ∧
      (∀ target, table.resolve host url = some target ↔
        ∃ rule, IsFirst (fun rule => rule.Serves url) table.routes rule ∧ rule.address? url = some target.address ∧
          target.host = host) ∧
      (table.resolve host url = none ↔ ∀ rule ∈ table.routes, ¬rule.Serves url) ∧
      (∀ more : RouteTable, (⟨table.routes ++ more.routes⟩ : RouteTable).resolve host url =
        (table.resolve host url).or (more.resolve host url)) ∧
      ∀ kept, Thinned url table.routes kept →
        (⟨kept⟩ : RouteTable).resolve host url = table.resolve host url := by
  have hserves : ∀ rule ∈ table.routes, (rule.address? url).isSome ↔ rule.Serves url :=
    fun rule hrule => RouteRule.isSome_address?_iff (hplain rule hrule)
  refine ⟨fun rule hrule => ⟨rule.path_eq_mount_append, RouteRule.isSome_remainder?_iff (hplain rule hrule)⟩,
    fun target => ?_, ?_, fun more => table.resolve_append more host url, fun kept hkept => hkept.resolve_eq hplain⟩
  · rw [RouteTable.resolve_eq_some_iff]
    simp only [RouteTable.Answers, IsFirst.congr hserves]
  · rw [RouteTable.resolve_eq_none_iff]
    refine forall₂_congr fun rule hrule => ?_
    rw [← hserves rule hrule, Option.not_isSome_iff_eq_none]

/-- A mount that is part of the first segment only, one without a view, and one with slashes at its end. -/
theorem whole_segments_decide :
    let table : RouteTable := ⟨[⟨"/ap", some "http://part", true⟩, ⟨"/api", none, true⟩,
      ⟨"/api//", some "http://second", true⟩, ⟨"/", some "http://fallback", false⟩]⟩
    (∀ rule ∈ table.routes, '?' ∉ rule.path.toList) ∧
      table.resolve "h" "/api?a=/ap/b" = some ⟨"http://second/?a=/ap/b", "h"⟩ ∧
      ∀ kept, Thinned "/api?a=/ap/b" table.routes kept →
        (⟨kept⟩ : RouteTable).resolve "h" "/api?a=/ap/b" = some ⟨"http://second/?a=/ap/b", "h"⟩ := by
  intro table
  have hplain : ∀ rule ∈ table.routes, '?' ∉ rule.path.toList := by decide +kernel
  have htarget : table.resolve "h" "/api?a=/ap/b" = some ⟨"http://second/?a=/ap/b", "h"⟩ := by decide +kernel
  obtain ⟨-, -, -, -, hthinned⟩ := first_covering_rule_decides table hplain "h" "/api?a=/ap/b"
  exact ⟨hplain, htarget, fun kept hkept => (hthinned kept hkept).trans htarget⟩

end AggregateGateway
