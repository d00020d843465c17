import AggregateGateway.Proofs.Routing.Matching

/-!
What a view gets of a URL. A rule that passes nothing on sends every URL to its view as it stands; one that passes the
rest on appends it to the view behind a slash, so that the name of the server stays as it is and nothing of the URL
beyond the mount is lost. Of two URLs only those are confused that differ in a slash between the mount and the query.
-/

namespace AggregateGateway

/-- A query as it stands in a URL: nothing, or what begins with a question mark. -/
def IsQuery (chars : List Char) : Prop := ∀ c ∈ chars.head?, c = '?'

/-- What is appended to a view for a URL: all that follows the mount, behind a slash. -/
inductive PassesOn (mount : List Char) : List Char → List Char → Prop
  | rest (rest : List Char) : PassesOn mount (mount ++ '/' :: rest) ('/' :: rest)
  | query {query : List Char} : IsQuery query → PassesOn mount (mount ++ query) ('/' :: query)

namespace PassesOn

variable {mount url other rest : List Char}

theorem cases (h : PassesOn mount url rest) :
    rest.head? = some '/' ∧
      (mount ++ rest = url ∨ ∃ query, IsQuery query ∧ url = mount ++ query ∧ rest = '/' :: query) := by
  cases h with
  | rest rest => exact ⟨rfl, .inl rfl⟩
  | query hquery => exact ⟨rfl, .inr ⟨_, hquery, rfl, rfl⟩⟩

/-- The same is appended for two URLs only if a slash in front of the query is all that they differ in. -/
theorem eq_or_query (h : PassesOn mount url rest) (hother : PassesOn mount other rest) :
    url = other ∨ ∃ query, IsQuery query ∧
      (url = mount ++ query ∧ other = mount ++ '/' :: query ∨
        url = mount ++ '/' :: query ∧ other = mount ++ query) := by
  cases h with
  | rest rest =>
    cases hother with
    | rest => exact .inl rfl
    | query hquery => exact .inr ⟨rest, hquery, .inr ⟨rfl, rfl⟩⟩
  | @query query hquery =>
    cases hother with
    | rest => exact .inr ⟨query, hquery, .inl ⟨rfl, rfl⟩⟩
    | query => exact .inl rfl

end PassesOn

namespace RouteRule

variable {rule : RouteRule}

theorem passesOn_of_remainder? {url rest : List Char} (hslash : url.head? = some '/')
    (h : rule.remainder? url = some rest) : PassesOn rule.mount url (forwarded rest) := by
  obtain ⟨rfl, hrest⟩ := remainder?_eq_some_iff.mp h
  cases rest with
  | nil => exact .query nofun
  | cons c rest =>
    -- A URL that the mount of all URLs covers begins with a slash itself.
    have hc : c = '/' ∨ c = '?' := by
      rcases hrest with hmount | hrest
      · rw [hmount] at hslash
        exact .inl (Option.some.inj hslash)
      · exact hrest c rfl
    rcases hc with rfl | rfl
    · exact .rest rest
    · exact .query fun c hc => (Option.some.inj hc).symm

/-- The address that a rule gives is its view, or its view with what it passes on. -/
theorem address?_cases {url address : String} (hslash : url.toList.head? = some '/')
    (h : rule.address? url = some address) :
    ∃ view, rule.view = some view ∧ (rule.passthru = false → address = view) ∧
      (rule.passthru = true → ∃ rest, address = view ++ String.ofList rest ∧ PassesOn rule.mount url.toList rest) := by
  obtain ⟨view, rest, ⟨hview, -⟩, hrest, rfl⟩ := address?_eq_some_iff.mp h
  refine ⟨view, hview, fun hstays => ?_, fun hpasses => ⟨_, ?_, passesOn_of_remainder? hslash hrest⟩⟩
  · rw [hstays, if_neg Bool.false_ne_true]
  · rw [hpasses, if_pos rfl]

end RouteRule

namespace RouteTable

variable {table : RouteTable} {host url : String} {target : RouteTarget} {rule : RouteRule}

/-- A rule that answers a URL answers it alone, so the target is the one that it gives. -/
theorem address?_of_answers (htarget : table.resolve host url = some target) (h : table.Answers url rule) :
    rule.address? url = some target.address ∧ target.host = host := by
  obtain ⟨answering, hanswering, haddress, hhost⟩ := resolve_eq_some_iff.mp htarget
  obtain rfl := hanswering.unique h
  exact ⟨haddress, hhost⟩

end RouteTable

/-- A URL that begins with a slash keeps all that follows the mount where a rule passes it on: it stands behind the view
and begins with a slash. Two URLs that one rule sends to the same address are the same, or one of them has a slash more
between the mount and the query. -/
theorem forwarding_keeps_url {table : RouteTable} {host url : String} {target : RouteTarget}
    (hslash : url.toList.head? = some '/') (htarget : table.resolve host url = some target) :
    (∃ rule, table.Answers url rule) ∧ ∀ rule, table.Answers url rule → ∃ view, rule.view = some view ∧
      target.host = host ∧ (rule.passthru = false → target.address = view) ∧
      (rule.passthru = true →
        (∃ rest, target.address = view ++ String.ofList rest ∧ rest.head? = some '/' ∧
          (rule.mount ++ rest = url.toList ∨
            ∃ query, IsQuery query ∧ url.toList = rule.mount ++ query ∧ rest = '/' :: query)) ∧
        ∀ {table' : RouteTable} {host' url' : String} {target' : RouteTarget}, url'.toList.head? = some '/' →
          table'.resolve host' url' = some target' → table'.Answers url' rule → target'.address = target.address →
          url ≠ url' → ∃ query, IsQuery query ∧
            (url.toList = rule.mount ++ query ∧ url'.toList = rule.mount ++ '/' :: query ∨
              url.toList = rule.mount ++ '/' :: query ∧ url'.toList = rule.mount ++ query)) := by
  refine ⟨?_, fun rule hrule => ?_⟩
  · obtain ⟨rule, hrule, -⟩ := RouteTable.resolve_eq_some_iff.mp htarget
    exact ⟨rule, hrule⟩
  · obtain ⟨haddress, hhost⟩ := RouteTable.address?_of_answers htarget hrule
    obtain ⟨view, hview, hstays, hpasses⟩ := RouteRule.address?_cases hslash haddress
    refine ⟨view, hview, hhost, hstays, fun hpassthru => ?_⟩
    obtain ⟨rest, htext, hrest⟩ := hpasses hpassthru
    refine ⟨⟨rest, htext, hrest.cases⟩, ?_⟩
    intro table' host' url' target' hslash' htarget' hrule' hsame hne
    obtain ⟨view', hview', -, hpasses'⟩ :=
      RouteRule.address?_cases hslash' (RouteTable.address?_of_answers htarget' hrule').1
    obtain ⟨rest', htext', hrest'⟩ := hpasses' hpassthru
    obtain rfl : view = view' := Option.some.inj (hview.symm.trans hview')
    have hjoined : (view ++ String.ofList rest').toList = (view ++ String.ofList rest).toList := by
      rw [← htext', hsame, htext]
    obtain rfl : rest' = rest := by simpa using hjoined
    rcases hrest.eq_or_query hrest' with hurl | hquery
    · exact absurd (String.toList_injective hurl) hne
    · exact hquery

/-- A slash between the mount and the query is all that is lost, and the view's server is not touched. -/
theorem slash_before_query_is_lost :
    let rule : RouteRule := ⟨"/api/", some "http://backend:9000", true⟩
    let table : RouteTable := ⟨[⟨"/api", none, false⟩, rule]⟩
    table.Answers "/api?x=1" rule ∧ table.Answers "/api/?x=1" rule ∧
      table.resolve "h" "/api?x=1" = some ⟨"http://backend:9000/?x=1", "h"⟩ ∧
      table.resolve "h" "/api/?x=1" = some ⟨"http://backend:9000/?x=1", "h"⟩ ∧
      ∃ query, IsQuery query ∧
        ("/api?x=1".toList = rule.mount ++ query ∧ "/api/?x=1".toList = rule.mount ++ '/' :: query ∨
          "/api?x=1".toList = rule.mount ++ '/' :: query ∧ "/api/?x=1".toList = rule.mount ++ query) := by
  intro rule table
  have hanswers : ∀ url, (RouteRule.address? ⟨"/api", none, false⟩ url).isSome = false →
      (rule.address? url).isSome = true → table.Answers url rule :=
    fun url hfirst hrule =>
      .cons (by simp [hfirst]) (.head (p := fun rule : RouteRule => (rule.address? url).isSome) hrule [])
  have hplain : table.Answers "/api?x=1" rule := hanswers _ (by decide +kernel) (by decide +kernel)
  have hslashed : table.Answers "/api/?x=1" rule := hanswers _ (by decide +kernel) (by decide +kernel)
  have htarget : table.resolve "h" "/api?x=1" = some ⟨"http://backend:9000/?x=1", "h"⟩ := by decide +kernel
  have htarget' : table.resolve "h" "/api/?x=1" = some ⟨"http://backend:9000/?x=1", "h"⟩ := by decide +kernel
  obtain ⟨view, -, -, -, hpassthru⟩ := (forwarding_keeps_url rfl htarget).2 rule hplain
  exact ⟨hplain, hslashed, htarget, htarget', (hpassthru rfl).2 rfl htarget' hslashed rfl (by decide)⟩

end AggregateGateway
