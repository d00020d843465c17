import AggregateGateway.Proofs.Gateway.Answer
import AggregateGateway.Proofs.Routing.Reroute

/-!
The layer that looks for the route of a request before the endpoints see it. Where there is a target the request is sent
there once, and whatever comes back is the answer; a lookup that fails and a body that is too large are answered by the
layer itself. In all three cases nothing else is asked. Without a target the endpoints answer as if there were no layer.
-/

namespace AggregateGateway

open Json Http

/-! ### Headers that are handed on -/

namespace Http.Headers

theorem all_append (first second : Headers) (name : String) :
    all (first ++ second) name = first.all name ++ second.all name :=
  List.filterMap_append

/-- Dropping headers by their names keeps the values of every other name, in their order. -/
theorem all_filter (keep : String → Bool) (headers : Headers) (name : String) :
    all (headers.filter fun (key, _) => keep key) name = if keep name then headers.all name else [] := by
  induction headers with
  | nil => simp [all]
  | cons header headers ih =>
    obtain ⟨key, value⟩ := header
    unfold all at ih ⊢
    by_cases hkey : key = name
    · subst hkey
      cases hkeep : keep key <;> simp [hkeep, ih]
    · cases hkeep : keep key <;> simp [hkeep, hkey, ih]

theorem all_withoutHopByHop (headers : Headers) (name : String) :
    headers.withoutHopByHop.all name = if name ∈ hopByHop then [] else headers.all name := by
  rw [withoutHopByHop, all_filter fun name => !hopByHop.contains name]
  by_cases hname : name ∈ hopByHop <;> simp [hname]

theorem get?_isSome_iff (headers : Headers) (name : String) : (headers.get? name).isSome ↔ headers.all name ≠ [] := by
  induction headers with
  | nil => simp [get?, all]
  | cons header headers ih =>
    obtain ⟨key, value⟩ := header
    unfold get? all at ih ⊢
    by_cases hkey : key = name
    · subst hkey
      simp
    · rw [Entries.lookup_cons_ite, if_neg (Ne.symm hkey), ih]
      simp [hkey]

end Http.Headers

/-! ### What is sent, and what comes back -/

/-- The request to a target carries what the client sent: the same method and body, the values of every header that does
not concern a single connection, in their order, and one host. -/
structure Carries (request : Request) (host : String) (target : RouteTarget) (sent : OutgoingRequest) : Prop where
  method : sent.method = request.method
  url : sent.url = target.address
  body : sent.body = request.body
  host : sent.headers.all "host" = [host]
  headers : ∀ name, name ≠ "host" → sent.headers.all name = if name ∈ hopByHop then [] else request.headers.all name

/-- What becomes of the reply of a target: it is handed back without the headers of its connection, and a request that
failed gives a status of its own. -/
inductive Conveys : Except String Response → Response → Prop
  | returned {answer response : Response} : response.status = answer.status → response.body = answer.body →
      (∀ name, response.headers.all name = if name ∈ hopByHop then [] else answer.headers.all name) →
      Conveys (.ok answer) response
  | failed {reason : String} : Conveys (.error reason) (.error 502 ("Upstream request failed: " ++ reason))

/-- What the last touch makes of an answer: the methods of an endpoint that turns the request down are listed behind the
headers, if no header lists them, and an answer to `HEAD` loses its body. -/
structure Finishes (request : Request) (answer response : Response) : Prop where
  status : response.status = answer.status
  body : response.body = if request.method = "HEAD" then .empty else answer.body
  listed : ∀ endpoint, Endpoint.ofPath? request.target.path = some endpoint → endpoint.allows request.method = false →
    answer.headers.all "allow" = [] → response.headers = answer.headers ++ [("allow", ",".intercalate endpoint.methods)]
  unlisted : (∀ endpoint, Endpoint.ofPath? request.target.path = some endpoint →
    endpoint.allows request.method = false → answer.headers.all "allow" ≠ []) → response.headers = answer.headers

theorem RouteTarget.carries_outgoing (request : Request) (target : RouteTarget) :
    Carries request target.host target (target.outgoing request.method request.headers request.body) where
  method := rfl
  url := rfl
  body := rfl
  host := by
    rw [outgoing, Headers.all_append, Headers.all_withoutHopByHop, if_pos (by decide)]
    rfl
  headers := by
    intro name hname
    have hhost : Headers.all [("host", target.host)] name = [] := by simp [Headers.all, Ne.symm hname]
    rw [outgoing, Headers.all_append, Headers.all_withoutHopByHop, hhost, List.append_nil]

/-- A host that was read from a header can stand in one. -/
theorem isHeaderValue_of_readable {value text : String} (h : readable? value = some text) :
    isHeaderValue text = true := by
  unfold readable? at h
  split at h
  · next hall =>
    cases h
    rw [isHeaderValue, List.all_eq_true]
    intro c hc
    have hreadable := List.all_eq_true.mp hall c hc
    simp only [isReadable, Bool.or_eq_true, Bool.and_eq_true, decide_eq_true_eq] at hreadable ⊢
    rcases hreadable with htab | ⟨hlow, hhigh⟩
    · exact .inl htab
    · refine .inr ⟨hlow, ?_⟩
      rintro rfl
      exact absurd hhigh (by decide)
  · cases h

theorem isHeaderValue_of_text? {headers : Headers} {name text : String} (h : headers.text? name = some text) :
    isHeaderValue text = true := by
  obtain ⟨value, -, hreadable⟩ := Option.bind_eq_some_iff.mp h
  exact isHeaderValue_of_readable hreadable

theorem RouteTable.host_of_resolve {table : RouteTable} {host url : String} {target : RouteTarget}
    (h : table.resolve host url = some target) : target.host = host := by
  obtain ⟨rule, -, hrule⟩ := List.exists_of_findSome?_eq_some h
  obtain ⟨address, -, rfl⟩ := Option.map_eq_some_iff.mp hrule
  rfl

section
variable {cache after : RouteCache} {host url : String} {events : List Event}
  {outcome : Except RouteError (Option RouteTarget)}

theorem Reroutes.host_of_target {target : RouteTarget} (h : Reroutes cache host url events (.ok (some target)) after) :
    target.host = host := by
  obtain ⟨entry, -, htarget⟩ := h.target_of_ok
  exact RouteTable.host_of_resolve htarget.symm

/-- What is asked to find the target of a request: the time, and the route document of its host. -/
inductive Event.OfLookup (host : String) : Event → Prop
  | time {time : Nat} : OfLookup host (.readClock time)
  | document {answer : ReadResult} : OfLookup host (.readDocument (.routes host) answer)

theorem Reroutes.ofLookup (h : Reroutes cache host url events outcome after) :
    ∀ event ∈ events, event.OfLookup host := by
  cases h with
  | hit now hfound hfresh => simpa using .time
  | failed now answer hmiss hread => simpa using ⟨.time, .document⟩
  | loaded now time answer hmiss hread => simpa using ⟨.time, .document, .time⟩

end

/-! ### The layer -/

namespace Service

variable {service : Service} {cache after final : RouteCache} {request : Request} {host : String}
  {before events : List Event} {response : Response} {target : RouteTarget}

theorem run_route_of_target (hhost : request.headers.text? "host" = some host)
    (hfound : Exchange.Run (cache.reroute host request.target.url) before (.ok (some target), after)) :
    Exchange.Run (service.route cache request) (before ++ events) (response, final) ↔
      final = after ∧ Exchange.Run (forward target request) events response := by
  rw [route, hhost]
  refine hfound.bind_iff.trans ?_
  rw [Exchange.run_map_iff]
  constructor
  · rintro ⟨_, hrun, heq⟩
    cases heq
    exact ⟨rfl, hrun⟩
  · rintro ⟨rfl, hrun⟩
    exact ⟨response, hrun, rfl⟩

theorem run_route_of_error {error : RouteError} (hhost : request.headers.text? "host" = some host)
    (hfailed : Exchange.Run (cache.reroute host request.target.url) before (.error error, after)) :
    Exchange.Run (service.route cache request) (before ++ events) (response, final) ↔
      events = [] ∧ response = service.options.storeFailure error.message ∧ final = after := by
  rw [route, hhost]
  refine hfailed.bind_iff.trans ?_
  rw [Exchange.run_done_iff, Prod.mk.injEq]

/-- A body that is not too large is sent to the target once, whose reply decides the answer. -/
theorem run_forward_iff (hhost : isHeaderValue target.host = true) (hsize : request.body.size ≤ maxForwardBody) :
    Exchange.Run (forward target request) events response ↔
      ∃ reply, events = [.send (target.outgoing request.method request.headers request.body) reply] ∧
        response = match reply with
          | .ok answer => { answer with headers := answer.headers.withoutHopByHop }
          | .error reason => .error 502 (ForwardError.failed reason).message := by
  rw [forward, if_neg (Nat.not_lt.mpr hsize), Exchange.run_map_iff, RouteTarget.forward, if_pos hhost]
  constructor
  · rintro ⟨outcome, hrun, rfl⟩
    obtain ⟨reply, hsent, rfl⟩ := Exchange.run_map_iff.mp hrun
    refine ⟨reply, Exchange.run_transmit_iff.mp hsent, ?_⟩
    cases reply <;> rfl
  · rintro ⟨reply, rfl, rfl⟩
    refine ⟨_, Exchange.run_map_iff.mpr ⟨reply, Exchange.run_transmit_iff.mpr rfl, rfl⟩, ?_⟩
    cases reply <;> rfl

theorem run_forward_of_large (hsize : maxForwardBody < request.body.size) :
    Exchange.Run (forward target request) events response ↔
      events = [] ∧ response = .error 413 "length limit exceeded" := by
  rw [forward, if_pos hsize, Exchange.run_done_iff]

theorem finishes (request : Request) (answer : Response) : Finishes request answer (finish request answer) where
  status := rfl
  body := rfl
  listed := by
    intro endpoint hpath hrefuses hnone
    have hget : ¬(answer.headers.get? "allow").isSome := by rw [Headers.get?_isSome_iff, hnone]; simp
    simp [finish, hpath, hrefuses, hget]
  unlisted := by
    intro hlists
    unfold finish
    cases hpath : Endpoint.ofPath? request.target.path with
    | none => rfl
    | some endpoint =>
      cases hallows : endpoint.allows request.method with
      | true => simp [hallows]
      | false =>
        have hget := (Headers.get?_isSome_iff _ _).mpr (hlists endpoint hpath hallows)
        simp [hallows, hget]

/-- The last touch on an answer changes nothing where no endpoint turns the method down and the body may stay. -/
theorem finish_eq_self (hmethod : request.method ≠ "HEAD")
    (hallows : ∀ endpoint, Endpoint.ofPath? request.target.path = some endpoint →
      endpoint.allows request.method = true) (response : Response) : finish request response = response := by
  have hfinishes := finishes request response
  have hheaders := hfinishes.unlisted fun endpoint hpath hrefuses => by
    rw [hallows endpoint hpath] at hrefuses
    cases hrefuses
  have hbody := hfinishes.body
  rw [if_neg hmethod] at hbody
  calc finish request response
    _ = ⟨(finish request response).status, (finish request response).headers, (finish request response).body⟩ := rfl
    _ = response := by rw [hfinishes.status, hheaders, hbody]

/-- A request with a target is sent there once, whatever comes back, and the reply is the answer. -/
theorem route_of_target (hhost : request.headers.text? "host" = some host)
    (hfound : Exchange.Run (cache.reroute host request.target.url) before (.ok (some target), after))
    (hsize : request.body.size ≤ maxForwardBody) :
    ∃ sent, Carries request host target sent ∧
      (∀ reply, ∃ answer, Exchange.Run (service.route cache request) (before ++ [.send sent reply]) (answer, after)) ∧
      ∀ events answer final, Exchange.Run (service.route cache request) (before ++ events) (answer, final) →
        final = after ∧ ∃ reply, events = [.send sent reply] ∧ Conveys reply answer := by
  -- The host of the target was read from a header, so no attempt fails for it.
  have htarget : target.host = host := (Reroutes.of_run hfound).host_of_target
  have hvalue : isHeaderValue target.host = true := htarget ▸ isHeaderValue_of_text? hhost
  refine ⟨_, htarget ▸ target.carries_outgoing request, fun reply => ?_, fun events answer final hrun => ?_⟩
  · have hforward := run_forward_iff hvalue hsize |>.mpr ⟨reply, rfl, rfl⟩
    exact ⟨_, (run_route_of_target hhost hfound).mpr ⟨rfl, hforward⟩⟩
  · obtain ⟨rfl, hforward⟩ := (run_route_of_target hhost hfound).mp hrun
    obtain ⟨reply, rfl, rfl⟩ := (run_forward_iff hvalue hsize).mp hforward
    refine ⟨rfl, reply, rfl, ?_⟩
    cases reply with
    | ok answer => exact .returned rfl rfl answer.headers.all_withoutHopByHop
    | error reason => exact .failed

theorem run_handle_iff : Exchange.Run (service.handle cache request) events (response, final) ↔
    ∃ answer, Exchange.Run (service.route cache request) events (answer, final) ∧ response = finish request answer := by
  rw [handle, Exchange.run_map_iff]
  constructor
  · rintro ⟨⟨answer, cache'⟩, hrun, heq⟩
    cases heq
    exact ⟨answer, hrun, rfl⟩
  · rintro ⟨answer, hrun, rfl⟩
    exact ⟨_, hrun, rfl⟩

end Service

/-! ### Main statement -/

/-- What the layer makes of a request. Its runs go on from the runs of the lookup for the host of the request. -/
structure Diverts (service : Service) (cache : RouteCache) (request : Request) : Prop where
  lookup : ∀ host events outcome after, Exchange.Run (cache.reroute host request.target.url) events (outcome, after) →
    ∀ event ∈ events, event.OfLookup host
  /-- With a target there is one more question, the request to the target, and its reply is the answer. -/
  forwards : ∀ host target before after, request.headers.text? "host" = some host →
    Exchange.Run (cache.reroute host request.target.url) before (.ok (some target), after) →
    request.body.size ≤ 16 * 1024 * 1024 →
    ∃ sent, Carries request host target sent ∧
      (∀ reply, ∃ response,
        Exchange.Run (service.route cache request) (before ++ [.send sent reply]) (response, after)) ∧
      ∀ events response final, Exchange.Run (service.route cache request) (before ++ events) (response, final) →
        final = after ∧ ∃ reply, events = [.send sent reply] ∧ Conveys reply response
  tooLarge : ∀ host target before after, request.headers.text? "host" = some host →
    Exchange.Run (cache.reroute host request.target.url) before (.ok (some target), after) →
    16 * 1024 * 1024 < request.body.size →
    ∀ events response final, Exchange.Run (service.route cache request) (before ++ events) (response, final) ↔
      events = [] ∧ response = .error 413 "length limit exceeded" ∧ final = after
  failed : ∀ host error before after, request.headers.text? "host" = some host →
    Exchange.Run (cache.reroute host request.target.url) before (.error error, after) →
    ∀ events response final, Exchange.Run (service.route cache request) (before ++ events) (response, final) ↔
      events = [] ∧ final = after ∧
        response = .error 500 (if service.options.dev then error.message else "Internal server error")
  /-- Without a host or a target the endpoints answer. -/
  left : ∀ before after, LeftToEndpoints cache request before after →
    ∀ events response final, Exchange.Run (service.route cache request) (before ++ events) (response, final) ↔
      final = after ∧ Exchange.Run (service.answer request) events response
  /-- Whoever answers, the service puts the same last touch on it. -/
  finished : ∀ events response final, Exchange.Run (service.handle cache request) events (response, final) ↔
    ∃ answer, Exchange.Run (service.route cache request) events (answer, final) ∧
      response = Service.finish request answer
  untouched : request.method ≠ "HEAD" →
    (∀ endpoint, Endpoint.ofPath? request.target.path = some endpoint → endpoint.allows request.method = true) →
    ∀ answer, Service.finish request answer = answer
  /-- Otherwise it lists the methods of an endpoint, or empties the body of an answer to `HEAD`, and does no more. -/
  touched : ∀ answer, Finishes request answer (Service.finish request answer)
  /-- With a target the client is told the reply to the one request that is sent, but for that touch. -/
  delivered : ∀ host target before after, request.headers.text? "host" = some host →
    Exchange.Run (cache.reroute host request.target.url) before (.ok (some target), after) →
    request.body.size ≤ 16 * 1024 * 1024 →
    ∃ sent, Carries request host target sent ∧
      (∀ reply, ∃ response,
        Exchange.Run (service.handle cache request) (before ++ [.send sent reply]) (response, after)) ∧
      ∀ events response final, Exchange.Run (service.handle cache request) (before ++ events) (response, final) →
        final = after ∧ ∃ reply answer, events = [.send sent reply] ∧ Conveys reply answer ∧
          Finishes request answer response

/-- A request whose host has a route for its URL is sent to the target of the route, once, and reaches nothing else; a
request without one is answered by the endpoints as if there were no routes. -/
theorem reroute_layer_exclusive (service : Service) (cache : RouteCache) (request : Request) :
    Diverts service cache request where
  lookup := fun host events outcome after hrun => (Reroutes.of_run hrun).ofLookup
  forwards := fun host target before after hhost hfound hsize => Service.route_of_target hhost hfound hsize
  tooLarge := by
    intro host target before after hhost hfound hsize events response final
    rw [Service.run_route_of_target hhost hfound, Service.run_forward_of_large hsize]
    exact ⟨fun ⟨hfinal, hevents, hresponse⟩ => ⟨hevents, hresponse, hfinal⟩,
      fun ⟨hevents, hresponse, hfinal⟩ => ⟨hfinal, hevents, hresponse⟩⟩
  failed := by
    intro host error before after hhost hfailed events response final
    rw [Service.run_route_of_error hhost hfailed]
    exact and_congr_right fun _ => and_comm
  left := fun before after hleft events response final => Service.run_route_iff hleft
  finished := fun events response final => Service.run_handle_iff
  untouched := fun hmethod hallows answer => Service.finish_eq_self hmethod hallows answer
  touched := Service.finishes request
  delivered := by
    intro host target before after hhost hfound hsize
    obtain ⟨sent, hsent, hanswers, honly⟩ := Service.route_of_target hhost hfound hsize
    refine ⟨sent, hsent, fun reply => ?_, fun events response final hrun => ?_⟩
    · obtain ⟨answer, hanswer⟩ := hanswers reply
      exact ⟨_, Service.run_handle_iff.mpr ⟨answer, hanswer, rfl⟩⟩
    · obtain ⟨answer, hanswer, rfl⟩ := Service.run_handle_iff.mp hrun
      obtain ⟨hfinal, reply, hevents, hconveys⟩ := honly events answer final hanswer
      exact ⟨hfinal, reply, answer, hevents, hconveys, Service.finishes request answer⟩

/-- Of a request to a mounted view the repeated header arrives, that of the connection does not, and neither does it on
the way back. -/
theorem mounted_view_is_asked_once :
    let rule : RouteRule := { path := "/app", view := some "http://view" }
    let cache : RouteCache := ⟨{}, [("shop", ⟨⟨[rule]⟩, 0⟩)]⟩
    let request : Request :=
      { method := "PUT", target := .resource "/app/x" (some "y=1"), body := "paint".toUTF8, peer := none
        headers := [("host", "shop"), ("x-colour", "red"), ("connection", "close"), ("x-colour", "blue")] }
    let answer : Response := ⟨201, [("x-view", "a"), ("connection", "close"), ("x-view", "b")], "done".toUTF8⟩
    ∃ sent response, sent.url = "http://view" ∧ sent.method = "PUT" ∧ sent.body = request.body ∧
      sent.headers.all "x-colour" = ["red", "blue"] ∧ sent.headers.all "connection" = [] ∧
      sent.headers.all "host" = ["shop"] ∧
      Exchange.Run ((⟨{}, 0⟩ : Service).handle cache request) [.readClock 7, .send sent (.ok answer)]
        (response, cache) ∧
      response.status = 201 ∧ response.body = answer.body ∧ response.headers.all "x-view" = ["a", "b"] ∧
      response.headers.all "connection" = [] := by
  intro rule cache request answer
  have hlayer := reroute_layer_exclusive ⟨{}, 0⟩ cache request
  have hfound : Exchange.Run (cache.reroute "shop" request.target.url) [.readClock 7]
      (.ok (some ⟨"http://view", "shop"⟩), cache) := by
    have hresolve : (⟨[rule]⟩ : RouteTable).resolve "shop" request.target.url = some ⟨"http://view", "shop"⟩ := by
      decide +kernel
    have hentry : cache.entries.lookup "shop" = some ⟨⟨[rule]⟩, 0⟩ := rfl
    have hhit : Reroutes cache "shop" request.target.url [.readClock 7] _ _ := .hit 7 hentry (by decide)
    rw [hresolve] at hhit
    exact hhit.run
  obtain ⟨sent, hsent, hruns, honly⟩ := hlayer.forwards "shop" _ _ _ rfl hfound (by decide)
  obtain ⟨answered, hanswered⟩ := hruns (.ok answer)
  obtain ⟨-, reply, hreply, hconveys⟩ := honly _ _ _ hanswered
  cases hreply
  cases hconveys with
  | returned hstatus hbody hheaders =>
    refine ⟨sent, answered, hsent.url, hsent.method, hsent.body, ?_, ?_, hsent.host, ?_, hstatus, hbody, ?_, ?_⟩
    · rw [hsent.headers _ (by decide), if_neg (by decide)]
      rfl
    · rw [hsent.headers _ (by decide), if_pos (by decide)]
    · have hpath : Endpoint.ofPath? request.target.path = none := by
        show Endpoint.ofPath? "/app/x" = none
        rw [Endpoint.ofPath?, show "/" = String.singleton '/' from rfl, Text.splitOn_singleton]
        rfl
      have huntouched := hlayer.untouched (by decide) (by simp [hpath]) answered
      exact (hlayer.finished _ _ _).mpr ⟨answered, hanswered, huntouched.symm⟩
    · rw [hheaders, if_neg (by decide)]
      rfl
    · rw [hheaders, if_pos (by decide)]

end AggregateGateway
