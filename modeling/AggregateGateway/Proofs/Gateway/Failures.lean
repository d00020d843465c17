import Mathlib.Data.List.Forall2
import AggregateGateway.Proofs.Gateway.Endpoints

/-!
What a client learns of a failure inside. Without development mode a read that fails and a document that cannot be
decoded lead to one fixed response, so none of them can be told from another; that of an endpoint without a response
names the field alone. Two runs in which the answers differ in no more than the cause of a failure end alike.
-/

namespace AggregateGateway

open Json Http

/-! ### Runs with other answers -/

namespace Exchange

variable {α β γ δ : Type} {alike : Event → Event → Prop}

/-- Given answers that are alike, the second exchange follows the first to a value that is like that of the first. -/
def Follows (alike : Event → Event → Prop) (like : α → β → Prop) (first : Exchange α) (second : Exchange β) : Prop :=
  ∀ events events' value, Run first events value → List.Forall₂ alike events events' →
    ∃ value', Run second events' value' ∧ like value value'

theorem follows_done {like : α → β → Prop} {value : α} {value' : β} (h : like value value') :
    Follows alike like (.done value) (.done value') := by
  intro events events' result hrun halike
  obtain ⟨rfl, rfl⟩ := run_done_iff.mp hrun
  cases halike
  exact ⟨value', .done, h⟩

theorem Follows.bind {like : α → β → Prop} {like' : γ → δ → Prop} {first : Exchange α} {second : Exchange β}
    {f : α → Exchange γ} {g : β → Exchange δ} (h : Follows alike like first second)
    (hnext : ∀ value value', like value value' → Follows alike like' (f value) (g value')) :
    Follows alike like' (first.bind f) (second.bind g) := by
  intro events events' result hrun halike
  obtain ⟨events₁, events₂, value, rfl, hfirst, hrest⟩ := run_bind_iff.mp hrun
  -- The other answers fall apart where those to the first exchange end.
  have hsplit := List.forall₂_take_append _ _ _ halike.flip
  have hsplit' := List.forall₂_drop_append _ _ _ halike.flip
  obtain ⟨value', hfirst', hlike⟩ := h _ _ _ hfirst hsplit.flip
  obtain ⟨result', hrest', hlike'⟩ := hnext _ _ hlike _ _ _ hrest hsplit'.flip
  refine ⟨result', run_bind_iff.mpr ⟨_, _, value', ?_, hfirst', hrest'⟩, hlike'⟩
  exact (List.take_append_drop _ _).symm

theorem Follows.map {like : α → β → Prop} {like' : γ → δ → Prop} {first : Exchange α} {second : Exchange β} {f : α → γ}
    {g : β → δ} (h : Follows alike like first second)
    (hvalue : ∀ value value', like value value' → like' (f value) (g value')) :
    Follows alike like' (first.map f) (second.map g) :=
  h.bind fun value value' hlike => follows_done (hvalue value value' hlike)

end Exchange

/-! ### Answers that differ in the cause of a failure -/

/-- A read that fails, or that gives a document which cannot be decoded where the request needs it. -/
inductive Unusable (request : Request) : DocumentKey → ReadResult → Prop
  | routes {host : String} {answer : ReadResult} {error : StoreError} : RouteTable.ofRead answer = .error error →
      Unusable request (.routes host) answer
  | domain {address : AggregateAddress} {answer : ReadResult} {error : StoreError} : request.address? = some address →
      Interface.ofRead address.selector answer = .error (.store error) →
      Unusable request (.domain address.domain) answer

/-- Answers to one question that are the same up to the cause of a failure; that of a store is a cause to hide only
without development mode. -/
inductive AlikeTo (service : Service) (request : Request) : Event → Event → Prop
  | same (event : Event) : AlikeTo service request event event
  | unusable {key : DocumentKey} {answer answer' : ReadResult} : service.options.dev = false →
      Unusable request key answer → Unusable request key answer' →
      AlikeTo service request (.readDocument key answer) (.readDocument key answer')
  | noResponse {uri : String} {sent : ResolverRequest} {cause cause' : TransportError} :
      AlikeTo service request (.callResolver uri sent (.error cause)) (.callResolver uri sent (.error cause'))

section
variable {service : Service} {cache after : RouteCache} {request : Request} {address : AggregateAddress} {host : String}
  {key : DocumentKey} {answer : ReadResult} {events events' : List Event} {response : Response}

theorem DocumentKey.routes_ne_domain (host domain : String) : DocumentKey.routes host ≠ .domain domain := by
  simp [routes, DocumentKey.domain]

theorem Unusable.routes_error (h : Unusable request (.routes host) answer) :
    ∃ error, RouteTable.ofRead answer = .error error := by
  generalize hkey : DocumentKey.routes host = key at h
  cases h with
  | routes herror => exact ⟨_, herror⟩
  | domain => exact absurd hkey (DocumentKey.routes_ne_domain _ _)

theorem Unusable.domain_error {domain : String} (h : Unusable request (.domain domain) answer)
    (haddress : request.address? = some address) :
    ∃ error, Interface.ofRead address.selector answer = .error (.store error) := by
  generalize hkey : DocumentKey.domain domain = key at h
  cases h with
  | routes => exact absurd hkey.symm (DocumentKey.routes_ne_domain _ _)
  | domain haddress' herror =>
    cases haddress'.symm.trans haddress
    exact ⟨_, herror⟩

/-! ### Every part follows itself -/

/-- Lookups end alike, or both fail and leave one cache. -/
theorem follows_reroute (cache : RouteCache) (host url : String) :
    (cache.reroute host url).Follows (AlikeTo service request)
      (fun first second => first = second ∨
        service.options.dev = false ∧ ∃ error error', first.1 = .error error ∧ second = (.error error', first.2))
      (cache.reroute host url) := by
  rintro events events' ⟨outcome, after⟩ hrun halike
  cases Reroutes.of_run hrun with
  | hit now hentry hfresh =>
    obtain _ | ⟨⟨⟩, ⟨⟩⟩ := halike
    exact ⟨_, hrun, .inl rfl⟩
  | failed now answer hmiss hread =>
    obtain _ | ⟨⟨⟩, _ | ⟨hanswers, ⟨⟩⟩⟩ := halike
    cases hanswers with
    | same => exact ⟨_, hrun, .inl rfl⟩
    | unusable hdev _ hunusable =>
      obtain ⟨error, herror⟩ := hunusable.routes_error
      exact ⟨_, (Reroutes.failed now _ hmiss herror).run, .inr ⟨hdev, _, .lookup error, rfl, rfl⟩⟩
  | loaded now time answer hmiss hread =>
    obtain _ | ⟨⟨⟩, _ | ⟨hanswers, _ | ⟨⟨⟩, ⟨⟩⟩⟩⟩ := halike
    cases hanswers with
    | same => exact ⟨_, hrun, .inl rfl⟩
    | unusable hdev hunusable _ =>
      -- What a table was made of is not unusable.
      obtain ⟨error, herror⟩ := hunusable.routes_error
      cases hread.symm.trans herror

theorem follows_load (haddress : request.address? = some address) :
    (Interface.load address.domain address.selector).Follows (AlikeTo service request)
      (fun first second => first = second ∨
        service.options.dev = false ∧ ∃ error error', first = .error (.store error) ∧ second = .error (.store error'))
      (Interface.load address.domain address.selector) := by
  intro events events' outcome hrun halike
  obtain ⟨answer, rfl, rfl⟩ := Interface.run_load_iff.mp hrun
  obtain _ | ⟨hanswers, ⟨⟩⟩ := halike
  cases hanswers with
  | same => exact ⟨_, hrun, .inl rfl⟩
  | unusable hdev hunusable hunusable' =>
    obtain ⟨error, herror⟩ := hunusable.domain_error haddress
    obtain ⟨error', herror'⟩ := hunusable'.domain_error haddress
    exact ⟨_, Interface.run_load_iff.mpr ⟨_, rfl, herror'⟩, .inr ⟨hdev, error, error', herror, rfl⟩⟩

/-- Why an endpoint gave no response, a client is not told. -/
theorem follows_resolve (graph : ResolverGraph) (type field : String) (receiver : ResolvedValue) (args raw : Value) :
    (graph.resolve type field receiver args raw).Follows (AlikeTo service request)
      (fun first second => resolutionResponse first = resolutionResponse second)
      (graph.resolve type field receiver args raw) := by
  intro events events' outcome hrun halike
  cases Resolves.of_run hrun with
  | answered answer hg hobj hr =>
    obtain _ | ⟨hanswers, ⟨⟩⟩ := halike
    cases hanswers with
    | same => exact ⟨_, hrun, rfl⟩
    | noResponse => exact ⟨_, (Resolves.answered (.error _) hg hobj hr).run, rfl⟩
  | opened id hg =>
    obtain _ | ⟨⟨⟩, ⟨⟩⟩ := halike
    exact ⟨_, hrun, rfl⟩
  | unknown | noTransaction | noEndpoint | readOff | staged | identified | committed | noResult | reported =>
    cases halike
    exact ⟨_, hrun, rfl⟩

namespace Service

theorem storeFailure_eq (hdev : service.options.dev = false) (message : String) :
    service.options.storeFailure message = .error 500 "Internal server error" := by
  rw [ServiceOptions.storeFailure, hdev]
  rfl

theorem follows_answer (service : Service) (request : Request) :
    (service.answer request).Follows (AlikeTo service request) (· = ·) (service.answer request) := by
  have hhandles := service.handles_answer request
  generalize service.answer request = exchange at hhandles
  -- An interface that cannot be loaded gives one response without development mode.
  have hfailed : ∀ {error error'}, service.options.dev = false →
      service.options.interfaceFailure (.store error) = service.options.interfaceFailure (.store error') := by
    intro error error' hdev
    exact (storeFailure_eq hdev _).trans (storeFailure_eq hdev _).symm
  cases hhandles with
  | atOnce response => exact Exchange.follows_done rfl
  | health =>
    intro events events' response hrun halike
    obtain ⟨time, hnow, rfl⟩ := Exchange.run_map_iff.mp hrun
    obtain rfl := Exchange.run_now_iff.mp hnow
    obtain _ | ⟨⟨⟩, ⟨⟩⟩ := halike
    exact ⟨_, hrun, rfl⟩
  | schema haddress =>
    refine (follows_load haddress).bind ?_
    rintro (error | api) _ (rfl | ⟨hdev, error, error', ⟨⟩, rfl⟩)
    · exact Exchange.follows_done rfl
    · exact Exchange.follows_done (hfailed hdev)
    · exact Exchange.follows_done rfl
  | field hasks =>
    refine (follows_load hasks.address?_eq).bind ?_
    rintro (error | api) _ (rfl | ⟨hdev, error, error', ⟨⟩, rfl⟩)
    · exact Exchange.follows_done rfl
    · exact Exchange.follows_done (hfailed hdev)
    · exact (follows_resolve _ _ _ _ _ _).map fun _ _ hresponse => hresponse

theorem follows_forward (target : RouteTarget) :
    (forward target request).Follows (AlikeTo service request) (· = ·) (forward target request) := by
  intro events events' response hrun halike
  have hsends := send_of_run_forward hrun
  have heq : events = events' := by
    clear hrun
    induction halike with
    | nil => rfl
    | cons hevent _ ih =>
      obtain ⟨⟨sent, reply, rfl⟩, hrest⟩ := List.forall_mem_cons.mp hsends
      cases hevent
      rw [ih hrest]
  exact ⟨response, heq ▸ hrun, rfl⟩

theorem follows_route (service : Service) (cache : RouteCache) (request : Request) :
    (service.route cache request).Follows (AlikeTo service request) (· = ·) (service.route cache request) := by
  have hanswer : ∀ after : RouteCache, ((service.answer request).map fun response => (response, after)).Follows
      (AlikeTo service request) (· = ·) ((service.answer request).map fun response => (response, after)) := by
    intro after
    refine (service.follows_answer request).map ?_
    rintro response _ rfl
    rfl
  rw [route]
  split
  · exact hanswer cache
  · next host hhost =>
    refine (follows_reroute cache host request.target.url).bind ?_
    rintro ⟨outcome, after⟩ ⟨outcome', after'⟩ (⟨⟨⟩⟩ | ⟨hdev, error, error', ⟨⟩, ⟨⟩⟩)
    · obtain error | _ | target := outcome
      · exact Exchange.follows_done rfl
      · exact hanswer after
      · refine (follows_forward target).map ?_
        rintro response _ rfl
        rfl
    · refine Exchange.follows_done ?_
      rw [storeFailure_eq hdev, storeFailure_eq hdev]

theorem follows_handle (service : Service) (cache : RouteCache) (request : Request) :
    (service.handle cache request).Follows (AlikeTo service request) (· = ·) (service.handle cache request) := by
  refine (service.follows_route cache request).map ?_
  rintro answered _ rfl
  rfl

/-! ### What a client is told -/

theorem Serves.of_unusable (h : service.Serves request events response) (hdev : service.options.dev = false)
    (hread : .readDocument key answer ∈ events) (hunusable : Unusable request key answer) :
    response = .error 500 "Internal server error" := by
  cases h with
  | atOnce => cases hread
  | clock => simp at hread
  | notLoaded haddress herror =>
    cases List.mem_singleton.mp hread
    obtain ⟨error, hstore⟩ := hunusable.domain_error haddress
    cases herror.symm.trans hstore
    exact storeFailure_eq hdev _
  | schema haddress hok =>
    cases List.mem_singleton.mp hread
    obtain ⟨error, hstore⟩ := hunusable.domain_error haddress
    cases hok.symm.trans hstore
  | field hasks hok hresolves =>
    -- The first answer gave an interface, and resolving a field reads no document.
    obtain heq | hlater := List.mem_cons.mp hread
    · cases heq
      obtain ⟨error, hstore⟩ := hunusable.domain_error hasks.address?_eq
      cases hok.symm.trans hstore
    · cases hresolves <;> simp at hlater

/-- A table, and so a target or none, is made of usable answers. -/
theorem usable_of_reroutes_ok {url : String} {target : Option RouteTarget}
    (h : Reroutes cache host url events (.ok target) after) (hread : .readDocument key answer ∈ events) :
    ¬Unusable request key answer := by
  intro hunusable
  cases h.ofLookup _ hread
  obtain ⟨error, herror⟩ := hunusable.routes_error
  cases (h.of_failed_read hread herror).1

theorem Responds.of_unusable (h : service.Responds cache request events response after)
    (hdev : service.options.dev = false) (hread : .readDocument key answer ∈ events)
    (hunusable : Unusable request key answer) : response = finish request (.error 500 "Internal server error") := by
  cases h with
  | lookupFailed => rw [storeFailure_eq hdev]
  | forwarded hlookup hforward =>
    obtain hbefore | hafter := List.mem_append.mp hread
    · exact absurd hunusable (usable_of_reroutes_ok hlookup hbefore)
    · obtain ⟨_, _, hsend⟩ := send_of_run_forward hforward _ hafter
      cases hsend
  | served hleft hserves =>
    obtain hbefore | hafter := List.mem_append.mp hread
    · cases hleft with
      | noHost => cases hbefore
      | noTarget _ hlookup => exact absurd hunusable (usable_of_reroutes_ok (.of_run hlookup) hbefore)
    · rw [hserves.of_unusable hdev hafter hunusable]

end Service

theorem resolutionResponse_transport (type field : String) (cause : TransportError) :
    resolutionResponse ((ResolverResponse.resolution type field (.error cause)).map .json) =
      .json 200 (.object [("error", .string ("Unexpected error while resolving " ++ type ++ "." ++ field))]) := by
  rfl

end

/-! ### Main statement -/

/-- Two runs that differ in no more than the cause of a failure end with the same response, and in the same cache. For a
document that is of no use without development mode it is one response for all; for an endpoint without a response it
names the field and nothing else. -/
theorem failures_stay_inside (service : Service) (cache : RouteCache) (request : Request) :
    (∀ events events' response after, Exchange.Run (service.handle cache request) events (response, after) →
        List.Forall₂ (AlikeTo service request) events events' →
        ∀ response' after', Exchange.Run (service.handle cache request) events' (response', after') ↔
          response' = response ∧ after' = after) ∧
      (service.options.dev = false → ∀ events response after,
        Exchange.Run (service.handle cache request) events (response, after) →
        ∀ key answer, .readDocument key answer ∈ events → Unusable request key answer →
          response = Service.finish request (.error 500 "Internal server error")) ∧
      ∀ events response after, Exchange.Run (service.handle cache request) events (response, after) →
        ∀ uri sent cause, .callResolver uri sent (.error cause) ∈ events →
          ∃ address wanted, AsksFor request address wanted ∧ response = .json 200 (.object [("error",
            .string ("Unexpected error while resolving " ++ wanted.type ++ "." ++ wanted.field))]) := by
  refine ⟨fun events events' response after hrun halike response' after' => ?_,
    fun hdev events response after hrun key answer hread hunusable =>
      (Service.Responds.of_run hrun).of_unusable hdev hread hunusable,
    fun events response after hrun uri sent cause hcall => ?_⟩
  · obtain ⟨_, hrun', rfl⟩ := service.follows_handle cache request _ _ _ hrun halike
    constructor
    · intro hother
      obtain ⟨-, heq⟩ := hother.unique hrun' (Eq.refl (events' ++ []))
      exact Prod.mk.inj heq
    · rintro ⟨rfl, rfl⟩
      exact hrun'
  · obtain ⟨address, wanted, hasks, -, rfl⟩ := (Service.Responds.of_run hrun).of_call hcall
    exact ⟨address, wanted, hasks, resolutionResponse_transport _ _ cause⟩

/-- A store that is down and a document that is malformed look the same. -/
theorem outage_looks_like_malformed_document :
    let service : Service := ⟨{}, 0⟩
    let cache : RouteCache := ⟨{}, []⟩
    let down : ReadResult := .error (.unavailable "connection to 10.0.0.7 refused")
    let versions : Value := .object [("versions", .object [("1", .ofInt 3)])]
    let context : Value := .object [("aggregates", .object [("order", versions)])]
    let malformed : ReadResult := .ok (some (.object [("boundedContexts", .object [("sales", context)])]))
    let response : Response := .error 500 "Internal server error"
    Unusable listRequest (.domain "acme") down ∧ Unusable listRequest (.domain "acme") malformed ∧
      Exchange.Run (service.handle cache listRequest) [.readDocument (.domain "acme") down] (response, cache) ∧
      Exchange.Run (service.handle cache listRequest) [.readDocument (.domain "acme") malformed] (response, cache) := by
  intro service cache down versions context malformed response
  let address : AggregateAddress := ⟨"acme", "sales", "order", "1"⟩
  obtain ⟨halike, -⟩ := failures_stay_inside service cache listRequest
  have haddress : listRequest.address? = some address := asksFor_listRequest.address?_eq
  have hdown : Unusable listRequest (.domain "acme") down := .domain haddress rfl
  have hmalformed : Unusable listRequest (.domain "acme") malformed := by
    have hat : (Value.object [("boundedContexts", .object [("sales", context)])]).At address.selector.path
        (.ofInt 3) := by
      iterate 6 refine .member rfl ?_
      exact .here
    exact .domain haddress (Interface.ofRead_of_malformed hat nofun rfl)
  have hrun : Exchange.Run (service.handle cache listRequest) [.readDocument (.domain "acme") down]
      (response, cache) := by
    have hleft : LeftToEndpoints cache listRequest [] cache := .noHost rfl
    have hanswers : service.Answers listRequest address { type := "Query", field := "list" }
        [.readDocument (.domain "acme") down] response := .unreadable (Interface.run_load_iff.mpr ⟨_, rfl, rfl⟩)
    have hroute : Exchange.Run (service.route cache listRequest) [.readDocument (.domain "acme") down]
        (response, cache) :=
      (Service.run_route_iff hleft).mpr ⟨rfl, (Service.run_answer_iff asksFor_listRequest).mpr hanswers⟩
    refine Exchange.run_map_iff.mpr ⟨_, hroute, ?_⟩
    show (response, cache) = (Service.finish listRequest response, cache)
    rw [Service.finish_eq asksFor_listRequest]
  have hcauses : List.Forall₂ (AlikeTo service listRequest) [.readDocument (.domain "acme") down]
      [.readDocument (.domain "acme") malformed] := .cons (.unusable rfl hdown hmalformed) .nil
  exact ⟨hdown, hmalformed, hrun, (halike _ _ _ _ hrun hcauses _ _).mpr ⟨rfl, rfl⟩⟩

end AggregateGateway
