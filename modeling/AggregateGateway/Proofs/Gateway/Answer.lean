import AggregateGateway.Gateway.Service
import AggregateGateway.Proofs.Gateway.Interface
import AggregateGateway.Proofs.Json.RoundTrip
import AggregateGateway.Proofs.Resolver.RemoteCall
import AggregateGateway.Proofs.Text.SplitOn
import AggregateGateway.Resolver.Transport

/-!
The answer of the service to a request that resolves a field. It is itself a resolver response: what it decodes to has
the data or the error with which the field was resolved as its result, and so another gateway may take the service as
an endpoint. That an error is never `null` is what tells the two apart.
-/

namespace AggregateGateway

open Json Http

/-! ### Bodies -/

/-- What a client is told of a resolved field. -/
def clientResult : Resolution → Except Value Value
  | .ok value => .ok value.toJson
  | .error error => .error error.clientForm

def resolutionBody : Resolution → Value
  | .ok value => .object [("data", value.toJson)]
  | .error error => .object [("error", error.clientForm)]

/-- A body holds the data or else the error of an outcome, and is a resolver response with the outcome as its result. -/
structure Represents (body : Value) (outcome : Resolution) : Prop where
  data : ∀ value, outcome = .ok value → body = .object [("data", value.toJson)]
  error : ∀ error, outcome = .error error →
    body = .object [("error", error.clientForm)] ∧ error.clientForm ≠ .null
  decodes : ∃ response, ResolverResponse.decode body = .ok response ∧ response.result = clientResult outcome
  /-- So it is for another gateway, which reads the text of the body, as far as texts are read back. -/
  received : body.Readable 127 → ∃ response,
    ResolverResponse.ofAnswer (.ok (.json 200 body)) = .ok response ∧ response.result = clientResult outcome

theorem Represents.eq_body {body : Value} {outcome : Resolution} (h : Represents body outcome) :
    body = resolutionBody outcome := by
  cases outcome with
  | ok value => exact h.data value rfl
  | error error => exact (h.error error rfl).1

theorem resolutionResponse_eq (outcome : Resolution) :
    resolutionResponse outcome = .json 200 (resolutionBody outcome) := by
  cases outcome <;> rfl

/-- Of all errors only one of the application could be `null`. -/
theorem ResolverError.clientForm_ne_null {error : ResolverError}
    (h : ∀ value, error = .application value → value.isNull = false) : error.clientForm ≠ .null := by
  cases error with
  | application value => exact Value.isNull_eq_false_iff.mp (h value rfl)
  | notFound _ _ | transport _ _ _ | unknownField _ _ | invalidReceiver _ _ _ => exact nofun

namespace ResolverResponse

theorem decode_data (value : Value) : decode (.object [("data", value)]) = .ok ⟨value, none⟩ := by
  rfl

theorem decode_error {value : Value} (h : value ≠ .null) :
    decode (.object [("error", value)]) = .ok ⟨.null, some value⟩ := by
  cases value with
  | null => exact absurd rfl h
  | bool _ | number _ | string _ | array _ | object _ => rfl

theorem result_of_error {data error : Value} (h : error ≠ .null) : result ⟨data, some error⟩ = .error error := by
  simp [result, Value.isNull_eq_false_iff.mpr h]

/-- A body that is read back is received as the response that it decodes to. -/
theorem ofAnswer_json {name : String} {value : Value} {response : ResolverResponse} (hname : name ∈ ["data", "error"])
    (hreadable : (Value.object [(name, value)]).Readable 127)
    (hdecode : decode (.object [(name, value)]) = .ok response) :
    ofAnswer (.ok (.json 200 (.object [(name, value)]))) = .ok response := by
  have hvalue : value.Readable 126 := by
    cases hreadable with
    | object _ hmembers => exact hmembers _ List.mem_cons_self
  have hlisted : List.lookup name [("data", false, Shape.any), ("error", false, Shape.any)] = some (false, .any) := by
    simp only [List.mem_cons, List.not_mem_nil, or_false] at hname
    rcases hname with rfl | rfl
    · rfl
    · rfl
  have hread := Shape.read_compact_singleton hlisted (by simp) hvalue
  rw [← shape] at hread
  simp only [ofAnswer, Response.json, ofBody, Text.fromUTF8?_toUTF8, hread, hdecode]
  rfl

end ResolverResponse

theorem represents_resolutionBody {outcome : Resolution}
    (h : ∀ value, outcome = .error (.application value) → value.isNull = false) :
    Represents (resolutionBody outcome) outcome := by
  cases outcome with
  | ok value =>
    have hdecode := ResolverResponse.decode_data value.toJson
    constructor
    case data =>
      intro _ hvalue
      cases hvalue
      rfl
    case error => exact nofun
    case decodes => exact ⟨_, hdecode, rfl⟩
    case received => exact fun hreadable => ⟨_, ResolverResponse.ofAnswer_json (by simp) hreadable hdecode, rfl⟩
  | error error =>
    have hnull : error.clientForm ≠ .null := ResolverError.clientForm_ne_null fun value hvalue => h value (hvalue ▸ rfl)
    have hdecode := ResolverResponse.decode_error hnull
    have hresult : ResolverResponse.result ⟨.null, some error.clientForm⟩ = clientResult (.error error) :=
      ResolverResponse.result_of_error hnull
    constructor
    case data => exact nofun
    case error =>
      intro _ herror
      cases herror
      exact ⟨rfl, hnull⟩
    case decodes => exact ⟨_, hdecode, hresult⟩
    case received => exact fun hreadable => ⟨_, ResolverResponse.ofAnswer_json (by simp) hreadable hdecode, hresult⟩

/-! ### Requests -/

/-- A request asks for a field of the aggregate at an address: it is posted to the endpoint that resolves fields, the
parts of its path are text, and its body holds a field request. -/
structure AsksFor (request : Request) (address : AggregateAddress) (wanted : FieldRequest) : Prop where
  posted : request.method = "POST"
  addressed : ∃ encoded, Endpoint.ofPath? request.target.path = some (.resolve encoded) ∧ encoded.decode? = some address
  decoded : FieldRequest.ofRequest request = .ok wanted

/-- The questions after which a request is left to the endpoints, and the cache by then: its host cannot be read, or the
URL has no target there. -/
inductive LeftToEndpoints (cache : RouteCache) (request : Request) : List Event → RouteCache → Prop
  | noHost : request.headers.text? "host" = none → LeftToEndpoints cache request [] cache
  | noTarget {host : String} {events : List Event} {after : RouteCache} : request.headers.text? "host" = some host →
      Exchange.Run (cache.reroute host request.target.url) events (.ok none, after) →
      LeftToEndpoints cache request events after

namespace Service

variable {service : Service} {cache after : RouteCache} {request : Request} {address : AggregateAddress}
  {wanted : FieldRequest} {before events : List Event} {response : Response}

/-- The answers to a request for a field, with the questions that lead to them. -/
inductive Answers (service : Service) (request : Request) (address : AggregateAddress) (wanted : FieldRequest) :
    List Event → Response → Prop
  | notCompiled {events : List Event} {error : CompileError} :
      Exchange.Run (Interface.load address.domain address.selector) events (.error (.compile error)) →
      Answers service request address wanted events (.json 404 (.object [("error", .string error.message)]))
  /-- Why the store failed is told in development mode alone. -/
  | unreadable {events : List Event} {error : StoreError} :
      Exchange.Run (Interface.load address.domain address.selector) events (.error (.store error)) →
      Answers service request address wanted events (.json 500 (.object [("error", .string
        (if service.options.dev then error.message else "Internal server error"))]))
  | resolved {loading resolving : List Event} {api : Interface} {outcome : Resolution} {body : Value} :
      Exchange.Run (Interface.load address.domain address.selector) loading (.ok api) →
      Exchange.Run (api.resolve wanted.type wanted.field wanted.subject wanted.args
        (request.context service.options.trustProxy address.encode)) resolving outcome →
      Represents body outcome → Answers service request address wanted (loading ++ resolving) (.json 200 body)

/-- No error of the application is `null`, and so every outcome is represented. -/
theorem represents_of_run {api : Interface} {type field : String} {receiver : ResolvedValue} {args raw : Value}
    {outcome : Resolution} (h : Exchange.Run (api.resolve type field receiver args raw) events outcome) :
    Represents (resolutionBody outcome) outcome := by
  have hgives : FieldCall.Gives api.resolvers ⟨type, field, receiver, args, raw⟩ ⟨events, outcome⟩ := h
  exact represents_resolutionBody (asksOnce_of_gives hgives).neverNull

/-! ### Runs of the service -/

/-- A request that is left to the endpoints is answered there after the questions about its route. -/
theorem run_route_iff (hleft : LeftToEndpoints cache request before after) {final : RouteCache} :
    Exchange.Run (service.route cache request) (before ++ events) (response, final) ↔
      final = after ∧ Exchange.Run (service.answer request) events response := by
  have answered : ∀ cache, Exchange.Run ((service.answer request).map fun response => (response, cache)) events
      (response, final) ↔ final = cache ∧ Exchange.Run (service.answer request) events response := by
    intro cache
    rw [Exchange.run_map_iff]
    constructor
    · rintro ⟨_, h, heq⟩
      cases heq
      exact ⟨rfl, h⟩
    · rintro ⟨rfl, h⟩
      exact ⟨response, h, rfl⟩
  cases hleft with
  | noHost hhost =>
    rw [route, hhost]
    exact answered cache
  | noTarget hhost hreroute =>
    rw [route, hhost]
    exact hreroute.bind_iff.trans (answered after)

theorem run_answer_iff (hasks : AsksFor request address wanted) :
    Exchange.Run (service.answer request) events response ↔ service.Answers request address wanted events response := by
  obtain ⟨encoded, hpath, haddress⟩ := hasks.addressed
  have hallows : (Endpoint.resolve encoded).allows request.method = true := by
    rw [hasks.posted]
    rfl
  rw [answer, hpath]
  simp only [hallows, if_true, serve, resolve, haddress, hasks.decoded]
  rw [Exchange.run_bind_iff]
  constructor
  · rintro ⟨loading, rest, loaded, rfl, hload, hrest⟩
    match loaded with
    | .error (.compile error) =>
      obtain ⟨rfl, rfl⟩ := Exchange.run_done_iff.mp hrest
      rw [List.append_nil]
      exact .notCompiled hload
    | .error (.store error) =>
      obtain ⟨rfl, rfl⟩ := Exchange.run_done_iff.mp hrest
      rw [List.append_nil]
      exact .unreadable hload
    | .ok api =>
      obtain ⟨outcome, hresolve, rfl⟩ := Exchange.run_map_iff.mp hrest
      rw [resolutionResponse_eq]
      exact .resolved hload hresolve (represents_of_run hresolve)
  · intro h
    cases h with
    | notCompiled hload => exact ⟨_, [], _, (List.append_nil _).symm, hload, .done⟩
    | unreadable hload => exact ⟨_, [], _, (List.append_nil _).symm, hload, .done⟩
    | resolved hload hresolve hbody =>
      refine ⟨_, _, _, rfl, hload, Exchange.run_map_iff.mpr ⟨_, hresolve, ?_⟩⟩
      rw [resolutionResponse_eq, hbody.eq_body]

/-- An allowed request that is no `HEAD` is answered as it is. -/
theorem finish_eq (hasks : AsksFor request address wanted) (response : Response) :
    finish request response = response := by
  obtain ⟨encoded, hpath, -⟩ := hasks.addressed
  have hallows : (Endpoint.resolve encoded).allows "POST" = true := rfl
  simp [finish, hpath, hasks.posted, hallows]

end Service

/-! ### Main statement -/

/-- A request for a field that is left to the endpoints is answered in one of three ways, and in no other: with 404 if
the aggregate or its repository is missing, with 500 if the store fails, and with 200 otherwise, whatever the field
came to. The body of the last is a resolver response with the outcome of the field as its result. -/
theorem resolve_answers_with_response (service : Service) {cache after : RouteCache} {request : Request}
    {address : AggregateAddress} {wanted : FieldRequest} {before : List Event}
    (hasks : AsksFor request address wanted) (hleft : LeftToEndpoints cache request before after) :
    (∀ events response final, Exchange.Run (service.handle cache request) (before ++ events) (response, final) ↔
        final = after ∧ service.Answers request address wanted events response) ∧
      ∀ outside : Outside Id, ∃ events response, service.Answers request address wanted events response ∧
        ∀ event ∈ events, event.AnsweredBy outside := by
  refine ⟨fun events response final => ?_, fun outside => ?_⟩
  · rw [← Service.run_answer_iff hasks, ← Service.run_route_iff hleft, Service.handle, Exchange.run_map_iff]
    constructor
    · rintro ⟨_, h, heq⟩
      cases heq
      rwa [Service.finish_eq hasks]
    · intro h
      refine ⟨_, h, ?_⟩
      show (response, final) = (Service.finish request response, final)
      rw [Service.finish_eq hasks]
  · obtain ⟨events, hrun, hanswered⟩ := Exchange.exists_run outside (service.answer request)
    exact ⟨events, _, (Service.run_answer_iff hasks).mp hrun, hanswered⟩

/-- An aggregate with one query. -/
def listAggregate : Value :=
  .object [
    ("queries", .object [("list", .object [("resolver", .object [("uri", .string "http://svc/list")])])]),
    ("repository", .string "orders")]

def listDocument : Value :=
  .object [
    ("boundedContexts", .object [("sales", .object [("aggregates", .object [("order", .object [("versions",
      .object [("1", listAggregate)])])])])]),
    ("repositories", .object [("orders", .string "db")])]

/-- A request for the query. -/
def listRequest : Request where
  method := "POST"
  target := .resource "/v0.1/resolve/acme/sales/order/1" none
  headers := [("content-type", "application/json")]
  body := "\x7b\"type\":\"Query\",\"field\":\"list\"\x7d".toUTF8
  peer := none

theorem asksFor_listRequest :
    AsksFor listRequest ⟨"acme", "sales", "order", "1"⟩ { type := "Query", field := "list" } where
  posted := rfl
  addressed := by
    refine ⟨⟨"acme", "sales", "order", "1"⟩, ?_, by decide +kernel⟩
    show Endpoint.ofPath? "/v0.1/resolve/acme/sales/order/1" = _
    rw [Endpoint.ofPath?, show "/" = String.singleton '/' from rfl, Text.splitOn_singleton]
    rfl
  decoded := by
    have hannounced : FieldRequest.isAnnounced listRequest.headers = true := by decide +kernel
    have hsize : ¬listRequest.body.size > FieldRequest.maxBody := by decide
    have hread : FieldRequest.shape.read "\x7b\"type\":\"Query\",\"field\":\"list\"\x7d" =
        .ok (.object [("type", .string "Query"), ("field", .string "list")]) := by
      simp [FieldRequest.shape, Shape.read, Reader.readValue, Reader.skipBlank, Reader.readMembers, Reader.readText,
        Reader.listedMember, Reader.isComplete, Reader.maxDepth, Entries.lookup_cons_ite]
    rw [FieldRequest.ofRequest, hannounced, if_neg hsize, listRequest, Text.fromUTF8?_toUTF8]
    simp only [FieldRequest.ofText, hread]
    rfl

/-- The endpoint gives data and an error of `null`, which is none; the answer has the data alone. -/
theorem list_answer_has_data :
    let service : Service := ⟨{}, 0⟩
    let cache : RouteCache := ⟨{}, []⟩
    let address : AggregateAddress := ⟨"acme", "sales", "order", "1"⟩
    let call : Event := .callResolver "http://svc/list"
      ⟨.object [], .null, .filter (listRequest.context false address.encode)⟩ (.ok ⟨.ofInt 1, some .null⟩)
    AsksFor listRequest address { type := "Query", field := "list" } ∧ LeftToEndpoints cache listRequest [] cache ∧
      Exchange.Run (service.handle cache listRequest)
        [.readDocument (.domain "acme") (.ok (some listDocument)), call]
        (.json 200 (.object [("data", .ofInt 1)]), cache) ∧
      ∃ response, ResolverResponse.ofAnswer (.ok (.json 200 (.object [("data", .ofInt 1)]))) = .ok response ∧
        response.result = .ok (.ofInt 1) := by
  intro service cache address call
  have hleft : LeftToEndpoints cache listRequest [] cache := .noHost rfl
  obtain ⟨hruns, -⟩ := resolve_answers_with_response service asksFor_listRequest hleft
  have hat : listDocument.At address.selector.path listAggregate := by
    iterate 6 refine .member rfl ?_
    exact .here
  have hentry : listDocument.At (repositoryPath "orders") (.string "db") := .member rfl (.member rfl .here)
  let list : FieldSpec := { resolver := some ⟨"http://svc/list"⟩ }
  let aggregate : AggregateDefinition := { queries := .ofList [("list", list)], repository := some "orders" }
  let api : Interface := .ofSchema (.ofAggregate aggregate (.string "db"))
  have hload : Exchange.Run (Interface.load address.domain address.selector)
      [.readDocument (.domain "acme") (.ok (some listDocument))] (.ok api) := by
    have hdecode : AggregateDefinition.decode listAggregate = .ok aggregate := rfl
    exact Interface.run_load_iff.mpr
      ⟨_, rfl, Interface.ofRead_of_offers (.compiled hat hdecode rfl hentry nofun)⟩
  have hresolve : Exchange.Run (api.resolve queryType "list" .root .null
      (listRequest.context false address.encode)) [call] (.ok (.json (.ofInt 1))) := by
    have hg : api.resolvers.get? queryType "list" = some (.dispatch (list.setReturnType (.many aggregateType))) := rfl
    exact Resolves.run (.answered (.ok ⟨.ofInt 1, some .null⟩) hg rfl rfl)
  have hbody : Represents (.object [("data", .ofInt 1)]) (.ok (.json (.ofInt 1))) := Service.represents_of_run hresolve
  have hreadable : (Value.object [("data", .ofInt 1)]).Readable 127 := by
    refine .object (by simp) ?_
    rintro _ (_ | ⟨_, ⟨⟩⟩)
    exact .number (Number.readsBack_integer (by decide) (by decide))
  exact ⟨asksFor_listRequest, hleft, (hruns [_, call] _ _).mpr ⟨rfl, .resolved hload hresolve hbody⟩,
    hbody.received hreadable⟩

end AggregateGateway
