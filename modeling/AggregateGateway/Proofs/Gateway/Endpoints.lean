import AggregateGateway.Proofs.Gateway.Rerouting

/-!
What the endpoints do with a request, said once. They answer at once, or look at the clock, or load the interface of the
aggregate that the path names and go on with that. All that is asked of the outside is asked in one of these ways.
-/

namespace AggregateGateway

open Json Http

/-- The address in the path of an endpoint, as it is written. -/
def Endpoint.address? : Endpoint → Option AggregateAddress
  | health => none
  | schema address | resolve address => some address

/-- The address of the aggregate that a request is about. -/
def Http.Request.address? (request : Request) : Option AggregateAddress :=
  ((Endpoint.ofPath? request.target.path).bind Endpoint.address?).bind AggregateAddress.decode?

theorem AsksFor.address?_eq {request : Request} {address : AggregateAddress} {wanted : FieldRequest}
    (h : AsksFor request address wanted) : request.address? = some address := by
  obtain ⟨encoded, hpath, hdecode⟩ := h.addressed
  rw [Request.address?, hpath]
  exact hdecode

/-- What goes on with an interface goes on with what the one read came to. -/
theorem Interface.run_bind_load_iff {α : Type} {domain : String} {selector : AggregateSelector}
    {f : Except InterfaceError Interface → Exchange α} {events : List Event} {value : α} :
    Exchange.Run ((load domain selector).bind f) events value ↔
      ∃ answer rest, events = .readDocument (.domain domain) answer :: rest ∧
        Exchange.Run (f (ofRead selector answer)) rest value :=
  Exchange.run_readDocument_iff

/-- What is asked to resolve a field: the endpoint of the field, or for an id. -/
inductive Event.OfField : Event → Prop
  | call {uri : String} {sent : ResolverRequest} {reply : Except TransportError ResolverResponse} :
      OfField (.callResolver uri sent reply)
  | drawn {id : Uuid} : OfField (.drawId id)

namespace Service

/-- Goes on with an interface of which the schema is wanted. -/
def tellSchema (service : Service) : Except InterfaceError Interface → Exchange Response
  | .error error => .done (service.options.interfaceFailure error)
  | .ok api => .done (.text 200 api.schema.text)

/-- Goes on with an interface of which a field is wanted. -/
def tellField (service : Service) (request : Request) (address : AggregateAddress) (wanted : FieldRequest) :
    Except InterfaceError Interface → Exchange Response
  | .error error => .done (service.options.interfaceFailure error)
  | .ok api =>
    (api.resolve wanted.type wanted.field wanted.subject wanted.args
      (request.context service.options.trustProxy address.encode)).map resolutionResponse

/-- The ways in which the endpoints answer a request. -/
inductive Handles (service : Service) (request : Request) : Exchange Response → Prop
  | atOnce (response : Response) : Handles service request (.done response)
  | health : Handles service request service.health
  | schema {address : AggregateAddress} : request.address? = some address →
      Handles service request ((Interface.load address.domain address.selector).bind service.tellSchema)
  | field {address : AggregateAddress} {wanted : FieldRequest} : AsksFor request address wanted →
      Handles service request
        ((Interface.load address.domain address.selector).bind (service.tellField request address wanted))

theorem handles_answer (service : Service) (request : Request) : service.Handles request (service.answer request) := by
  rw [answer]
  split
  · exact .atOnce _
  · next endpoint hpath =>
    split
    case isFalse => exact .atOnce _
    case isTrue hallows =>
      cases endpoint with
      | health => exact .health
      | schema encoded =>
        rw [serve, Service.schema]
        split
        · exact .atOnce _
        · next address hdecode =>
          have haddress : request.address? = some address := by
            rw [Request.address?, hpath]
            exact hdecode
          exact .schema haddress
      | resolve encoded =>
        rw [serve, Service.resolve]
        split
        · exact .atOnce _
        · next address hdecode =>
          split
          · exact .atOnce _
          · next wanted hwanted =>
            have hposted : request.method = "POST" := by simpa [Endpoint.allows, Endpoint.methods] using hallows
            exact .field ⟨hposted, ⟨encoded, hpath, hdecode⟩, hwanted⟩

/-- What the endpoints ask, with the answers, and how they respond. -/
inductive Serves (service : Service) (request : Request) : List Event → Response → Prop
  | atOnce (response : Response) : Serves service request [] response
  | clock (time : Nat) (response : Response) : Serves service request [.readClock time] response
  | notLoaded {address : AggregateAddress} {answer : ReadResult} {error : InterfaceError} :
      request.address? = some address → Interface.ofRead address.selector answer = .error error →
      Serves service request [.readDocument (.domain address.domain) answer] (service.options.interfaceFailure error)
  | schema {address : AggregateAddress} {answer : ReadResult} {api : Interface} : request.address? = some address →
      Interface.ofRead address.selector answer = .ok api →
      Serves service request [.readDocument (.domain address.domain) answer] (.text 200 api.schema.text)
  | field {address : AggregateAddress} {wanted : FieldRequest} {answer : ReadResult} {api : Interface}
      {events : List Event} {outcome : Resolution} : AsksFor request address wanted →
      Interface.ofRead address.selector answer = .ok api →
      Resolves api.resolvers wanted.type wanted.field wanted.subject wanted.args
        (request.context service.options.trustProxy address.encode) events outcome →
      Serves service request (.readDocument (.domain address.domain) answer :: events) (resolutionResponse outcome)

section
variable {service : Service} {cache after : RouteCache} {request : Request} {events : List Event} {response : Response}

theorem Serves.of_run (h : Exchange.Run (service.answer request) events response) :
    service.Serves request events response := by
  have hhandles := service.handles_answer request
  generalize service.answer request = exchange at h hhandles
  cases hhandles with
  | atOnce response =>
    obtain ⟨rfl, rfl⟩ := Exchange.run_done_iff.mp h
    exact .atOnce _
  | health =>
    obtain ⟨time, hnow, rfl⟩ := Exchange.run_map_iff.mp h
    obtain rfl := Exchange.run_now_iff.mp hnow
    exact .clock time _
  | @schema address haddress =>
    obtain ⟨answer, rest, rfl, htell⟩ := Interface.run_bind_load_iff.mp h
    cases hread : Interface.ofRead address.selector answer with
    | error error =>
      rw [hread] at htell
      obtain ⟨rfl, rfl⟩ := Exchange.run_done_iff.mp htell
      exact .notLoaded haddress hread
    | ok api =>
      rw [hread] at htell
      obtain ⟨rfl, rfl⟩ := Exchange.run_done_iff.mp htell
      exact .schema haddress hread
  | @field address wanted hasks =>
    obtain ⟨answer, rest, rfl, htell⟩ := Interface.run_bind_load_iff.mp h
    cases hread : Interface.ofRead address.selector answer with
    | error error =>
      rw [hread] at htell
      obtain ⟨rfl, rfl⟩ := Exchange.run_done_iff.mp htell
      exact .notLoaded hasks.address?_eq hread
    | ok api =>
      rw [hread] at htell
      obtain ⟨outcome, hresolve, rfl⟩ := Exchange.run_map_iff.mp htell
      exact .field hasks hread (.of_run hresolve)

theorem Serves.resolves_of_mem {event : Event} (h : service.Serves request events response) (hmem : event ∈ events)
    (hevent : event.OfField) :
    ∃ address wanted graph resolving outcome, AsksFor request address wanted ∧ event ∈ resolving ∧
      Resolves graph wanted.type wanted.field wanted.subject wanted.args
        (request.context service.options.trustProxy address.encode) resolving outcome ∧
      response = resolutionResponse outcome := by
  cases h with
  | atOnce => cases hmem
  | clock | notLoaded | schema =>
    cases List.mem_singleton.mp hmem
    cases hevent
  | field hasks hok hresolves =>
    obtain heq | hmem := List.mem_cons.mp hmem
    · cases heq
      cases hevent
    · exact ⟨_, _, _, _, _, hasks, hmem, hresolves, rfl⟩

/-- Forwarding asks no one but the target. -/
theorem send_of_run_forward {target : RouteTarget} (h : Exchange.Run (forward target request) events response) :
    ∀ event ∈ events, ∃ sent reply, event = .send sent reply := by
  rw [forward] at h
  split at h
  · obtain ⟨rfl, rfl⟩ := Exchange.run_done_iff.mp h
    simp
  · obtain ⟨outcome, hforward, rfl⟩ := Exchange.run_map_iff.mp h
    rw [RouteTarget.forward] at hforward
    split at hforward
    · obtain ⟨reply, hsent, -⟩ := Exchange.run_map_iff.mp hforward
      rw [Exchange.run_transmit_iff.mp hsent]
      simp
    · obtain ⟨rfl, rfl⟩ := Exchange.run_done_iff.mp hforward
      simp

/-- The ways in which a request comes to its response: its route cannot be looked up, or it is forwarded to a target, or
it is left to the endpoints. -/
inductive Responds (service : Service) (cache : RouteCache) (request : Request) :
    List Event → Response → RouteCache → Prop
  | lookupFailed {host : String} {events : List Event} {error : RouteError} {after : RouteCache} :
      Reroutes cache host request.target.url events (.error error) after →
      Responds service cache request events (finish request (service.options.storeFailure error.message)) after
  | forwarded {host : String} {before events : List Event} {target : RouteTarget} {answer : Response}
      {after : RouteCache} : Reroutes cache host request.target.url before (.ok (some target)) after →
      Exchange.Run (forward target request) events answer →
      Responds service cache request (before ++ events) (finish request answer) after
  | served {before events : List Event} {answer : Response} {after : RouteCache} :
      LeftToEndpoints cache request before after → service.Serves request events answer →
      Responds service cache request (before ++ events) (finish request answer) after

theorem Responds.of_run (h : Exchange.Run (service.handle cache request) events (response, after)) :
    service.Responds cache request events response after := by
  obtain ⟨⟨answer, cache'⟩, hroute, heq⟩ := Exchange.run_map_iff.mp h
  cases heq
  rw [route] at hroute
  split at hroute
  · next hhost =>
    obtain ⟨_, hanswer, heq⟩ := Exchange.run_map_iff.mp hroute
    cases heq
    exact .served (.noHost hhost) (.of_run hanswer)
  · next host hhost =>
    obtain ⟨before, rest, ⟨outcome, cache'⟩, rfl, hlookup, hrest⟩ := Exchange.run_bind_iff.mp hroute
    obtain error | _ | target := outcome
    · obtain ⟨rfl, heq⟩ := Exchange.run_done_iff.mp hrest
      cases heq
      rw [List.append_nil]
      exact .lookupFailed (.of_run hlookup)
    · obtain ⟨_, hanswer, heq⟩ := Exchange.run_map_iff.mp hrest
      cases heq
      exact .served (.noTarget hhost hlookup) (.of_run hanswer)
    · obtain ⟨_, hforward, heq⟩ := Exchange.run_map_iff.mp hrest
      cases heq
      exact .forwarded (.of_run hlookup) hforward

theorem Responds.resolves_of_mem {event : Event} (h : service.Responds cache request events response after)
    (hmem : event ∈ events) (hevent : event.OfField) :
    ∃ address wanted graph resolving outcome, AsksFor request address wanted ∧ event ∈ resolving ∧
      Resolves graph wanted.type wanted.field wanted.subject wanted.args
        (request.context service.options.trustProxy address.encode) resolving outcome ∧
      response = resolutionResponse outcome := by
  -- Neither looking up a route nor forwarding asks for a field, so the question is one of the endpoints.
  have hlookup : ¬∃ host, event.OfLookup host := by
    rintro ⟨host, hlookup⟩
    cases hlookup <;> cases hevent
  cases h with
  | lookupFailed hfailed => exact absurd ⟨_, hfailed.ofLookup _ hmem⟩ hlookup
  | forwarded hfound hforward =>
    obtain hbefore | hafter := List.mem_append.mp hmem
    · exact absurd ⟨_, hfound.ofLookup _ hbefore⟩ hlookup
    · obtain ⟨_, _, rfl⟩ := send_of_run_forward hforward _ hafter
      cases hevent
  | served hleft hserves =>
    obtain hbefore | hafter := List.mem_append.mp hmem
    · cases hleft with
      | noHost => cases hbefore
      | noTarget _ hnone => exact absurd ⟨_, (Reroutes.of_run hnone).ofLookup _ hbefore⟩ hlookup
    · obtain ⟨address, wanted, graph, resolving, outcome, hasks, hevents, hresolves, rfl⟩ :=
        hserves.resolves_of_mem hafter hevent
      exact ⟨address, wanted, graph, resolving, outcome, hasks, hevents, hresolves, finish_eq hasks _⟩

/-- The reply of the endpoint of a field makes the response; the endpoint has been sent the filtered context. -/
theorem Responds.of_call {uri : String} {sent : ResolverRequest} {reply : Except TransportError ResolverResponse}
    (h : service.Responds cache request events response after) (hcall : .callResolver uri sent reply ∈ events) :
    ∃ address wanted, AsksFor request address wanted ∧
      sent.ctxt = .filter (request.context service.options.trustProxy address.encode) ∧
      response = resolutionResponse ((ResolverResponse.resolution wanted.type wanted.field reply).map .json) := by
  obtain ⟨address, wanted, graph, resolving, outcome, hasks, hmem, hresolves, rfl⟩ := h.resolves_of_mem hcall .call
  cases hresolves with
  | answered answer hg hobj hr =>
    cases List.mem_singleton.mp hmem
    exact ⟨address, wanted, hasks, rfl, rfl⟩
  | unknown | noTransaction | noEndpoint | opened | readOff | staged | identified | committed | noResult | reported =>
    simp at hmem

/-- An id is drawn for a transaction, which is opened with the filtered context and makes the response. -/
theorem Responds.of_drawn {id : Uuid} (h : service.Responds cache request events response after)
    (hdrawn : .drawId id ∈ events) :
    ∃ address wanted repository, AsksFor request address wanted ∧ response = resolutionResponse (.ok (.transaction
      ⟨id, repository, .filter (request.context service.options.trustProxy address.encode), []⟩)) := by
  obtain ⟨address, wanted, graph, resolving, outcome, hasks, hmem, hresolves, rfl⟩ := h.resolves_of_mem hdrawn .drawn
  cases hresolves with
  | @opened repository _ hg =>
    cases List.mem_singleton.mp hmem
    exact ⟨address, wanted, repository, hasks, rfl⟩
  | unknown | noTransaction | noEndpoint | answered | readOff | staged | identified | committed | noResult | reported =>
    simp at hmem

end

end Service

end AggregateGateway
