import AggregateGateway.Proofs.Gateway.Endpoints
import AggregateGateway.Proofs.Resolver.ContextFlow

/-!
Where the context of a request comes from. What endpoints are sent of it is made of the request line, the peer, the
host, the cookies and, behind a trusted proxy, the first entries of three forwarding headers. No other header has a part
in it, and neither has the body or anything that is stored.
-/

namespace AggregateGateway

open Json Http

/-! ### Forwarding headers -/

namespace Http.Headers

variable {headers : Headers} {name : String}

/-- The first entry of the list that a header holds, without the white space around it. -/
def firstItem? (headers : Headers) (name : String) : Option (List Char) :=
  (headers.get? name).bind fun value => (Text.pieces ',' value.toList).head?.map Text.trimChars

/-- What a forwarding header tells: its first entry, unless that is blank or something in the header is not readable. -/
structure Forwards (headers : Headers) (name entry : String) : Prop where
  first : headers.firstItem? name = some entry.toList
  notBlank : entry ≠ ""
  readable : (headers.text? name).isSome

theorem text?_eq_some_iff {text : String} :
    headers.text? name = some text ↔ headers.get? name = some text ∧ text.toList.all isReadable := by
  rw [text?, Option.bind_eq_some_iff]
  constructor
  · rintro ⟨value, hget, hreadable⟩
    unfold readable? at hreadable
    split at hreadable
    · next hall =>
      cases hreadable
      exact ⟨hget, hall⟩
    · cases hreadable
  · rintro ⟨hget, hall⟩
    exact ⟨text, hget, if_pos hall⟩

theorem firstItem?_of_text? {text : String} (h : headers.text? name = some text) :
    headers.firstItem? name = some (Text.trimChars (text.toList.takeWhile (· ≠ ','))) := by
  obtain ⟨hget, -⟩ := text?_eq_some_iff.mp h
  rw [firstItem?, hget, Option.bind_some, Text.head?_pieces, Option.map_some]

theorem forwarded?_eq_some_iff {entry : String} : headers.forwarded? name = some entry ↔ headers.Forwards name entry := by
  rw [forwarded?]
  cases htext : headers.text? name with
  | none =>
    refine ⟨nofun, fun h => ?_⟩
    have hreadable := h.readable
    rw [htext] at hreadable
    cases hreadable
  | some text =>
    have hfirst := firstItem?_of_text? htext
    rw [Option.map_some, Option.bind_some]
    constructor
    · intro h
      split at h
      · cases h
      · next hblank =>
        cases h
        refine ⟨by rw [hfirst, String.toList_ofList], ?_, by rw [htext]; rfl⟩
        simpa [String.ofList_eq_empty_iff] using hblank
    · intro h
      have hchars := Option.some.inj (hfirst.symm.trans h.first)
      have hblank : ¬entry.toList.isEmpty := by simpa using h.notBlank
      rw [hchars, if_neg hblank, String.ofList_toList]

end Http.Headers

/-! ### The parts of a context -/

/-- Requests that agree in all that a context is made of. -/
structure SameOrigin (trustProxy : Bool) (request other : Request) : Prop where
  method : request.method = other.method
  target : request.target = other.target
  peer : request.peer = other.peer
  host : request.headers.text? "host" = other.headers.text? "host"
  cookies : request.headers.all "cookie" = other.headers.all "cookie"
  forwarded : trustProxy = true → ∀ name ∈ ["x-forwarded-host", "x-forwarded-proto", "x-forwarded-for"], ∀ entry,
    request.headers.Forwards name entry ↔ other.headers.Forwards name entry

namespace SameOrigin

variable {trustProxy : Bool} {request other : Request}

theorem proxied?_eq (h : SameOrigin trustProxy request other) {name : String}
    (hname : name ∈ ["x-forwarded-host", "x-forwarded-proto", "x-forwarded-for"]) :
    request.proxied? trustProxy name = other.proxied? trustProxy name := by
  rw [Request.proxied?, Request.proxied?]
  split
  · next htrust =>
    refine Option.ext fun entry => ?_
    rw [Headers.forwarded?_eq_some_iff, Headers.forwarded?_eq_some_iff]
    exact h.forwarded htrust name hname entry
  · rfl

theorem hostname_eq (h : SameOrigin trustProxy request other) :
    request.hostname trustProxy = other.hostname trustProxy := by
  rw [Request.hostname, Request.hostname, h.proxied?_eq (by simp), h.host]

theorem protocol_eq (h : SameOrigin trustProxy request other) :
    request.protocol trustProxy = other.protocol trustProxy := by
  rw [Request.protocol, Request.protocol, h.proxied?_eq (by simp)]

theorem clientAddress_eq (h : SameOrigin trustProxy request other) :
    request.clientAddress trustProxy = other.clientAddress trustProxy := by
  rw [Request.clientAddress, Request.clientAddress, h.proxied?_eq (by simp), h.peer]

theorem query_eq (h : SameOrigin trustProxy request other) : request.query = other.query := by
  rw [Request.query, Request.query, h.target]

theorem cookies_eq (h : SameOrigin trustProxy request other) : request.headers.cookies = other.headers.cookies := by
  rw [Headers.cookies, Headers.cookies, h.cookies]

theorem address?_eq (h : SameOrigin trustProxy request other) : request.address? = other.address? := by
  rw [Request.address?, Request.address?, h.target]

end SameOrigin

/-- Of all headers, those of cookies and what is told of the client are in a snapshot. -/
theorem ContextSnapshot.entries_filter_context (request : Request) (trustProxy : Bool) (params : Value) :
    (filter (request.context trustProxy params)).entries = [
      ("baseUrl", .string ""),
      ("cookies", request.headers.cookies),
      ("hostname", .string (request.hostname trustProxy)),
      ("ip", .string (request.clientAddress trustProxy)),
      ("method", .string request.method),
      ("originalUrl", .string request.target.url),
      ("params", params),
      ("path", .string request.target.path),
      ("protocol", .string (request.protocol trustProxy)),
      ("query", request.query)] := by
  rfl

theorem SameOrigin.filter_context_eq {trustProxy : Bool} {request other : Request}
    (h : SameOrigin trustProxy request other) (params : Value) :
    ContextSnapshot.filter (request.context trustProxy params) = .filter (other.context trustProxy params) := by
  -- Of the members of a context only the headers are not determined, and they are not listed.
  refine ContextSnapshot.ext ?_
  rw [ContextSnapshot.entries_filter_context, ContextSnapshot.entries_filter_context, h.cookies_eq, h.hostname_eq,
    h.clientAddress_eq, h.method, h.target, h.protocol_eq, h.query_eq]

/-- Two chains with the same first entry tell of different clients where the rest of one is not readable. -/
theorem unreadable_chain_tells_nothing :
    let request (chain : String) : Request :=
      { method := "POST", target := .resource "/v0.1/resolve/acme/sales/order/1" none, body := .empty
        headers := [("x-forwarded-for", chain)], peer := some (.v4 192 168 1 20) }
    let ip (chain : String) := (ContextSnapshot.filter ((request chain).context true .null)).get? "ip"
    (request "1.2.3.4").headers.firstItem? "x-forwarded-for" = some "1.2.3.4".toList ∧
      (request "1.2.3.4, é").headers.firstItem? "x-forwarded-for" = some "1.2.3.4".toList ∧
      ip "1.2.3.4" = some (.string "1.2.3.4") ∧ ip "1.2.3.4, é" = some (.string "192.168.1.20") := by
  intro request ip
  have hread : (request "1.2.3.4").clientAddress true = "1.2.3.4" := by decide +kernel
  have hunread : (request "1.2.3.4, é").clientAddress true = "192.168.1.20" := by decide +kernel
  refine ⟨by decide +kernel, by decide +kernel, ?_, ?_⟩
  · exact congrArg (some ∘ Value.string) hread
  · exact congrArg (some ∘ Value.string) hunread

/-! ### Main statement -/

/-- Where the context comes from that the service tells of for a request. -/
structure ContextOrigin (service : Service) (request : Request) : Prop where
  /-- Endpoints are sent the filtered context, with the address in the path as its parameters. -/
  sent : ∀ cache events answered, Exchange.Run (service.handle cache request) events answered →
    ∀ uri sent reply, .callResolver uri sent reply ∈ events → ∃ address, request.address? = some address ∧
      sent.ctxt = .filter (request.context service.options.trustProxy address.encode)
  /-- So it is with a transaction that is opened. -/
  opened : ∀ cache events response after, Exchange.Run (service.handle cache request) events (response, after) →
    ∀ id, .drawId id ∈ events → ∃ address repository, request.address? = some address ∧
      response = resolutionResponse (.ok (.transaction
        ⟨id, repository, .filter (request.context service.options.trustProxy address.encode), []⟩))
  keys : ∀ params, (ContextSnapshot.filter (request.context service.options.trustProxy params)).keys =
    ["baseUrl", "cookies", "hostname", "ip", "method", "originalUrl", "params", "path", "protocol", "query"]
  params : ∀ address : AggregateAddress,
    (ContextSnapshot.filter (request.context service.options.trustProxy address.encode)).get? "params" =
      some (.object [("domain", .string address.domain), ("bctxt", .string address.context),
        ("aggregate", .string address.aggregate), ("version", .string address.version)])
  /-- Requests of one origin are told of alike, whatever their other headers and their bodies are. -/
  alike : ∀ other, SameOrigin service.options.trustProxy request other → request.address? = other.address? ∧
    ∀ params, ContextSnapshot.filter (request.context service.options.trustProxy params) =
      .filter (other.context service.options.trustProxy params)

/-- The context of a request cannot be forged through headers that do not belong to its origin. -/
theorem context_has_one_origin (service : Service) (request : Request) : ContextOrigin service request where
  sent := by
    rintro cache events ⟨response, after⟩ hrun uri sent reply hcall
    obtain ⟨address, wanted, hasks, hctxt, -⟩ := (Service.Responds.of_run hrun).of_call hcall
    exact ⟨address, hasks.address?_eq, hctxt⟩
  opened := by
    intro cache events response after hrun id hdrawn
    obtain ⟨address, wanted, repository, hasks, hresponse⟩ := (Service.Responds.of_run hrun).of_drawn hdrawn
    exact ⟨address, repository, hasks.address?_eq, hresponse⟩
  keys := by
    intro params
    rw [ContextSnapshot.keys, ContextSnapshot.entries_filter_context]
    rfl
  params := by
    intro address
    rw [ContextSnapshot.get?, ContextSnapshot.entries_filter_context]
    rfl
  alike := fun other hsame => ⟨hsame.address?_eq, hsame.filter_context_eq⟩

/-- Neither credentials nor a host that no proxy vouches for make a difference. -/
theorem strange_headers_are_ignored :
    let laden : Request := { listRequest with
      headers := listRequest.headers ++ [("authorization", "Bearer x"), ("x-forwarded-host", "evil.example")] }
    SameOrigin false listRequest laden ∧
      ∀ params, ContextSnapshot.filter (listRequest.context false params) = .filter (laden.context false params) := by
  intro laden
  have hsame : SameOrigin false listRequest laden := ⟨rfl, rfl, rfl, rfl, rfl, nofun⟩
  obtain ⟨-, hcontext⟩ := (context_has_one_origin ⟨{}, 0⟩ listRequest).alike laden hsame
  exact ⟨hsame, hcontext⟩

end AggregateGateway
