import AggregateGateway.Gateway.Exchange

/-!
Runs of an exchange. A run lists the questions that were asked, each with its answer, and ends in a value; there is one
for every choice of answers. The runs in which a given outside answers are those that end in what it is run to.
-/

namespace AggregateGateway

/-- A question with its answer. -/
inductive Event
  | readDocument (key : DocumentKey) (answer : ReadResult)
  | callResolver (uri : String) (request : ResolverRequest) (answer : Except TransportError ResolverResponse)
  | send (request : Http.OutgoingRequest) (answer : Except String Http.Response)
  | drawId (id : Uuid)
  | readClock (time : Nat)

/-- The outside gives this answer to this question. -/
def Event.AnsweredBy (outside : Outside Id) : Event → Prop
  | readDocument key answer => outside.readDocument key = answer
  | callResolver uri request answer => outside.callResolver uri request = answer
  | send request answer => outside.send request = answer
  | drawId id => outside.drawId = id
  | readClock time => outside.readClock = time

namespace Exchange

variable {α β : Type}

/-- `Run exchange events value`: with the answers in `events`, the exchange asks the questions in `events` and gives
`value`. -/
inductive Run : Exchange α → List Event → α → Prop
  | done {value : α} : Run (.done value) [] value
  | readDocument {key : DocumentKey} {next : ReadResult → Exchange α} {answer : ReadResult} {events : List Event}
      {value : α} : Run (next answer) events value →
      Run (.readDocument key next) (.readDocument key answer :: events) value
  | callResolver {uri : String} {request : ResolverRequest}
      {next : Except TransportError ResolverResponse → Exchange α} {answer : Except TransportError ResolverResponse}
      {events : List Event} {value : α} :
      Run (next answer) events value →
      Run (.callResolver uri request next) (.callResolver uri request answer :: events) value
  | send {request : Http.OutgoingRequest} {next : Except String Http.Response → Exchange α}
      {answer : Except String Http.Response} {events : List Event} {value : α} :
      Run (next answer) events value → Run (.send request next) (.send request answer :: events) value
  | drawId {next : Uuid → Exchange α} {id : Uuid} {events : List Event} {value : α} :
      Run (next id) events value → Run (.drawId next) (.drawId id :: events) value
  | readClock {next : Nat → Exchange α} {time : Nat} {events : List Event} {value : α} :
      Run (next time) events value → Run (.readClock next) (.readClock time :: events) value

/-! ### Inversion -/

theorem run_done_iff {value result : α} {events : List Event} :
    Run (.done value) events result ↔ events = [] ∧ result = value := by
  constructor
  · rintro ⟨⟩
    exact ⟨rfl, rfl⟩
  · rintro ⟨rfl, rfl⟩
    exact .done

theorem run_readDocument_iff {key : DocumentKey} {next : ReadResult → Exchange α} {events : List Event} {result : α} :
    Run (.readDocument key next) events result ↔
      ∃ answer rest, events = .readDocument key answer :: rest ∧ Run (next answer) rest result := by
  constructor
  · rintro ⟨⟩
    exact ⟨_, _, rfl, ‹_›⟩
  · rintro ⟨answer, rest, rfl, h⟩
    exact .readDocument h

theorem run_callResolver_iff {uri : String} {request : ResolverRequest}
    {next : Except TransportError ResolverResponse → Exchange α} {events : List Event} {result : α} :
    Run (.callResolver uri request next) events result ↔
      ∃ answer rest, events = .callResolver uri request answer :: rest ∧ Run (next answer) rest result := by
  constructor
  · rintro ⟨⟩
    exact ⟨_, _, rfl, ‹_›⟩
  · rintro ⟨answer, rest, rfl, h⟩
    exact .callResolver h

theorem run_send_iff {request : Http.OutgoingRequest} {next : Except String Http.Response → Exchange α}
    {events : List Event} {result : α} :
    Run (.send request next) events result ↔
      ∃ answer rest, events = .send request answer :: rest ∧ Run (next answer) rest result := by
  constructor
  · rintro ⟨⟩
    exact ⟨_, _, rfl, ‹_›⟩
  · rintro ⟨answer, rest, rfl, h⟩
    exact .send h

theorem run_drawId_iff {next : Uuid → Exchange α} {events : List Event} {result : α} :
    Run (.drawId next) events result ↔ ∃ id rest, events = .drawId id :: rest ∧ Run (next id) rest result := by
  constructor
  · rintro ⟨⟩
    exact ⟨_, _, rfl, ‹_›⟩
  · rintro ⟨id, rest, rfl, h⟩
    exact .drawId h

theorem run_readClock_iff {next : Nat → Exchange α} {events : List Event} {result : α} :
    Run (.readClock next) events result ↔
      ∃ time rest, events = .readClock time :: rest ∧ Run (next time) rest result := by
  constructor
  · rintro ⟨⟩
    exact ⟨_, _, rfl, ‹_›⟩
  · rintro ⟨time, rest, rfl, h⟩
    exact .readClock h

/-! ### Single questions -/

theorem run_read_iff {key : DocumentKey} {events : List Event} {answer : ReadResult} :
    Run (read key) events answer ↔ events = [.readDocument key answer] := by
  constructor
  · intro h
    obtain ⟨_, _, rfl, hdone⟩ := run_readDocument_iff.mp h
    obtain ⟨rfl, rfl⟩ := run_done_iff.mp hdone
    rfl
  · rintro rfl
    exact .readDocument .done

theorem run_call_iff {uri : String} {request : ResolverRequest} {events : List Event}
    {answer : Except TransportError ResolverResponse} :
    Run (call uri request) events answer ↔ events = [.callResolver uri request answer] := by
  constructor
  · intro h
    obtain ⟨_, _, rfl, hdone⟩ := run_callResolver_iff.mp h
    obtain ⟨rfl, rfl⟩ := run_done_iff.mp hdone
    rfl
  · rintro rfl
    exact .callResolver .done

theorem run_transmit_iff {request : Http.OutgoingRequest} {events : List Event}
    {answer : Except String Http.Response} :
    Run (transmit request) events answer ↔ events = [.send request answer] := by
  constructor
  · intro h
    obtain ⟨_, _, rfl, hdone⟩ := run_send_iff.mp h
    obtain ⟨rfl, rfl⟩ := run_done_iff.mp hdone
    rfl
  · rintro rfl
    exact .send .done

theorem run_freshId_iff {events : List Event} {id : Uuid} : Run freshId events id ↔ events = [.drawId id] := by
  constructor
  · intro h
    obtain ⟨_, _, rfl, hdone⟩ := run_drawId_iff.mp h
    obtain ⟨rfl, rfl⟩ := run_done_iff.mp hdone
    rfl
  · rintro rfl
    exact .drawId .done

theorem run_now_iff {events : List Event} {time : Nat} : Run now events time ↔ events = [.readClock time] := by
  constructor
  · intro h
    obtain ⟨_, _, rfl, hdone⟩ := run_readClock_iff.mp h
    obtain ⟨rfl, rfl⟩ := run_done_iff.mp hdone
    rfl
  · rintro rfl
    exact .readClock .done

/-! ### Parts of a run -/

theorem run_bind_iff {exchange : Exchange α} {f : α → Exchange β} {events : List Event} {result : β} :
    Run (exchange.bind f) events result ↔
      ∃ first rest value, events = first ++ rest ∧ Run exchange first value ∧ Run (f value) rest result := by
  constructor
  · intro h
    induction exchange generalizing events with
    | done value => exact ⟨[], events, value, rfl, .done, h⟩
    | readDocument key next ih =>
      obtain ⟨answer, _, rfl, hnext⟩ := run_readDocument_iff.mp h
      obtain ⟨first, rest, value, rfl, hfirst, hrest⟩ := ih answer hnext
      exact ⟨_, rest, value, rfl, .readDocument hfirst, hrest⟩
    | callResolver uri request next ih =>
      obtain ⟨answer, _, rfl, hnext⟩ := run_callResolver_iff.mp h
      obtain ⟨first, rest, value, rfl, hfirst, hrest⟩ := ih answer hnext
      exact ⟨_, rest, value, rfl, .callResolver hfirst, hrest⟩
    | send request next ih =>
      obtain ⟨answer, _, rfl, hnext⟩ := run_send_iff.mp h
      obtain ⟨first, rest, value, rfl, hfirst, hrest⟩ := ih answer hnext
      exact ⟨_, rest, value, rfl, .send hfirst, hrest⟩
    | drawId next ih =>
      obtain ⟨id, _, rfl, hnext⟩ := run_drawId_iff.mp h
      obtain ⟨first, rest, value, rfl, hfirst, hrest⟩ := ih id hnext
      exact ⟨_, rest, value, rfl, .drawId hfirst, hrest⟩
    | readClock next ih =>
      obtain ⟨time, _, rfl, hnext⟩ := run_readClock_iff.mp h
      obtain ⟨first, rest, value, rfl, hfirst, hrest⟩ := ih time hnext
      exact ⟨_, rest, value, rfl, .readClock hfirst, hrest⟩
  · rintro ⟨first, rest, value, rfl, hfirst, hrest⟩
    induction hfirst with
    | done => exact hrest
    | readDocument _ ih => exact .readDocument (ih hrest)
    | callResolver _ ih => exact .callResolver (ih hrest)
    | send _ ih => exact .send (ih hrest)
    | drawId _ ih => exact .drawId (ih hrest)
    | readClock _ ih => exact .readClock (ih hrest)

theorem run_map_iff {exchange : Exchange α} {f : α → β} {events : List Event} {result : β} :
    Run (exchange.map f) events result ↔ ∃ value, Run exchange events value ∧ result = f value := by
  rw [map, run_bind_iff]
  constructor
  · rintro ⟨first, rest, value, rfl, hfirst, hdone⟩
    obtain ⟨rfl, rfl⟩ := run_done_iff.mp hdone
    exact ⟨value, by simpa using hfirst, rfl⟩
  · rintro ⟨value, h, rfl⟩
    exact ⟨events, [], value, by simp, h, .done⟩

theorem run_read_bind_iff {key : DocumentKey} {f : ReadResult → Exchange α} {events : List Event} {result : α} :
    Run ((read key).bind f) events result ↔
      ∃ answer rest, events = .readDocument key answer :: rest ∧ Run (f answer) rest result :=
  run_readDocument_iff

theorem run_now_bind_iff {f : Nat → Exchange α} {events : List Event} {result : α} :
    Run (now.bind f) events result ↔ ∃ time rest, events = .readClock time :: rest ∧ Run (f time) rest result :=
  run_readClock_iff

/-- Answers that begin alike lead through the same questions to the same value. -/
theorem Run.unique {exchange : Exchange α} {events events' rest rest' : List Event} {value value' : α}
    (h : Run exchange events value) (h' : Run exchange events' value') (heq : events ++ rest = events' ++ rest') :
    events = events' ∧ value = value' := by
  induction h generalizing events' with
  | done =>
    obtain ⟨rfl, rfl⟩ := run_done_iff.mp h'
    exact ⟨rfl, rfl⟩
  | readDocument _ ih | callResolver _ ih | send _ ih | drawId _ ih | readClock _ ih =>
    cases h'
    obtain ⟨hevent, hrest⟩ := List.cons.inj heq
    cases hevent
    obtain ⟨rfl, rfl⟩ := ih ‹_› hrest
    exact ⟨rfl, rfl⟩

/-- Once a part has been run, its value leads on. -/
theorem Run.bind_iff {exchange : Exchange α} {f : α → Exchange β} {first rest : List Event} {value : α} {result : β}
    (h : Run exchange first value) : Run (exchange.bind f) (first ++ rest) result ↔ Run (f value) rest result := by
  rw [run_bind_iff]
  constructor
  · rintro ⟨first', rest', value', heq, hfirst, hrest⟩
    obtain ⟨rfl, rfl⟩ := h.unique hfirst heq
    rwa [List.append_cancel_left heq]
  · intro hrest
    exact ⟨first, rest, value, rfl, h, hrest⟩

/-! ### A given outside -/

/-- Whatever the outside, it answers a run. -/
theorem exists_run (outside : Outside Id) (exchange : Exchange α) :
    ∃ events, Run exchange events (exchange.run outside) ∧ ∀ event ∈ events, event.AnsweredBy outside := by
  induction exchange with
  | done value => exact ⟨[], .done, by simp⟩
  | readDocument key next ih =>
    obtain ⟨events, h, ha⟩ := ih (outside.readDocument key)
    exact ⟨_, .readDocument h, List.forall_mem_cons.mpr ⟨rfl, ha⟩⟩
  | callResolver uri request next ih =>
    obtain ⟨events, h, ha⟩ := ih (outside.callResolver uri request)
    exact ⟨_, .callResolver h, List.forall_mem_cons.mpr ⟨rfl, ha⟩⟩
  | send request next ih =>
    obtain ⟨events, h, ha⟩ := ih (outside.send request)
    exact ⟨_, .send h, List.forall_mem_cons.mpr ⟨rfl, ha⟩⟩
  | drawId next ih =>
    obtain ⟨events, h, ha⟩ := ih outside.drawId
    exact ⟨_, .drawId h, List.forall_mem_cons.mpr ⟨rfl, ha⟩⟩
  | readClock next ih =>
    obtain ⟨events, h, ha⟩ := ih outside.readClock
    exact ⟨_, .readClock h, List.forall_mem_cons.mpr ⟨rfl, ha⟩⟩

/-- A run that the outside answers ends where the outside runs the exchange to. -/
theorem Run.eq_run {exchange : Exchange α} {events : List Event} {value : α} (h : Run exchange events value)
    {outside : Outside Id} (ha : ∀ event ∈ events, event.AnsweredBy outside) : exchange.run outside = value := by
  induction h with
  | done => rfl
  | readDocument _ ih | callResolver _ ih | send _ ih | drawId _ ih | readClock _ ih =>
    obtain ⟨rfl, hrest⟩ := List.forall_mem_cons.mp ha
    exact ih hrest

theorem run_eq_iff (outside : Outside Id) (exchange : Exchange α) (value : α) :
    exchange.run outside = value ↔
      ∃ events, Run exchange events value ∧ ∀ event ∈ events, event.AnsweredBy outside := by
  constructor
  · rintro rfl
    exact exists_run outside exchange
  · rintro ⟨events, h, ha⟩
    exact h.eq_run ha

end Exchange

end AggregateGateway
