import AggregateGateway.Http.Message
import AggregateGateway.Resolver.Envelope
import AggregateGateway.Store.Document
import AggregateGateway.Uuid

/-!
Computations that talk to the outside. An exchange either is done or asks one question, and goes on with the answer: it
reads a document, calls a resolver endpoint, sends a request to another server, draws a fresh identity or looks at the
clock. Two exchanges that are equal ask the same questions and give the same value, whatever the outside answers.
-/

namespace AggregateGateway

/-- A computation that asks the outside. -/
inductive Exchange (α : Type) : Type
  | done (value : α)
  | readDocument (key : DocumentKey) (next : ReadResult → Exchange α)
  | callResolver (uri : String) (request : ResolverRequest)
      (next : Except TransportError ResolverResponse → Exchange α)
  /-- The answer is the reason if the request fails. -/
  | send (request : Http.OutgoingRequest) (next : Except String Http.Response → Exchange α)
  | drawId (next : Uuid → Exchange α)
  /-- The answer is in milliseconds. -/
  | readClock (next : Nat → Exchange α)

namespace Exchange

variable {α β : Type}

/-- Goes on with the value of a finished exchange. -/
def bind : Exchange α → (α → Exchange β) → Exchange β
  | done value, f => f value
  | readDocument key next, f => .readDocument key fun answer => (next answer).bind f
  | callResolver uri request next, f => .callResolver uri request fun answer => (next answer).bind f
  | send request next, f => .send request fun answer => (next answer).bind f
  | drawId next, f => .drawId fun answer => (next answer).bind f
  | readClock next, f => .readClock fun answer => (next answer).bind f

instance : Monad Exchange where
  pure := .done
  bind := bind

/-- Applies a function to the value of a finished exchange. -/
def map (f : α → β) (exchange : Exchange α) : Exchange β := exchange.bind fun value => .done (f value)

/-- Reads a document. -/
def read (key : DocumentKey) : Exchange ReadResult := .readDocument key .done

/-- Calls a resolver endpoint. -/
def call (uri : String) (request : ResolverRequest) : Exchange (Except TransportError ResolverResponse) :=
  .callResolver uri request .done

/-- Sends a request to another server. -/
def transmit (request : Http.OutgoingRequest) : Exchange (Except String Http.Response) := .send request .done

/-- Draws a fresh identity. -/
def freshId : Exchange Uuid := .drawId .done

/-- The time. -/
def now : Exchange Nat := .readClock .done

end Exchange

/-- Answers to the questions of exchanges, in a monad. -/
structure Outside (m : Type → Type) where
  readDocument : DocumentKey → m ReadResult
  callResolver : String → ResolverRequest → m (Except TransportError ResolverResponse)
  send : Http.OutgoingRequest → m (Except String Http.Response)
  drawId : m Uuid
  readClock : m Nat

/-- Asks the questions of an exchange one after another. -/
def Exchange.run {m : Type → Type} [Monad m] (outside : Outside m) {α : Type} : Exchange α → m α
  | .done value => pure value
  | .readDocument key next => do (next (← outside.readDocument key)).run outside
  | .callResolver uri request next => do (next (← outside.callResolver uri request)).run outside
  | .send request next => do (next (← outside.send request)).run outside
  | .drawId next => do (next (← outside.drawId)).run outside
  | .readClock next => do (next (← outside.readClock)).run outside

end AggregateGateway
