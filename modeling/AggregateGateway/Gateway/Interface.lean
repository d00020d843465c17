import AggregateGateway.Resolver.Resolve
import AggregateGateway.Schema.Compile

/-!
The interface of an aggregate: its compiled schema and the resolvers of its fields. Loading one reads the domain model
once; a domain that is not stored has no aggregates.
-/

namespace AggregateGateway

open Json

/-- The version of the HTTP surface. -/
def surfaceVersion : String := "v0.1"

/-- Why an interface cannot be loaded. -/
inductive InterfaceError
  | store (error : StoreError)
  | compile (error : CompileError)
deriving Repr

def InterfaceError.message : InterfaceError → String
  | store error => error.message
  | compile error => error.message

/-- A compiled schema with its resolvers. -/
structure Interface where
  schema : Schema
  resolvers : ResolverGraph
deriving Inhabited

namespace Interface

/-- The interface of a compiled schema. -/
def ofSchema (schema : Schema) : Interface := ⟨schema, .ofSurface schema.surface schema.repository⟩

/-- The interface that a stored model offers under a selector. -/
def ofRead (selector : AggregateSelector) (answer : ReadResult) : Except InterfaceError Interface :=
  match answer with
  | .error error => .error (.store error)
  | .ok document =>
    match (document.map fun value => DomainModel.ofDocument value selector).getD (.ok {}) with
    | .error error => .error (.store (.ofDecodeError error))
    | .ok model =>
      match model.compile selector with
      | .error error => .error (.compile error)
      | .ok schema => .ok (ofSchema schema)

/-- Reads a domain model and compiles the aggregate that a selector addresses. -/
def load (domain : String) (selector : AggregateSelector) : Exchange (Except InterfaceError Interface) :=
  (Exchange.read (.domain domain)).map (ofRead selector)

/-- Resolves a field of the interface. -/
def resolve (api : Interface) (type field : String) (receiver : ResolvedValue) (args raw : Value) :
    Exchange Resolution :=
  api.resolvers.resolve type field receiver args raw

end Interface

end AggregateGateway
