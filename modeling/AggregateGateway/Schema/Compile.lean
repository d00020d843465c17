import AggregateGateway.Schema.Text

/-!
Compiling one version of an aggregate: its surface, the text of the schema and the repository behind it.
There is no schema unless both the aggregate and its repository are found.
-/

namespace AggregateGateway

open Json

inductive CompileError
  | aggregateNotFound (selector : AggregateSelector)
  /-- The name is empty if the aggregate declares none. -/
  | repositoryNotFound (name : String)
deriving DecidableEq, Repr

def CompileError.message : CompileError → String
  | .aggregateNotFound selector => "Aggregate was not found: " ++ selector.display
  | .repositoryNotFound name => "Repository was not found: " ++ name

/-- The compiled surface of an aggregate. -/
structure Schema where
  text : String
  surface : Surface
  repository : Value
deriving Repr, Inhabited

/-- The surface of an aggregate on a given repository. -/
def Schema.ofAggregate (aggregate : AggregateDefinition) (repository : Value) : Schema :=
  let surface := Surface.ofAggregate aggregate
  ⟨surface.text, surface, repository⟩

/-- Compiles the aggregate that a selector addresses. -/
def DomainModel.compile (model : DomainModel) (selector : AggregateSelector) : Except CompileError Schema :=
  match model.aggregate? selector with
  | none => .error (.aggregateNotFound selector)
  | some aggregate =>
    let name := aggregate.repository.getD ""
    match model.repository? name with
    | none => .error (.repositoryNotFound name)
    | some repository => .ok (.ofAggregate aggregate repository)

end AggregateGateway
