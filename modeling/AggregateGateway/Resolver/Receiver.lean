import AggregateGateway.Transaction

/-!
Values that fields resolve to, and that other fields are resolved on. A transaction or the result of a commit is handed
on as it is or in its JSON form; both forms are read alike.
-/

namespace AggregateGateway

open Json

/-- A resolved value. -/
inductive ResolvedValue
  | json (value : Value)
  | transaction (tx : Transaction)
  | result (commit : CommitResult)
deriving Inhabited

namespace ResolvedValue

/-- The receiver of the fields of `Query`. -/
def root : ResolvedValue := .json (.object [])

/-- The JSON form of a value. -/
def toJson : ResolvedValue → Value
  | json value => value
  | transaction tx => tx.encode
  | result commit => commit.encode

/-- A decoded value, or nothing. -/
def decoded? {α : Type} : Decoded α → Option α
  | .ok value => some value
  | .error _ => none

/-- The receiver as a transaction on a repository, whichever one it names itself. -/
def transactionOn? (repository : Value) : ResolvedValue → Option Transaction
  | json value => (decoded? (Transaction.decode value)).map (·.onRepository repository)
  | transaction tx => some (tx.onRepository repository)
  | result _ => none

/-- The receiver as the result of a commit. -/
def commitResult? : ResolvedValue → Option CommitResult
  | json value => decoded? (CommitResult.decode value)
  | transaction _ => none
  | result commit => some commit

end ResolvedValue

end AggregateGateway
