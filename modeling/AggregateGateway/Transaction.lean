import AggregateGateway.Context
import AggregateGateway.Uuid

/-!
Transactions collect the actions that a client wants to apply before a single commit. A transaction is a value: staging
makes a new one and leaves the old one as it is, and callers hand the latest value on. A commit reports success for the
identity of a transaction.
-/

namespace AggregateGateway

open Json

def Uuid.decode (value : Value) : Decoded Uuid :=
  match value with
  | .string text => match Uuid.ofText? text with
    | some id => .ok id
    | none => .error .invalidUuid
  | other => .error (.invalidType other "a formatted UUID string")

def Uuid.encode (id : Uuid) : Value := .string id.toText

/-- A staged action and its arguments. -/
structure StagedTask where
  name : String
  args : Value
deriving Repr, Inhabited

namespace StagedTask

def record : Record StagedTask where
  name := "StagedTask"
  blank := ⟨"", .null⟩
  fields := [
    ⟨"name", true, fun task value => do return { task with name := ← value.decodeString }⟩,
    ⟨"args", true, fun task value => .ok { task with args := value }⟩]

def decode : Value → Decoded StagedTask := record.decode

def encode (task : StagedTask) : Value := .object [("name", .string task.name), ("args", task.args)]

end StagedTask

/-- The outcome of a commit. -/
structure CommitResult where
  id : Uuid
  success : Bool
deriving DecidableEq, Repr, Inhabited

namespace CommitResult

def record : Record CommitResult where
  name := "CommitResult"
  blank := ⟨.zero, false⟩
  fields := [
    ⟨"id", true, fun result value => do return { result with id := ← Uuid.decode value }⟩,
    ⟨"success", true, fun result value => do return { result with success := ← value.decodeBool }⟩]

def decode : Value → Decoded CommitResult := record.decode

def encode (result : CommitResult) : Value := .object [("id", result.id.encode), ("success", .bool result.success)]

end CommitResult

/-- Staged actions on a repository, with the context of the request that opened the transaction. -/
structure Transaction where
  id : Uuid
  repository : Value
  ctxt : ContextSnapshot
  tasks : List StagedTask
deriving Inhabited

namespace Transaction

/-- Opens a transaction under a fresh identity. -/
def start (id : Uuid) (repository raw : Value) : Transaction := ⟨id, repository, .filter raw, []⟩

/-- The transaction with one more action at the end. -/
def stage (tx : Transaction) (action : String) (args : Value) : Transaction :=
  { tx with tasks := tx.tasks ++ [⟨action, args⟩] }

/-- The transaction on another repository. -/
def onRepository (tx : Transaction) (repository : Value) : Transaction := { tx with repository := repository }

/-- Reports success for the identity of the transaction. -/
def commit (tx : Transaction) : CommitResult := ⟨tx.id, true⟩

def record : Record Transaction where
  name := "Transaction"
  blank := ⟨.zero, .null, .empty, []⟩
  fields := [
    ⟨"id", true, fun tx value => do return { tx with id := ← Uuid.decode value }⟩,
    ⟨"repository", true, fun tx value => .ok { tx with repository := value }⟩,
    ⟨"ctxt", true, fun tx value => do return { tx with ctxt := ← ContextSnapshot.decode value }⟩,
    ⟨"tasks", true, fun tx value => do return { tx with tasks := ← value.decodeList StagedTask.decode }⟩]

def decode : Value → Decoded Transaction := record.decode

def encode (tx : Transaction) : Value :=
  .object [("id", tx.id.encode), ("repository", tx.repository), ("ctxt", tx.ctxt.encode),
    ("tasks", .array (tx.tasks.map StagedTask.encode))]

end Transaction

end AggregateGateway
