import AggregateGateway.Json.Decode

/-!
Documents and their keys. A store is read by the type and the id of a document: domain models have the type `domain`,
route tables the type `domains` and the host as their id.
-/

namespace AggregateGateway

open Json

/-- The key of a document. -/
structure DocumentKey where
  type : String
  id : String
deriving DecidableEq, Repr, Inhabited

namespace DocumentKey

/-- The domain model of a domain. -/
def domain (id : String) : DocumentKey := ⟨"domain", id⟩

/-- The route table of a host. -/
def routes (host : String) : DocumentKey := ⟨"domains", host⟩

def display (key : DocumentKey) : String := key.type ++ "/" ++ key.id

end DocumentKey

/-- Why a document cannot be read. -/
inductive StoreError
  | io (reason : String)
  /-- The document is malformed. -/
  | serialization (reason : String)
  | unavailable (reason : String)
deriving DecidableEq, Repr

namespace StoreError

def message : StoreError → String
  | io reason => "Storage I/O error: " ++ reason
  | serialization reason => "Serialization error: " ++ reason
  | unavailable reason => "Store unavailable: " ++ reason

/-- A document that does not decode is malformed. -/
def ofDecodeError (error : DecodeError) : StoreError := .serialization error.message

end StoreError

/-- What a read gives: a document, or none under the key, or an error. -/
abbrev ReadResult := Except StoreError (Option Value)

end AggregateGateway
