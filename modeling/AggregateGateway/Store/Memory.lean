import AggregateGateway.Store.Document

/-!
Documents held in memory. A key stands for at most one document.
-/

namespace AggregateGateway

open Json

/-- Documents by their keys. -/
structure MemoryStore where
  documents : List (DocumentKey × Value) := []
deriving Repr, Inhabited

namespace MemoryStore

def get? (store : MemoryStore) (key : DocumentKey) : Option Value := store.documents.lookup key

/-- The documents under other keys. -/
def without (store : MemoryStore) (key : DocumentKey) : List (DocumentKey × Value) :=
  store.documents.filter fun (other, _) => other ≠ key

/-- Stores a document in place of any earlier one under its key. -/
def insert (store : MemoryStore) (key : DocumentKey) (document : Value) : MemoryStore :=
  ⟨(key, document) :: store.without key⟩

def erase (store : MemoryStore) (key : DocumentKey) : MemoryStore := ⟨store.without key⟩

def size (store : MemoryStore) : Nat := store.documents.length

def isEmpty (store : MemoryStore) : Bool := store.documents.isEmpty

/-- Reading never fails. -/
def read (store : MemoryStore) (key : DocumentKey) : ReadResult := .ok (store.get? key)

end MemoryStore

end AggregateGateway
