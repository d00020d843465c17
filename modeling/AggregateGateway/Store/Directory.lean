import AggregateGateway.Files.Access
import AggregateGateway.Json.Reader
import AggregateGateway.Store.Document
import AggregateGateway.Yaml.Json

/-!
Documents kept as files of a directory. The document of a key is the file named after its id, in the directory named
after its type, and is written in YAML or JSON; of several such files the first that is found is read, and whatever is
wrong with it is not covered up by the next. A key whose parts are no plain names has no document, and no file is
looked at.
-/

namespace AggregateGateway

open Json

/-- The language of a document file. -/
inductive DocumentFormat
  | yaml
  | json
deriving DecidableEq, Repr

namespace DocumentFormat

/-- The endings of file names, in the order in which files are looked for. -/
def endings : List (String × DocumentFormat) := [("yaml", .yaml), ("yml", .yaml), ("json", .json)]

/-- The document that a text holds. -/
def parse? : DocumentFormat → String → Option Value
  | yaml => Yaml.toJson?
  | json => Value.parse?

/-- The document that a text holds, or an error if it is malformed. -/
def parse (format : DocumentFormat) (text : String) : Except StoreError Value :=
  match format.parse? text with
  | some document => .ok document
  | none => .error (.serialization "malformed document")

end DocumentFormat

/-- A part of a key that names one entry of a directory. -/
def isPlainName (name : String) : Bool :=
  name ≠ "" && name ≠ "." && name ≠ ".." && !name.toList.any fun c => c = '/' || c = '\\' || c = '\x00'

/-- A key whose parts are plain names. -/
def DocumentKey.isPlain (key : DocumentKey) : Bool := isPlainName key.type && isPlainName key.id

/-- A store in a directory. -/
structure DirectoryStore where
  root : String
deriving Repr, Inhabited

namespace DirectoryStore

variable {m : Type → Type} [Monad m]

/-- The files that may hold the document of a key, in the order in which they are looked for. -/
def candidates (store : DirectoryStore) (key : DocumentKey) : List (String × DocumentFormat) :=
  DocumentFormat.endings.map fun (ending, format) =>
    (joinPath (joinPath store.root key.type) (key.id ++ "." ++ ending), format)

/-- The document in the first of the files that is found. -/
def readFirst (files : FileAccess m) : List (String × DocumentFormat) → m ReadResult
  | [] => return .ok none
  | (path, format) :: rest => do
    match ← files.read path with
    | .ok text => return (format.parse text).map some
    | .error .notFound => readFirst files rest
    | .error error => return .error (.io error.message)

/-- Reads the document of a key. -/
def read (store : DirectoryStore) (files : FileAccess m) (key : DocumentKey) : m ReadResult :=
  if key.isPlain then readFirst files (store.candidates key) else return .ok none

end DirectoryStore

end AggregateGateway
