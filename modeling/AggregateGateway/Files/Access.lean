/-!
Reading text files by their paths. A path is a text in which `/` divides the names of directories and ends with the name
of a file.
-/

namespace AggregateGateway

/-- Why a file cannot be read. -/
inductive FileError
  /-- No file has the path, or a directory on the way is missing. -/
  | notFound
  /-- Something on the way is no directory. -/
  | notDirectory
  /-- The path leads to a directory. -/
  | isDirectory
  | nameTooLong
  /-- The path holds a NUL character. -/
  | nulInPath
  /-- The content of the file is no UTF-8. -/
  | invalidUtf8
  /-- Another problem, with the words and the number of the operating system. -/
  | system (reason : String) (code : Nat)
deriving DecidableEq, Repr

/-- The wording of an error, with the number that the operating system gives it. -/
def FileError.message : FileError → String
  | notFound => "No such file or directory (os error 2)"
  | notDirectory => "Not a directory (os error 20)"
  | isDirectory => "Is a directory (os error 21)"
  | nameTooLong => "File name too long (os error 36)"
  | nulInPath => "file name contained an unexpected NUL byte"
  | invalidUtf8 => "stream did not contain valid UTF-8"
  | system reason code => s!"{reason} (os error {code})"

/-- The error with a number of the operating system; `reason` is its wording of errors that have no name here. -/
def FileError.ofCode (code : Nat) (reason : String) : FileError :=
  match code with
  | 2 => .notFound
  | 20 => .notDirectory
  | 21 => .isDirectory
  | 36 => .nameTooLong
  | code => .system reason code

/-- Access to files in a monad. -/
structure FileAccess (m : Type → Type) where
  /-- The text of a file. -/
  read : String → m (Except FileError String)
  /-- Whether a path leads to a file or directory. -/
  isPresent : String → m Bool

/-- A name below a directory. A name that begins with `/` stands for itself. -/
def joinPath (directory name : String) : String :=
  if name.startsWith '/' then name
  else if directory.isEmpty || directory.endsWith '/' then directory ++ name
  else directory ++ "/" ++ name

end AggregateGateway
