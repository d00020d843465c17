import AggregateGateway.Files.Access

/-!
A tree of files and directories without links. A path is followed name by name from the root, or from the working
directory if it does not begin with `/`: each step must start at a directory, an empty name or `.` stays there, and `..`
goes to the directory above, which for the root is the root itself. Some files and directories may be kept shut by the
operating system.
-/

namespace AggregateGateway

/-- A file with its bytes, a directory with its entries, or one of those that the operating system keeps shut, with the
number and the words that it gives for it. -/
inductive FileNode
  | file (content : ByteArray)
  | directory (entries : List (String × FileNode))
  /-- A file that cannot be read. -/
  | unreadable (code : Nat) (reason : String)
  /-- A directory that can be neither read nor entered. -/
  | closed (code : Nat) (reason : String)
deriving Inhabited

namespace FileNode

/-- The directory of no entries. -/
def empty : FileNode := .directory []

/-- The entries of a directory. -/
def entries? : FileNode → Option (List (String × FileNode))
  | directory entries => some entries
  | _ => none

/-- Puts a node where names lead from a place, and makes the directories on the way. -/
def insert (place : FileNode) : List String → FileNode → FileNode
  | [], node => node
  | name :: names, node =>
    let entries := place.entries?.getD []
    let next := insert ((entries.lookup name).getD empty) names node
    .directory (entries.filter (fun (key, _) => key ≠ name) ++ [(name, next)])

/-- How many bytes a name may have. -/
def maxName : Nat := 255

/-- Follows names from a place, given the directories above it, the nearest first. -/
def follow (place : FileNode) (above : List FileNode) : List String → Except FileError FileNode
  | [] => .ok place
  | name :: names =>
    match place with
    | .file _ | .unreadable .. => .error .notDirectory
    | .closed code reason => if name = "" then follow place above names else .error (.ofCode code reason)
    | .directory entries =>
      if name = "" || name = "." then follow place above names
      else if name = ".." then
        match above with
        | [] => follow place [] names
        | up :: above => follow up above names
      else if name.utf8ByteSize > maxName then .error .nameTooLong
      else
        match entries.lookup name with
        | none => .error .notFound
        | some next => follow next (place :: above) names

/-- The text of a file. -/
def text : FileNode → Except FileError String
  | directory _ => .error .isDirectory
  | unreadable code reason | closed code reason => .error (.ofCode code reason)
  | file content =>
    match String.fromUTF8? content with
    | some text => .ok text
    | none => .error .invalidUtf8

end FileNode

/-- A tree with a working directory, whose path begins with `/` and leads through no closed directory. -/
structure FileTree where
  root : FileNode := .empty
  workingDirectory : String := "/"
deriving Inhabited

namespace FileTree

/-- How many bytes a path may have. -/
def maxPath : Nat := 4095

/-- Where a path leads. -/
def find (tree : FileTree) (path : String) : Except FileError FileNode :=
  if path.contains '\x00' then .error .nulInPath
  else if path.isEmpty then .error .notFound
  else if path.utf8ByteSize > maxPath then .error .nameTooLong
  else tree.root.follow [] ((joinPath tree.workingDirectory path).splitOn "/")

/-- The text of a file. -/
def read (tree : FileTree) (path : String) : Except FileError String := (tree.find path).bind FileNode.text

def isPresent (tree : FileTree) (path : String) : Bool := (tree.find path).isOk

/-- Puts a node at a path below the working directory, and makes the directories on the way. -/
def insert (tree : FileTree) (path : String) (node : FileNode) : FileTree :=
  let names := ((joinPath tree.workingDirectory path).splitOn "/").filter (· ≠ "")
  { tree with root := tree.root.insert names node }

/-- Access to the files of a tree. -/
def access (tree : FileTree) : FileAccess Id := ⟨tree.read, tree.isPresent⟩

end FileTree

end AggregateGateway
