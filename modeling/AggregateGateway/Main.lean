import AggregateGateway.Cli.Run

/-!
The program on the command line, with the files and the environment of the machine.
-/

namespace AggregateGateway

/-- The error that an operation on a file gave. -/
def fileError (error : IO.Error) : FileError :=
  let ofCode (code : UInt32) (reason : String) : FileError :=
    .ofCode (if code.toNat < Nat.pow 2 31 then code.toNat else Nat.pow 2 32 - code.toNat) reason
  match error with
  | .noFileOrDirectory .. => .notFound
  | .inappropriateType _ code reason | .invalidArgument _ code reason | .permissionDenied _ code reason
  | .resourceExhausted _ code reason | .otherError code reason => ofCode code reason
  | other => .system (toString other) 0

/-- Access to the files of the machine. -/
def machineFiles : FileAccess IO where
  read path := do
    try
      match String.fromUTF8? (← IO.FS.readBinFile path) with
      | some text => return .ok text
      | none => return .error .invalidUtf8
    catch error => return .error (fileError error)
  isPresent path := do
    try
      discard (IO.FS.realPath path)
      return true
    catch _ => return false

/-- The environment variables that the program looks at. -/
def variableNames : List String :=
  ["HOME", Cli.logVariable, Environment.routeCacheMaxSize, Environment.routeCacheMaxAge] ++
    ((Cli.Level.program.options.filterMap fun rule => rule.fallback))

end AggregateGateway

open AggregateGateway

/-- Runs the program and exits with its code. -/
def main (arguments : List String) : IO UInt32 := do
  let environment ← variableNames.filterMapM fun name => do
    return (← IO.getEnv name).map fun value => (name, value)
  let outcome ← Cli.run machineFiles environment arguments
  IO.print outcome.output
  if let some error := outcome.error then IO.eprintln ("Error: " ++ error)
  return outcome.code.toUInt32
