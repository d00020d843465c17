import AggregateGateway.Config.Environment
import AggregateGateway.Model.Aggregate
import AggregateGateway.Text.Split

/-!
The command line. Each level of commands has options and may have commands of its own; an option stands behind the
command that it belongs to, at most once, with its value as the next argument or behind an equals sign. Options that
every level takes may stand at any of them, and the innermost one counts. An option that is not given is taken from
its environment variable.
-/

namespace AggregateGateway.Cli

/-- Why there is nothing to run. -/
inductive Stop
  | help
  | version
  /-- The arguments make no sense. -/
  | usage
deriving DecidableEq, Repr

/-- How an option is written. -/
structure OptionRule where
  name : String
  short : Option Char := none
  takesValue : Bool := true
  /-- The environment variable that stands in for the option. -/
  fallback : Option String := none
  /-- Whether a text can be its value. -/
  accepts : String → Bool := fun _ => true

/-- A port number, possibly with a sign. -/
def port? (text : String) : Option Nat :=
  match text.toList with
  | '-' :: digits => digitsValue? 10 1 digits
  | chars => digitsValue? 10 (Nat.pow 2 16) (withoutPlus chars)

/-- The options that every level takes. -/
def sharedOptions : List OptionRule := [
  { name := "config", short := some 'c', fallback := some Environment.configPath, accepts := fun text => !text.isEmpty },
  { name := "log-level", fallback := some "LATTICE_LOG_LEVEL" }]

/-- A level of the command line: the program itself or one of its commands. -/
inductive Level
  | program
  | serve
  | schema
  | route
  | config
  | configShow
deriving DecidableEq, Repr

namespace Level

/-- The commands that may follow. -/
def commands : Level → List (String × Level)
  | program => [("serve", serve), ("schema", schema), ("route", route), ("config", config)]
  | config => [("show", configShow)]
  | serve | schema | route | configShow => []

/-- The options of a level besides the shared ones. -/
def ownOptions : Level → List OptionRule
  | program => [
    { name := "host", fallback := some "LATTICE_HOST" },
    { name := "port", fallback := some "LATTICE_PORT", accepts := fun text => (port? text).isSome }]
  | schema => [{ name := "domain" }, { name := "context" }, { name := "aggregate" }, { name := "version" }]
  | route => [{ name := "host" }, { name := "url" }]
  | configShow => [{ name := "paths", takesValue := false }]
  | serve | config => []

def options (level : Level) : List OptionRule := sharedOptions ++ level.ownOptions

end Level

/-- The options given at one level, by name. -/
structure Given where
  level : Level
  values : List (String × String) := []

/-- How far the arguments have been read. -/
structure Reading where
  /-- The levels passed, the innermost first. -/
  outer : List Given := []
  current : Given := ⟨.program, []⟩
  /-- The option whose value comes next. -/
  pending : Option OptionRule := none
  /-- Whether a double dash has ended the options. -/
  ended : Bool := false

namespace Reading

/-- Notes an option with its value. -/
def give (reading : Reading) (rule : OptionRule) (value : String) : Except Stop Reading :=
  if (reading.current.values.lookup rule.name).isSome || !rule.accepts value then .error .usage
  else .ok { reading with
    current := { reading.current with values := (rule.name, value) :: reading.current.values }
    pending := none }

/-- Reads an option written with two dashes, such as `port` or `port=80`. -/
def readLong (reading : Reading) (chars : List Char) : Except Stop Reading :=
  let (name, value) := match Text.splitFirst? '=' chars with
    | some (name, value) => (name, some (String.ofList value))
    | none => (chars, none)
  match reading.current.level.options.find? fun rule => rule.name == String.ofList name with
  | some rule =>
    match rule.takesValue, value with
    | true, some value => reading.give rule value
    | true, none => .ok { reading with pending := some rule }
    | false, none => reading.give rule ""
    | false, some _ => .error .usage
  | none =>
    if value.isSome then .error .usage
    else if name = "help".toList then .error .help
    else if name = "version".toList && reading.current.level = .program then .error .version
    else .error .usage

/-- Reads an option written with one dash, such as `c`, `cfile` or `c=file`. -/
def readShort (reading : Reading) : List Char → Except Stop Reading
  | [] => .error .usage
  | c :: rest =>
    match reading.current.level.options.find? fun rule => rule.short == some c with
    | some rule =>
      match rest with
      | [] => .ok { reading with pending := some rule }
      | '=' :: value => reading.give rule (String.ofList value)
      | value => reading.give rule (String.ofList value)
    | none =>
      if c = 'h' then .error .help
      else if c = 'V' && reading.current.level = .program then .error .version
      else .error .usage

/-- Reads an argument that is no option: the value that comes next, or the name of a command. -/
def readWord (reading : Reading) (word : String) : Except Stop Reading :=
  match reading.pending with
  | some rule => reading.give rule word
  | none =>
    let commands := reading.current.level.commands
    match commands.lookup word with
    | some level => .ok { outer := reading.current :: reading.outer, current := ⟨level, []⟩ }
    | none => .error (if word = "help" && !commands.isEmpty then .help else .usage)

/-- Reads one more argument. -/
def next (reading : Reading) (argument : String) : Except Stop Reading :=
  if reading.ended then .error .usage
  else
    match argument.toList with
    | ['-'] => reading.readWord argument
    | '-' :: chars =>
      if reading.pending.isSome then .error .usage
      else
        match chars with
        | ['-'] => .ok { reading with ended := true }
        | '-' :: chars => reading.readLong chars
        | chars => reading.readShort chars
    | _ => reading.readWord argument

end Reading

/-- What is to be run. -/
inductive Command
  | serve
  | schema (domain : String) (selector : AggregateSelector)
  | route (host url : String)
  | showConfig (paths : Bool)
deriving DecidableEq, Repr

/-- A command with the settings that its arguments override. -/
structure Invocation where
  config : Option String
  host : Option String
  port : Option Nat
  logLevel : Option String
  command : Command
deriving DecidableEq, Repr

/-- The value that the environment has for an option. -/
def OptionRule.fromEnvironment? (rule : OptionRule) (environment : Environment) : Option String :=
  rule.fallback.bind environment.get?

/-- Whether every option that is missing at a level can take the value that the environment has for it. -/
def Given.isCompletedBy (given : Given) (environment : Environment) : Bool :=
  given.level.options.all fun rule =>
    (given.values.lookup rule.name).isSome || (rule.fromEnvironment? environment).all rule.accepts

/-- The command that a level runs, if all that it needs is given. -/
def Given.command? (given : Given) : Option Command := do
  let value (name : String) := given.values.lookup name
  match given.level with
  | .program | .serve => return .serve
  | .schema => return .schema (← value "domain") ⟨← value "context", ← value "aggregate", ← value "version"⟩
  | .route => return .route (← value "host") (← value "url")
  | .config => failure
  | .configShow => return .showConfig (value "paths").isSome

/-- What the arguments ask for once all are read. -/
def Reading.invocation? (reading : Reading) (environment : Environment) : Option Invocation := do
  let levels := reading.current :: reading.outer
  guard (reading.pending.isNone && levels.all (·.isCompletedBy environment))
  let command ← reading.current.command?
  let setting (levels : List Given) (name : String) : Option String :=
    (levels.findSome? fun given => given.values.lookup name).or
      ((Level.program.options.find? fun rule => rule.name == name).bind fun rule => rule.fromEnvironment? environment)
  let program := levels.filter fun given => given.level = .program
  return {
    config := setting levels "config"
    host := setting program "host"
    port := (setting program "port").bind port?
    logLevel := setting levels "log-level"
    command }

/-- What arguments ask for. -/
def Invocation.ofArguments (environment : Environment) (arguments : List String) : Except Stop Invocation :=
  match arguments.foldlM Reading.next {} with
  | .error stop => .error stop
  | .ok reading =>
    match reading.invocation? environment with
    | some invocation => .ok invocation
    | none => .error .usage

end AggregateGateway.Cli
