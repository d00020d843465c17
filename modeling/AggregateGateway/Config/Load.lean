import AggregateGateway.Config.Document
import AggregateGateway.Config.Environment
import AggregateGateway.Files.Access
import AggregateGateway.Text.Quoted

/-!
Finding and loading the settings. A file that is named explicitly must be there; otherwise the first of four places
that is present is taken, and without any the settings have their defaults. The environment then overrides the bounds
of the route cache.
-/

namespace AggregateGateway

/-- What is wrong with a settings file. -/
inductive ConfigFault
  | unreadable (error : FileError)
  /-- The text is no YAML, or has settings of the wrong kind. -/
  | malformed
deriving DecidableEq, Repr

/-- Why the settings cannot be loaded; the path is given if it was named explicitly. -/
structure ConfigError where
  path : Option String
  fault : ConfigFault
deriving DecidableEq, Repr

def ConfigFault.message : ConfigFault → String
  | unreadable error => error.message
  | malformed => "malformed settings"

def ConfigError.message (error : ConfigError) : String :=
  match error.path with
  | some path => s!"Failed to load config at {Text.quotePath path}: {error.fault.message}"
  | none => error.fault.message

namespace GatewayConfig

variable {m : Type → Type} [Monad m]

/-- The home directory. -/
def home? (environment : Environment) : Option String := (environment.get? "HOME").filter (· ≠ "")

/-- The places at which a settings file is looked for, in their order. -/
def places (environment : Environment) : List String :=
  (environment.get? Environment.configPath).toList ++ ["./lattice-config.yaml"] ++
    ((home? environment).map fun home => joinPath (joinPath home ".lattice") "config.yaml").toList ++
    ["/etc/lattice/config.yaml"]

/-- The first path that is present. -/
def firstPresent (files : FileAccess m) : List String → m (Option String)
  | [] => return none
  | path :: rest => do if ← files.isPresent path then return some path else firstPresent files rest

/-- The settings file that is taken if none is named. -/
def discover (files : FileAccess m) (environment : Environment) : m (Option String) :=
  firstPresent files (places environment)

/-- The settings that a read of a file gives. -/
def ofFile : Except FileError String → Except ConfigFault GatewayConfig
  | .error error => .error (.unreadable error)
  | .ok text =>
    match ofYaml? text with
    | some config => .ok config
    | none => .error .malformed

/-- Loads the settings, from the file at `path` if one is named. -/
def load (files : FileAccess m) (environment : Environment) (path : Option String) :
    m (Except ConfigError GatewayConfig) := do
  let chosen ← match path with
    | some path => pure (some path)
    | none => discover files environment
  match chosen with
  | none => return .ok (GatewayConfig.overriddenBy {} environment)
  | some file =>
    match ofFile (← files.read file) with
    | .ok config => return .ok (config.overriddenBy environment)
    | .error fault => return .error ⟨path, fault⟩

end GatewayConfig

end AggregateGateway
