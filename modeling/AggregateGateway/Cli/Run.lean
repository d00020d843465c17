import AggregateGateway.Cli.Arguments
import AggregateGateway.Cli.LogFilter
import AggregateGateway.Config.Load
import AggregateGateway.Gateway.Interface
import AggregateGateway.Routing.Reroute
import AggregateGateway.Store.Directory

/-!
Running a command. The log level is checked first, as the arguments give it, and once more when the settings are
loaded, unless the environment holds a log filter of its own. The settings that the arguments override are the host, the
port and the log level. Documents come from the directory that the settings name.
-/

namespace AggregateGateway.Cli

/-- Why a command fails. -/
inductive CommandError
  /-- The log level is no log filter. -/
  | logLevel
  | settings (error : ConfigError)
  | schema (domain : String) (selector : AggregateSelector) (error : InterfaceError)
  | route (host url : String) (error : RouteError)
  /-- The address is not available to a listener. -/
  | bind (host : String) (port : Nat)

def CommandError.message : CommandError → String
  | logLevel => "Failed to create log filter"
  | settings _ => "Failed to load configuration"
  | schema domain selector _ => s!"Failed to compile {selector.display} in domain '" ++ domain ++ "'"
  | route host url _ => s!"Failed to resolve route for {host}{url}"
  | bind host port => s!"Failed to bind to {host}:{port}"

/-- What a run leaves behind. -/
structure Outcome where
  code : Nat
  output : String := ""
  error : Option String := none
deriving DecidableEq, Repr, Inhabited

/-- The variable that holds a log filter. -/
def logVariable : String := "RUST_LOG"

/-- Whether a log level will do: the environment holds a log filter, or the level is one. -/
def acceptsLogLevel (environment : Environment) (level : String) : Bool :=
  (environment.get? logVariable).any isLogFilter || isLogFilter level

/-- The settings with those that the arguments override. -/
def Invocation.override (invocation : Invocation) (config : GatewayConfig) : GatewayConfig :=
  { config with
    server := { config.server with
      host := invocation.host.getD config.server.host
      port := invocation.port.getD config.server.port }
    logLevel := invocation.logLevel.getD config.logLevel }

/-- The target of a route as it is printed. -/
def targetText (host url : String) : Option RouteTarget → String
  | some target => s!"{target.address}\n  Host: {target.host}\n"
  | none => s!"No route for {host}{url}\n"

/-- The places of settings files as they are printed. -/
def placesText (environment : Environment) (path discovered : Option String) : String :=
  let unset := "(not set)"
  "Configuration discovery paths:\n" ++
    s!"  1. --config flag: {path.getD unset}\n" ++
    s!"  2. {Environment.configPath}: {(environment.get? Environment.configPath).getD unset}\n" ++
    "  3. ./lattice-config.yaml\n  4. ~/.lattice/config.yaml\n  5. /etc/lattice/config.yaml\n" ++
    (discovered.map fun found => s!"  Discovered: {found}\n").getD "" ++ "\n"

section

variable {m : Type → Type} [Monad m] (files : FileAccess m) (environment : Environment)

/-- The documents of a directory, and nothing else. -/
def documentsIn (root : String) : Outside m where
  readDocument := DirectoryStore.read ⟨root⟩ files
  callResolver _ _ := return .error (.request "not connected")
  send _ := return .error "not connected"
  drawId := return .zero
  readClock := return 0

/-- Runs a command with settings, and gives what it prints. There is nothing to listen with, so serving fails. -/
def Command.run (config : GatewayConfig) (path : Option String) : Command → m (Except CommandError String)
  | .serve => return .error (.bind config.server.host config.server.port)
  | .schema domain selector => do
    match ← (Interface.load domain selector).run (documentsIn files config.store.root) with
    | .ok api => return .ok api.schema.text
    | .error error => return .error (.schema domain selector error)
  | .route host url => do
    let cache : RouteCache := ⟨config.routeCache, []⟩
    match ← (cache.reroute host url).run (documentsIn files config.store.root) with
    | (.ok target, _) => return .ok (targetText host url target)
    | (.error error, _) => return .error (.route host url error)
  | .showConfig showPaths => do
    let places ← if showPaths then placesText environment path <$> GatewayConfig.discover files environment else pure ""
    return .ok (places ++ "Current configuration:\n\n" ++ config.toYaml)

/-- Loads the settings and runs the command. -/
def Invocation.run (invocation : Invocation) : m (Except CommandError String) := do
  if !acceptsLogLevel environment (invocation.logLevel.getD "info") then return .error .logLevel
  match ← GatewayConfig.load files environment invocation.config with
  | .error error => return .error (.settings error)
  | .ok config =>
    let config := invocation.override config
    if !acceptsLogLevel environment config.logLevel then return .error .logLevel
    invocation.command.run files environment config invocation.config

/-- Runs the program. -/
def run (arguments : List String) : m Outcome := do
  match Invocation.ofArguments environment arguments with
  | .error .version => return { code := 0, output := "lattice 0.1.0\n" }
  | .error .help => return { code := 0, output := "Usage: lattice [OPTIONS] [COMMAND]\n" }
  | .error .usage => return { code := 2 }
  | .ok invocation =>
    match ← invocation.run files environment with
    | .ok output => return { code := 0, output }
    | .error error => return { code := 1, error := some error.message }

end

end AggregateGateway.Cli
