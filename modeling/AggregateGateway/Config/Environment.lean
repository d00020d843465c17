import AggregateGateway.Config.Settings
import AggregateGateway.Number.Digits
import AggregateGateway.Text.WhiteSpace

/-!
Settings from environment variables. The bounds of the route cache can be overridden by whole numbers; a value that is
no such number changes nothing.
-/

namespace AggregateGateway

/-- Environment variables with their values. -/
abbrev Environment := List (String × String)

namespace Environment

/-- The value of a variable that is set. -/
def get? (environment : Environment) (name : String) : Option String := environment.lookup name

/-- The variable that leads to a settings file. -/
def configPath : String := "LATTICE_CONFIG_PATH"

def routeCacheMaxSize : String := "LATTICE_ROUTE_CACHE_MAX_SIZE"

def routeCacheMaxAge : String := "LATTICE_ROUTE_CACHE_MAX_AGE_MS"

/-- A whole number below `bound` in decimal digits, possibly after a plus sign. -/
def wholeNumber? (bound : Nat) (text : String) : Option Nat := digitsValue? 10 bound (withoutPlus text.toList)

/-- The number that a variable holds, with any white space around it. -/
def number? (environment : Environment) (name : String) : Option Nat :=
  (environment.get? name).bind fun text => wholeNumber? (Nat.pow 2 64) (Text.trim text)

end Environment

/-- The bounds with those that the environment overrides; a size of zero is no override. -/
def RouteCacheConfig.overriddenBy (config : RouteCacheConfig) (environment : Environment) : RouteCacheConfig where
  maxSize := ((environment.number? Environment.routeCacheMaxSize).filter (0 < ·)).getD config.maxSize
  maxAgeMs := (environment.number? Environment.routeCacheMaxAge).getD config.maxAgeMs

def GatewayConfig.overriddenBy (config : GatewayConfig) (environment : Environment) : GatewayConfig :=
  { config with routeCache := config.routeCache.overriddenBy environment }

end AggregateGateway
