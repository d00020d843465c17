import AggregateGateway.Routing.Cache
import AggregateGateway.Yaml.Writer

/-!
The settings of a gateway: where it listens, how it logs, where its documents are and how it caches route tables. Every
setting has a default.
-/

namespace AggregateGateway

open Json

structure ServerConfig where
  host : String := "127.0.0.1"
  port : Nat := 8000
  /-- Whether address, host and protocol of a client are taken from forwarding headers. -/
  trustProxy : Bool := false
deriving DecidableEq, Repr, Inhabited

structure StoreConfig where
  /-- The directory of the documents. -/
  root : String := "./store"
deriving DecidableEq, Repr, Inhabited

structure GatewayConfig where
  server : ServerConfig := {}
  logLevel : String := "info"
  /-- Whether answers show why a read failed. -/
  dev : Bool := false
  store : StoreConfig := {}
  routeCache : RouteCacheConfig := {}
deriving DecidableEq, Repr, Inhabited

namespace ServerConfig

def record : Record ServerConfig where
  name := "ServerConfig"
  blank := {}
  fields := [
    ⟨"host", false, fun config value => do return { config with host := ← value.decodeString }⟩,
    ⟨"port", false, fun config value => do return { config with port := ← value.decodeNat (Nat.pow 2 16) "u16" }⟩,
    ⟨"trust_proxy", false, fun config value => do return { config with trustProxy := ← value.decodeBool }⟩]

def decode : Value → Decoded ServerConfig := record.decode

end ServerConfig

namespace StoreConfig

/-- A path is a text. -/
def decodePath : Value → Decoded String
  | .string path => .ok path
  | other => .error (.invalidType other "path string")

def record : Record StoreConfig where
  name := "StoreConfig"
  blank := {}
  fields := [⟨"root", false, fun config value => do return { config with root := ← decodePath value }⟩]

def decode : Value → Decoded StoreConfig := record.decode

end StoreConfig

namespace GatewayConfig

def record : Record GatewayConfig where
  name := "GatewayConfig"
  blank := {}
  fields := [
    ⟨"server", false, fun config value => do return { config with server := ← ServerConfig.decode value }⟩,
    ⟨"log_level", false, fun config value => do return { config with logLevel := ← value.decodeString }⟩,
    ⟨"dev", false, fun config value => do return { config with dev := ← value.decodeBool }⟩,
    ⟨"store", false, fun config value => do return { config with store := ← StoreConfig.decode value }⟩,
    ⟨"route_cache", false, fun config value => do
      return { config with routeCache := ← RouteCacheConfig.decode value }⟩]

def decode : Value → Decoded GatewayConfig := record.decode

/-- The settings as a YAML mapping. -/
def toYaml (config : GatewayConfig) : String :=
  let flag (value : Bool) := Yaml.Outline.plain (toString value)
  let number (value : Nat) := Yaml.Outline.plain (toString value)
  Yaml.writeMapping [
    ("server", .mapping [("host", .text config.server.host), ("port", number config.server.port),
      ("trust_proxy", flag config.server.trustProxy)]),
    ("log_level", .text config.logLevel),
    ("dev", flag config.dev),
    ("store", .mapping [("root", .text config.store.root)]),
    ("route_cache", .mapping [("max_size", number config.routeCache.maxSize),
      ("max_age_ms", number config.routeCache.maxAgeMs)])]

end GatewayConfig

end AggregateGateway
