import AggregateGateway.Config.Settings
import AggregateGateway.Yaml.Json

/-!
Settings in a YAML document. A setting that is a text takes any scalar as it is written; numbers and flags must be
written plainly. A group of settings may be left empty; unknown settings are passed over, and none may be given twice.
-/

namespace AggregateGateway

open Yaml

/-- How a setting is read from a node. -/
abbrev SettingReader (α : Type) := Document → Node → Expansion α

/-- One setting of a group: its name, and how its node changes the group. -/
structure Setting (α : Type) where
  name : String
  set : α → SettingReader α

namespace Setting

/-- A scalar that is plain, or a literal block with the tag. -/
def literalText (tag : String) : SettingReader String := fun document node => do
  match ← document.follow node with
  | .scalar text .plain _ => return text
  | .scalar text .literal (some other) => if other = tag then return text else failure
  | _ => failure

def flag : SettingReader Bool := fun document node => do
  StateT.lift (boolOfText? (← literalText boolTag document node))

/-- A whole number below `bound`. -/
def number (bound : Nat) : SettingReader Nat := fun document node => do
  let value ← StateT.lift (unsigned? (Nat.pow 2 64) (← literalText intTag document node).toList)
  if value < bound then return value else failure

def text : SettingReader String := fun document node => document.textOf node

/-- The entries of a group; an empty scalar has none. -/
def entries (document : Document) (node : Node) : Expansion (List (Node × Node)) := do
  match ← document.follow node with
  | .mapping _ entries => return entries
  | .scalar "" .plain _ => return []
  | _ => failure

/-- Reads entries into a group, given the names of those that came before. -/
def readEntries {α : Type} (settings : List (Setting α)) (document : Document) :
    List (Node × Node) → List String → α → Expansion α
  | [], _, group => return group
  | (key, value) :: rest, seen, group => do
    let name ← document.textOf key
    match settings.find? fun setting => setting.name == name with
    | none => readEntries settings document rest seen group
    | some setting =>
      if seen.contains name then failure
      else readEntries settings document rest (name :: seen) (← setting.set group document value)

/-- A group of settings, all of which have defaults. -/
def group {α : Type} (settings : List (Setting α)) (blank : α) : SettingReader α := fun document node => do
  readEntries settings document (← entries document node) [] blank

end Setting

open Setting in
def ServerConfig.settings : List (Setting ServerConfig) := [
  ⟨"host", fun config document node => do return { config with host := ← text document node }⟩,
  ⟨"port", fun config document node => do return { config with port := ← number (Nat.pow 2 16) document node }⟩,
  ⟨"trust_proxy", fun config document node => do return { config with trustProxy := ← flag document node }⟩]

open Setting in
def StoreConfig.settings : List (Setting StoreConfig) := [
  ⟨"root", fun config document node => do return { config with root := ← text document node }⟩]

open Setting in
def RouteCacheConfig.settings : List (Setting RouteCacheConfig) := [
  ⟨"max_size", fun config document node => do return { config with maxSize := ← number (Nat.pow 2 64) document node }⟩,
  ⟨"max_age_ms", fun config document node => do return { config with maxAgeMs := ← number (Nat.pow 2 64) document node }⟩]

open Setting in
def GatewayConfig.settings : List (Setting GatewayConfig) := [
  ⟨"server", fun config document node => do
    return { config with server := ← group ServerConfig.settings {} document node }⟩,
  ⟨"log_level", fun config document node => do return { config with logLevel := ← text document node }⟩,
  ⟨"dev", fun config document node => do return { config with dev := ← flag document node }⟩,
  ⟨"store", fun config document node => do
    return { config with store := ← group StoreConfig.settings {} document node }⟩,
  ⟨"route_cache", fun config document node => do
    return { config with routeCache := ← group RouteCacheConfig.settings {} document node }⟩]

/-- The settings of a YAML text; a text without a document has all defaults. -/
def GatewayConfig.ofYaml? (text : String) : Option GatewayConfig := do
  let document ← Document.ofText? text
  match document.root with
  | none => return {}
  | some root => return (← (Setting.group settings {} document root).run document.maxAliases).1

end AggregateGateway
