import AggregateGateway.Json.Value
import AggregateGateway.Yaml.Node
import AggregateGateway.Yaml.Scalar

/-!
YAML documents as JSON values. Aliases are replaced by the nodes that they refer to, within bounds on the depth of
collections and on how many aliases are followed. The keys of a mapping are scalars as they are written, of which a
repeated one keeps its first place and takes its last value.
-/

namespace AggregateGateway.Yaml

open AggregateGateway.Json (Value)

/-- Reading a document, with how many aliases may still be followed. -/
abbrev Expansion := StateT Nat Option

namespace Document

/-- Collections may be nested so deep. -/
def maxDepth : Nat := 128

/-- How many aliases may be followed. -/
def maxAliases (document : Document) : Nat := document.weight * 100

/-- The node that an alias refers to; any other node is itself. -/
def follow (document : Document) : Node → Expansion Node
  | .alias id => do
    match ← get with
    | 0 => failure
    | left + 1 =>
      set left
      match document.anchored? id with
      | some node => return node
      | none => failure
  | node => return node

/-- The text of a scalar, whatever its tag and style. -/
def textOf (document : Document) (node : Node) : Expansion String := do
  match ← document.follow node with
  | .scalar text _ _ => return text
  | _ => failure

end Document

/-- A tag of the application, which no JSON value can have. -/
def isLocalTag (tag : Option String) : Bool := tag.any fun tag => tag.startsWith "!"

/-- The tags with a meaning of their own. -/
def boolTag : String := "tag:yaml.org,2002:bool"
def intTag : String := "tag:yaml.org,2002:int"
def floatTag : String := "tag:yaml.org,2002:float"
def nullTag : String := "tag:yaml.org,2002:null"

/-- The JSON value of what a scalar stands for. -/
def Plain.toJson? (text : String) : Plain → Option Value
  | .null => some .null
  | .bool value => some (.bool value)
  | .integer value => some (.ofInt value)
  | .wideInteger => none
  | .real value => some (.number (.real value))
  | .notFinite => some .null
  | .text => some (.string text)

/-- The JSON value of a scalar. -/
def scalarJson? (text : String) (style : ScalarStyle) (tag : Option String) : Option Value :=
  match tag with
  | none => if style = .plain then (Plain.ofText text).toJson? text else some (.string text)
  | some tag =>
    if tag = boolTag then (boolOfText? text).map .bool
    else if tag = intTag then (integer? text.toList).bind (Plain.toJson? text)
    else if tag = floatTag then (real? text).bind (Plain.toJson? text)
    else if tag = nullTag then if isNullText text then some .null else none
    else if isLocalTag (some tag) then none
    else some (.string text)

/-- The JSON value of a node, down to a depth of collections. -/
def Document.nodeJson (document : Document) : (depth : Nat) → Node → Expansion Value
  | depth, node => do
    match ← document.follow node, depth with
    | .scalar text style tag, _ => StateT.lift (scalarJson? text style tag)
    | .sequence tag items, depth + 1 =>
      if isLocalTag tag then failure
      return .array (← items.mapM (document.nodeJson depth))
    | .mapping tag entries, depth + 1 =>
      if isLocalTag tag then failure
      return .ofMembers (← entries.mapM fun (key, value) => do
        return (← document.textOf key, ← document.nodeJson depth value))
    | _, _ => failure

/-- The JSON value of a YAML text; a text without a document is `null`. -/
def toJson? (text : String) : Option Value := do
  let document ← Document.ofText? text
  match document.root with
  | none => return .null
  | some root => return (← (document.nodeJson Document.maxDepth root).run document.maxAliases).1

end AggregateGateway.Yaml
