import AggregateGateway.Yaml.Token.Lexer

/-!
The nodes of a YAML document. An alias refers to an anchored node by a number. The number of an anchor is how many
different names came before it, so an anchor that takes over a name shares its number with the next new name; of
anchors that share a number the last one counts.
-/

namespace AggregateGateway.Yaml

/-- A node. -/
inductive Node
  | scalar (text : String) (style : ScalarStyle) (tag : Option String)
  | sequence (tag : Option String) (items : List Node)
  | mapping (tag : Option String) (entries : List (Node × Node))
  | alias (id : Nat)
deriving Repr, Inhabited

namespace Node

/-- The node of nothing: a plain scalar without characters. -/
def empty : Node := .scalar "" .plain none

mutual
/-- One for a scalar or an alias; a collection counts its start and its end. -/
def weight : Node → Nat
  | .scalar .. => 1
  | .alias _ => 1
  | .sequence _ items => 2 + itemsWeight items
  | .mapping _ entries => 2 + entriesWeight entries

def itemsWeight : List Node → Nat
  | [] => 0
  | item :: items => item.weight + itemsWeight items

def entriesWeight : List (Node × Node) → Nat
  | [] => 0
  | (key, value) :: entries => key.weight + value.weight + entriesWeight entries
end

end Node

/-- A document with its anchored nodes; a text without a document has no root. -/
structure Document where
  root : Option Node
  anchored : List (Nat × Node)
deriving Inhabited

namespace Document

/-- The node that an alias refers to. -/
def anchored? (document : Document) (id : Nat) : Option Node := document.anchored.lookup id

/-- The weight of the whole document. -/
def weight (document : Document) : Nat := (document.root.map Node.weight).getD 1

end Document

/-! ### Reading nodes -/

/-- Tokens that are being read into nodes. -/
structure NodeReader where
  tokens : List Token
  /-- What tag handles stand for. -/
  handles : List (String × String) := []
  /-- The number of each anchor name. -/
  names : List (String × Nat) := []
  /-- How many anchors there have been. -/
  count : Nat := 0
  /-- Anchored nodes with their numbers, and when their anchors were read. -/
  anchored : List (Nat × Nat × Node) := []
deriving Inhabited

/-- A step of reading; it fails on a token that cannot stand where it does. -/
abbrev Reading := StateT NodeReader Option

namespace NodeReader

/-- The token ahead; behind the last one there is none. -/
def peek : Reading Token := do return ((← get).tokens.head?).getD .streamEnd

/-- Passes over the token ahead. -/
def advance : Reading Unit := modify fun reader => { reader with tokens := reader.tokens.drop 1 }

/-- Passes over the token ahead if it is the given one. -/
def accept (token : Token) : Reading Bool := do
  if (← peek) = token then
    advance
    return true
  else return false

/-- Whether the token ahead is one of these. -/
def sees (tokens : List Token) : Reading Bool := do return tokens.contains (← peek)

/-- Reads an anchor and a tag in either order. -/
def properties : Reading (Option String × Option (String × String)) := do
  match ← peek with
  | .anchor name =>
    advance
    match ← peek with
    | .tag handle suffix => advance; return (some name, some (handle, suffix))
    | _ => return (some name, none)
  | .tag handle suffix =>
    advance
    match ← peek with
    | .anchor name => advance; return (some name, some (handle, suffix))
    | _ => return (none, some (handle, suffix))
  | _ => return (none, none)

/-- The tag that a handle and a suffix stand for. -/
def resolveTag (tag : Option (String × String)) : Reading (Option String) := do
  match tag with
  | none => return none
  | some ("", suffix) => return some suffix
  | some (handle, suffix) =>
    match (← get).handles.lookup handle with
    | some lead => return some (lead ++ suffix)
    | none => failure

/-- Gives an anchor its number before the node is read, and keeps the node afterwards. -/
def withAnchor (name : Option String) (read : Reading Node) : Reading Node := do
  match name with
  | none => read
  | some name =>
    let reader ← get
    let id := reader.names.length
    let names := if (reader.names.lookup name).isSome then
        reader.names.map fun (other, n) => if other = name then (name, id) else (other, n)
      else reader.names ++ [(name, id)]
    set { reader with names := names, count := reader.count + 1 }
    let node ← read
    modify fun later => { later with anchored := (id, reader.count, node) :: later.anchored }
    return node

mutual
/-- Reads a node. `block` allows block collections, and `indentless` a sequence at the column of its mapping. -/
def node : Nat → (block indentless : Bool) → Reading Node
  | 0, _, _ => failure
  | fuel + 1, block, indentless => do
    if let .alias name ← peek then
      match (← get).names.lookup name with
      | some id => advance; return .alias id
      | none => failure
    else
      let (anchor, written) ← properties
      let tag ← resolveTag written
      match ← peek with
      | .blockEntry =>
        if indentless then withAnchor anchor do return .sequence tag (← indentlessItems fuel)
        else if anchor.isSome || tag.isSome then withAnchor anchor do return .scalar "" .plain tag
        else failure
      | .scalar text style =>
        advance
        withAnchor anchor do return .scalar text style (tag.filter (· ≠ "!"))
      | .flowSequenceStart =>
        withAnchor anchor do
          advance
          return .sequence tag (← flowItems fuel true)
      | .flowMappingStart =>
        withAnchor anchor do
          advance
          return .mapping tag (← flowEntries fuel true)
      | .blockSequenceStart =>
        if block then
          withAnchor anchor do
            advance
            return .sequence tag (← blockItems fuel)
        else if anchor.isSome || tag.isSome then withAnchor anchor do return .scalar "" .plain tag
        else failure
      | .blockMappingStart =>
        if block then
          withAnchor anchor do
            advance
            return .mapping tag (← blockEntries fuel)
        else if anchor.isSome || tag.isSome then withAnchor anchor do return .scalar "" .plain tag
        else failure
      | _ =>
        if anchor.isSome || tag.isSome then withAnchor anchor do return .scalar "" .plain tag else failure

/-- A node, unless one of the tokens that may follow it is ahead already. -/
def nodeUnless : Nat → (block indentless : Bool) → List Token → Reading Node
  | 0, _, _, _ => failure
  | fuel + 1, block, indentless, ends => do
    if ← sees ends then return .empty else node fuel block indentless

/-- The items of a block sequence up to its end. -/
def blockItems : Nat → Reading (List Node)
  | 0 => failure
  | fuel + 1 => do
    if ← accept .blockEntry then
      let item ← nodeUnless fuel true false [.blockEntry, .blockEnd]
      return item :: (← blockItems fuel)
    else if ← accept .blockEnd then return []
    else failure

/-- The items of a sequence at the column of its mapping. -/
def indentlessItems : Nat → Reading (List Node)
  | 0 => failure
  | fuel + 1 => do
    if ← accept .blockEntry then
      let item ← nodeUnless fuel true false [.blockEntry, .key, .value, .blockEnd]
      return item :: (← indentlessItems fuel)
    else return []

/-- The entries of a block mapping up to its end. -/
def blockEntries : Nat → Reading (List (Node × Node))
  | 0 => failure
  | fuel + 1 => do
    let ends := [Token.key, .value, .blockEnd]
    if ← accept .key then
      let key ← nodeUnless fuel true true ends
      let value ← if ← accept .value then nodeUnless fuel true true ends else pure .empty
      return (key, value) :: (← blockEntries fuel)
    else if ← accept .blockEnd then return []
    else failure

/-- The items of a flow sequence up to its end. An item that begins as a key is a mapping of one entry. -/
def flowItems : Nat → (first : Bool) → Reading (List Node)
  | 0, _ => failure
  | fuel + 1, first => do
    if ← accept .flowSequenceEnd then return []
    if !first then
      if !(← accept .flowEntry) then failure
    if ← accept .key then
      let entry ← flowPair fuel
      return .mapping none [entry] :: (← flowItems fuel false)
    else if ← accept .flowSequenceEnd then return []
    else
      let item ← node fuel false false
      return item :: (← flowItems fuel false)

/-- The entry of a mapping without braces. Without a key the token ahead is passed over. -/
def flowPair : Nat → Reading (Node × Node)
  | 0 => failure
  | fuel + 1 => do
    let key ← if ← sees [.value, .flowEntry, .flowSequenceEnd] then
        advance
        pure .empty
      else node fuel false false
    let value ← if ← accept .value then nodeUnless fuel false false [.flowEntry, .flowSequenceEnd] else pure .empty
    return (key, value)

/-- The entries of a flow mapping up to its end. -/
def flowEntries : Nat → (first : Bool) → Reading (List (Node × Node))
  | 0, _ => failure
  | fuel + 1, first => do
    if ← accept .flowMappingEnd then return []
    if !first then
      if !(← accept .flowEntry) then failure
    if ← accept .key then
      let key ← nodeUnless fuel false false [.value, .flowEntry, .flowMappingEnd]
      let value ← if ← accept .value then nodeUnless fuel false false [.flowEntry, .flowMappingEnd] else pure .empty
      return (key, value) :: (← flowEntries fuel false)
    else if ← accept .flowMappingEnd then return []
    else
      let key ← node fuel false false
      return (key, .empty) :: (← flowEntries fuel false)
end

/-- The directives in front of a document: the versions, and what tag handles stand for. -/
def directives : Nat → Bool → Reading Bool
  | 0, _ => failure
  | fuel + 1, versioned => do
    match ← peek with
    | .versionDirective major minor =>
      if versioned || major ≠ 1 || (minor ≠ 1 && minor ≠ 2) then failure
      advance
      directives fuel true
    | .tagDirective handle lead =>
      if ((← get).handles.lookup handle).isSome then failure
      modify fun reader => { reader with handles := reader.handles ++ [(handle, lead)] }
      advance
      directives fuel versioned
    | _ => return versioned

/-- Passes over the marks at the end of a document. -/
def documentEnds : Nat → Reading Unit
  | 0 => failure
  | fuel + 1 => do if ← accept .documentEnd then documentEnds fuel

/-- The handles that need no directive. -/
def defaultHandles : List (String × String) := [("!", "!"), ("!!", "tag:yaml.org,2002:")]

/-- Reads the only document of a text. -/
def document (fuel : Nat) : Reading (Option Node) := do
  if ← sees [.streamEnd] then return none
  let before := (← get).tokens.length
  let _ ← directives fuel false
  let directed := (← get).tokens.length < before
  modify fun reader => { reader with handles := reader.handles ++ defaultHandles }
  let root ←
    if ← accept .documentStart then
      match ← peek with
      | .versionDirective .. | .tagDirective .. | .documentStart | .documentEnd | .streamEnd => pure .empty
      | _ => node fuel true false
    else if directed then failure
    else node fuel true false
  documentEnds fuel
  if ← sees [.streamEnd] then return some root else failure

end NodeReader

/-- Of anchors that share a number, the one that was read last comes first. -/
def Document.sortAnchored (anchored : List (Nat × Nat × Node)) : List (Nat × Node) :=
  (anchored.mergeSort fun a b => b.2.1 ≤ a.2.1).map fun (id, _, node) => (id, node)

/-- The document of a text, if it holds no more than one. -/
def Document.ofText? (text : String) : Option Document := do
  let tokens ← Token.ofText? text
  let (root, reader) ← (NodeReader.document (2 * tokens.length + 4)).run { tokens := tokens }
  return ⟨root, sortAnchored reader.anchored⟩

end AggregateGateway.Yaml
