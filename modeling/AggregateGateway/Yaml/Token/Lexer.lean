import AggregateGateway.Yaml.Token.Scalar

/-!
Reading the tokens of a YAML text. A scalar may turn out to be a key when a colon follows on its line; its place is
remembered until then, and the token of the key is put in front of it. Indentation opens and closes block collections
outside flow collections.
-/

namespace AggregateGateway.Yaml

/-- A place at which a key may have begun. -/
structure KeyMark where
  /-- How many tokens came before. -/
  position : Nat
  index : Nat
  line : Nat
  column : Nat
  /-- Whether nothing but a key can stand there. -/
  required : Bool
deriving Repr, Inhabited

/-- A text that is being read into tokens. -/
structure Lexer where
  cursor : Cursor
  /-- The tokens so far, last first. -/
  tokens : List Token := []
  /-- The columns of the open block collections, innermost first. -/
  indents : List Nat := []
  /-- Whether a key may begin here. -/
  keyAllowed : Bool := true
  /-- The key that may have begun in each open flow collection, innermost first, and outside of them. -/
  keys : List (Option KeyMark) := [none]
deriving Inhabited

namespace Lexer

/-- Whether a flow collection is open. -/
def inFlow (lexer : Lexer) : Bool := 1 < lexer.keys.length

def push (lexer : Lexer) (token : Token) : Lexer := { lexer with tokens := token :: lexer.tokens }

def moveTo (lexer : Lexer) (cursor : Cursor) : Lexer := { lexer with cursor := cursor }

/-- Puts tokens at a place among those that have been read. -/
def insertAt (lexer : Lexer) (position : Nat) (tokens : List Token) : Lexer :=
  let later := lexer.tokens.length - position
  { lexer with tokens := lexer.tokens.take later ++ tokens.reverse ++ lexer.tokens.drop later }

def allowKey (lexer : Lexer) (allowed : Bool) : Lexer := { lexer with keyAllowed := allowed }

/-- The key that may have begun in the innermost collection. -/
def key? (lexer : Lexer) : Option KeyMark := lexer.keys.head?.join

def setKey (lexer : Lexer) (key : Option KeyMark) : Lexer := { lexer with keys := key :: lexer.keys.drop 1 }

/-! ### Indentation -/

/-- The column of the innermost block collection lies before `column`. -/
def isDeeper (lexer : Lexer) (column : Nat) : Bool := lexer.indents.head?.all (· < column)

/-- Opens a block collection at a column that is deeper than the innermost one, at a place among the tokens. -/
def openBlock (lexer : Lexer) (column position : Nat) (token : Token) : Lexer :=
  if !lexer.inFlow && lexer.isDeeper column then
    { lexer.insertAt position [token] with indents := column :: lexer.indents }
  else lexer

/-- Opens a block collection here. -/
def openBlockHere (lexer : Lexer) (token : Token) : Lexer :=
  lexer.openBlock lexer.cursor.column lexer.tokens.length token

/-- Closes the block collections that `closes` accepts by their column, innermost first. -/
def closeBlocks (lexer : Lexer) (closes : Nat → Bool) : Lexer :=
  if lexer.inFlow then lexer
  else
    let closed := lexer.indents.takeWhile closes
    { lexer with indents := lexer.indents.drop closed.length,
                 tokens := closed.map (fun _ => Token.blockEnd) ++ lexer.tokens }

/-! ### Keys -/

/-- Gives up the key that may have begun, unless it is required. -/
def dropKey? (lexer : Lexer) : Option Lexer :=
  if lexer.key?.any (·.required) then none else some (lexer.setKey none)

/-- Remembers that a key may begin here. -/
def saveKey? (lexer : Lexer) : Option Lexer :=
  if lexer.keyAllowed then
    let cursor := lexer.cursor
    let required := !lexer.inFlow && lexer.indents.head? = some cursor.column
    lexer.dropKey?.map fun lexer =>
      lexer.setKey (some ⟨lexer.tokens.length, cursor.index, cursor.line, cursor.column, required⟩)
  else some lexer

/-- A key stands on one line and has at most 1024 characters before its colon. -/
def isStale (cursor : Cursor) (key : KeyMark) : Bool := key.line < cursor.line || key.index + 1024 < cursor.index

/-- Gives up all keys that are no longer possible. -/
def dropStaleKeys? (lexer : Lexer) : Option Lexer :=
  if lexer.keys.any fun key => key.any fun key => key.required && isStale lexer.cursor key then none
  else some { lexer with keys := lexer.keys.map fun key => key.filter fun key => !isStale lexer.cursor key }

/-! ### Blanks and comments -/

/-- Passes over blanks, comments and breaks. A tab is no blank where a key may begin in a block collection. -/
def skipToToken : Nat → Lexer → Lexer
  | 0, lexer => lexer
  | fuel + 1, lexer =>
    let cursor := lexer.cursor
    let cursor := if cursor.column = 0 && cursor.sees byteOrderMark then cursor.skip else cursor
    let cursor := cursor.skipWhile fun c => c = ' ' || ((lexer.inFlow || !lexer.keyAllowed) && c = '\t')
    let cursor := if cursor.sees '#' then cursor.skipWhile fun c => !isBreak c else cursor
    match cursor.readBreak? with
    | some (_, next) => skipToToken fuel { lexer with cursor := next, keyAllowed := lexer.keyAllowed || !lexer.inFlow }
    | none => lexer.moveTo cursor

/-! ### Directives -/

/-- A number of at most nine digits. -/
def readVersionNumber? (cursor : Cursor) : Option (Nat × Cursor) :=
  let (digits, next) := cursor.readWhile Char.isDigit
  if digits.isEmpty || 9 < digits.length then none
  else some (digits.foldl (fun n c => n * 10 + (c.toNat - '0'.toNat)) 0, next)

/-- A handle: an exclamation mark, or a word between two of them. A directive takes no other form. -/
def readTagHandle? (inDirective : Bool) (cursor : Cursor) : Option (String × Cursor) :=
  if !cursor.sees '!' then none
  else
    let (word, next) := cursor.skip.readWhile isWord
    if next.sees '!' then some (String.ofList ('!' :: word ++ ['!']), next.skip)
    else if inDirective && !word.isEmpty then none
    else some (String.ofList ('!' :: word), next)

/-- A character of a tag; flow indicators may stand only in a verbatim one. -/
def isTagChar (verbatim : Bool) (c : Char) : Bool :=
  isWord c || ";/?:@&=+$.!~*'()".toList.contains c || (verbatim && (c = ',' || c = '[' || c = ']'))

/-- The bytes of characters written with percent signs. -/
def readPercentBytes : Nat → Cursor → Option (List UInt8 × Cursor)
  | 0, _ => none
  | fuel + 1, cursor =>
    match cursor.rest with
    | '%' :: a :: b :: _ =>
      (hexValue? [a, b]).bind fun n =>
        (readPercentBytes fuel (cursor.skip 3)).map fun (bytes, next) => (n.toUInt8 :: bytes, next)
    | '%' :: _ => none
    | _ => some ([], cursor)

/-- The characters of a tag. -/
def readTagChars (verbatim : Bool) : Nat → List Char → Cursor → Option (List Char × Cursor)
  | 0, _, _ => none
  | fuel + 1, chars, cursor =>
    if cursor.sees '%' then
      (readPercentBytes fuel cursor).bind fun (bytes, next) =>
        (String.fromUTF8? ⟨bytes.toArray⟩).bind fun text => readTagChars verbatim fuel (chars ++ text.toList) next
    else
      let (run, next) := cursor.readWhile (isTagChar verbatim)
      if run.isEmpty then some (chars, cursor) else readTagChars verbatim fuel (chars ++ run) next

/-- A tag after its beginning, which counts even where none of it is kept. -/
def readTagText? (verbatim : Bool) (beginning : List Char) (cursor : Cursor) : Option (String × Cursor) :=
  (readTagChars verbatim (cursor.rest.length + 2) [] cursor).bind fun (chars, next) =>
    if beginning.isEmpty && chars.isEmpty then none else some (String.ofList (beginning.drop 1 ++ chars), next)

/-- What is left of the line of a directive. -/
def endDirective? (cursor : Cursor) : Option Cursor :=
  let cursor := cursor.skipWhile isBlank
  let cursor := if cursor.sees '#' then cursor.skipWhile fun c => !isBreak c else cursor
  if cursor.seesLineEnd then some cursor.skipBreak else none

/-- Reads a directive from its percent sign. -/
def readDirective? (cursor : Cursor) : Option (Token × Cursor) := do
  let (name, cursor) := cursor.skip.readWhile isWord
  if name.isEmpty || !cursor.seesGap then none
  let cursor := cursor.skipWhile isBlank
  if name = "YAML".toList then
    let (major, cursor) ← readVersionNumber? cursor
    if !cursor.sees '.' then none
    let (minor, cursor) ← readVersionNumber? cursor.skip
    return (.versionDirective major minor, ← endDirective? cursor)
  else if name = "TAG".toList then
    let (handle, cursor) ← readTagHandle? true cursor
    if !cursor.seesBlank then none
    let (lead, cursor) ← readTagText? true [] (cursor.skipWhile isBlank)
    if !cursor.seesGap then none
    return (.tagDirective handle lead, ← endDirective? cursor)
  else none

/-! ### Anchors and tags -/

/-- Reads the name of an anchor or an alias from its indicator. -/
def readAnchorName? (cursor : Cursor) : Option (String × Cursor) :=
  let (name, next) := cursor.skip.readWhile isWord
  let isEnd := next.seesGap || (next.peek?).any fun c => "?:,]\x7d%@\x60".toList.contains c
  if name.isEmpty || !isEnd then none else some (String.ofList name, next)

/-- Reads a tag from its exclamation mark. -/
def readTag? (inFlow : Bool) (cursor : Cursor) : Option (Token × Cursor) := do
  let (handle, suffix, next) ← if cursor.sees '<' 1 then do
      let (suffix, next) ← readTagText? true [] (cursor.skip 2)
      if next.sees '>' then some ("", suffix, next.skip) else none
    else do
      let (handle, next) ← readTagHandle? false cursor
      let chars := handle.toList
      if 1 < chars.length && chars.getLast? = some '!' then
        let (suffix, next) ← readTagText? false [] next
        some (handle, suffix, next)
      else
        let (suffix, next) ← readTagText? false chars next
        some (if suffix.isEmpty then ("", "!", next) else ("!", suffix, next))
  if next.seesGap || (inFlow && next.sees ',') then return (.tag handle suffix, next) else none

/-! ### Tokens -/

/-- A token that a key may begin with, and after which no key begins on this line. -/
def pushKeyStart? (lexer : Lexer) (read : Cursor → Option (Token × Cursor)) : Option Lexer := do
  let lexer ← lexer.saveKey?
  let (token, cursor) ← read lexer.cursor
  return ((lexer.allowKey false).moveTo cursor).push token

/-- A directive or a document marker, before which every block collection ends. -/
def pushAtMargin? (lexer : Lexer) (read : Cursor → Option (Token × Cursor)) : Option Lexer := do
  let lexer ← (lexer.closeBlocks fun _ => true).dropKey?
  let (token, cursor) ← read lexer.cursor
  return ((lexer.allowKey false).moveTo cursor).push token

/-- Opens a flow collection. -/
def pushFlowStart? (lexer : Lexer) (token : Token) : Option Lexer :=
  lexer.saveKey?.map fun lexer =>
    ({ lexer with keys := none :: lexer.keys, keyAllowed := true }.moveTo lexer.cursor.skip).push token

/-- Closes a flow collection; outside of one only the token is read. -/
def pushFlowEnd? (lexer : Lexer) (token : Token) : Option Lexer :=
  lexer.dropKey?.map fun lexer =>
    let keys := if lexer.inFlow then lexer.keys.drop 1 else lexer.keys
    ({ lexer with keys := keys, keyAllowed := false }.moveTo lexer.cursor.skip).push token

/-- A comma. -/
def pushFlowEntry? (lexer : Lexer) : Option Lexer :=
  lexer.dropKey?.map fun lexer => ((lexer.allowKey true).moveTo lexer.cursor.skip).push .flowEntry

/-- An indicator that opens a block collection where a key may begin; in a flow collection it opens none. -/
def openAt? (lexer : Lexer) (token : Token) : Option Lexer :=
  if lexer.inFlow then some lexer
  else if lexer.keyAllowed then some (lexer.openBlockHere token)
  else none

/-- A hyphen. -/
def pushBlockEntry? (lexer : Lexer) : Option Lexer := do
  let lexer ← (← lexer.openAt? .blockSequenceStart).dropKey?
  return ((lexer.allowKey true).moveTo lexer.cursor.skip).push .blockEntry

/-- A question mark. -/
def pushKey? (lexer : Lexer) : Option Lexer := do
  let lexer ← (← lexer.openAt? .blockMappingStart).dropKey?
  return ((lexer.allowKey !lexer.inFlow).moveTo lexer.cursor.skip).push .key

/-- A colon, which makes a key of what may have begun one. -/
def pushValue? (lexer : Lexer) : Option Lexer := do
  let lexer ← match lexer.key? with
    | some key =>
      let lexer := lexer.insertAt key.position [.key]
      let lexer := lexer.openBlock key.column key.position .blockMappingStart
      some ((lexer.setKey none).allowKey false)
    | none => (lexer.openAt? .blockMappingStart).map fun lexer => lexer.allowKey !lexer.inFlow
  return (lexer.moveTo lexer.cursor.skip).push .value

/-- A block scalar. -/
def pushBlockScalar? (lexer : Lexer) (literal : Bool) : Option Lexer := do
  let lexer ← lexer.dropKey?
  let (text, cursor) ← readBlock? literal lexer.indents.head? lexer.cursor
  return ((lexer.allowKey true).moveTo cursor).push (.scalar text (if literal then .literal else .folded))

/-- A quoted scalar. -/
def pushQuoted? (lexer : Lexer) (quote : Char) (style : ScalarStyle) : Option Lexer :=
  lexer.pushKeyStart? fun cursor => (readQuoted? quote cursor).map fun (text, next) => (.scalar text style, next)

/-- A plain scalar; if a break comes after it, a key may begin. -/
def pushPlain? (lexer : Lexer) : Option Lexer := do
  let lexer ← lexer.saveKey?
  let indent := match lexer.indents.head? with
    | some n => n + 1
    | none => 0
  let (text, broken, cursor) ← readPlain? lexer.inFlow indent lexer.cursor
  return ((lexer.allowKey broken).moveTo cursor).push (.scalar text .plain)

/-- The characters that begin no plain scalar. -/
def isIndicator (c : Char) : Bool := "-?:,[]\x7b\x7d#&*!|>'\"%@\x60".toList.contains c

/-- Whether a plain scalar begins here. -/
def seesPlain (lexer : Lexer) : Bool :=
  let cursor := lexer.cursor
  !(cursor.seesGap || (cursor.peek?).any isIndicator)
    || (cursor.sees '-' && !cursor.seesBlank 1)
    || (!lexer.inFlow && (cursor.sees '?' || cursor.sees ':') && !cursor.seesGap 1)

/-- Reads the token that is ahead, where the text has not ended. -/
def pushToken? (lexer : Lexer) : Option Lexer :=
  let cursor := lexer.cursor
  match cursor.peek? with
  | none => none
  | some c =>
    if cursor.column = 0 && c = '%' then lexer.pushAtMargin? readDirective?
    else if cursor.seesMarker '-' then lexer.pushAtMargin? fun cursor => some (.documentStart, cursor.skip 3)
    else if cursor.seesMarker '.' then lexer.pushAtMargin? fun cursor => some (.documentEnd, cursor.skip 3)
    else if c = '[' then lexer.pushFlowStart? .flowSequenceStart
    else if c = '\x7b' then lexer.pushFlowStart? .flowMappingStart
    else if c = ']' then lexer.pushFlowEnd? .flowSequenceEnd
    else if c = '\x7d' then lexer.pushFlowEnd? .flowMappingEnd
    else if c = ',' then lexer.pushFlowEntry?
    else if c = '-' && cursor.seesGap 1 then lexer.pushBlockEntry?
    else if c = '?' && (lexer.inFlow || cursor.seesGap 1) then lexer.pushKey?
    else if c = ':' && (lexer.inFlow || cursor.seesGap 1) then lexer.pushValue?
    else if c = '*' then lexer.pushKeyStart? fun cursor => (readAnchorName? cursor).map fun (name, next) => (.alias name, next)
    else if c = '&' then lexer.pushKeyStart? fun cursor => (readAnchorName? cursor).map fun (name, next) => (.anchor name, next)
    else if c = '!' then lexer.pushKeyStart? (readTag? lexer.inFlow)
    else if c = '|' && !lexer.inFlow then lexer.pushBlockScalar? true
    else if c = '>' && !lexer.inFlow then lexer.pushBlockScalar? false
    else if c = '\'' then lexer.pushQuoted? '\'' .singleQuoted
    else if c = '"' then lexer.pushQuoted? '"' .doubleQuoted
    else if lexer.seesPlain then lexer.pushPlain?
    else none

/-- Reads tokens until the text ends. -/
def finish? : Nat → Lexer → Option Lexer
  | 0, _ => none
  | fuel + 1, lexer => do
    let lexer := skipToToken (lexer.cursor.rest.length + 1) lexer
    let lexer ← lexer.dropStaleKeys?
    let column := lexer.cursor.column
    let lexer := lexer.closeBlocks (column < ·)
    if lexer.cursor.atEnd then
      let lexer ← (lexer.closeBlocks fun _ => true).dropKey?
      return lexer.push .streamEnd
    else finish? fuel (← lexer.pushToken?)

end Lexer

/-- The tokens of a text. -/
def Token.ofText? (text : String) : Option (List Token) :=
  let chars := text.toList
  if chars.all isAllowed then
    (Lexer.finish? (chars.length + 1) { cursor := { rest := chars } }).map fun lexer => lexer.tokens.reverse
  else none

end AggregateGateway.Yaml
