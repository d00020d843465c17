import AggregateGateway.Yaml.Cursor
import AggregateGateway.Yaml.Token

/-!
Reading scalars. Inside a quoted or plain scalar a line break is folded into a space and further breaks are kept;
a block scalar keeps its breaks, or folds those between lines of text. Each reader gives `none` for a malformed scalar.
-/

namespace AggregateGateway.Yaml

/-- Text that is being read: its characters, last first, and the blanks and breaks that came after them. -/
structure ScalarText where
  chars : List Char := []
  /-- Blanks on the line of the last character. -/
  blanks : List Char := []
  /-- The first break after the last character. -/
  leadingBreak : List Char := []
  /-- Further breaks. -/
  trailingBreaks : List Char := []
deriving Inhabited

namespace ScalarText

def push (text : ScalarText) (c : Char) : ScalarText := { text with chars := c :: text.chars }

def append (text : ScalarText) (cs : List Char) : ScalarText := { text with chars := cs.reverse ++ text.chars }

def toText (text : ScalarText) : String := String.ofList text.chars.reverse

/-- A single break becomes a space, and of several breaks the first is dropped; a separator is kept. -/
def foldBreaks (text : ScalarText) : ScalarText :=
  let joined := if text.leadingBreak = ['\n'] then
      if text.trailingBreaks.isEmpty then [' '] else text.trailingBreaks
    else text.leadingBreak ++ text.trailingBreaks
  { text.append joined with leadingBreak := [], trailingBreaks := [] }

/-- Blanks between words stand as they are. -/
def joinBlanks (text : ScalarText) : ScalarText := { text.append text.blanks with blanks := [] }

/-- Whether a test of one more break is the first. -/
def pushBreak (text : ScalarText) (isFirst : Bool) (c : Char) : ScalarText :=
  if isFirst then { text with blanks := [], leadingBreak := [c] }
  else { text with trailingBreaks := text.trailingBreaks ++ [c] }

end ScalarText

/-- Blanks and breaks between the words of a scalar. The flag tells whether there has been a break. `tabLimit` is the
column before which a tab must not stand on a new line. -/
def readSpaces (tabLimit : Nat) : Nat → ScalarText → Bool → Cursor → Option (ScalarText × Bool × Cursor)
  | 0, _, _, _ => none
  | fuel + 1, text, broken, cursor =>
    if broken && cursor.column < tabLimit && cursor.sees '\t' then none
    else match cursor.peek? with
      | none => some (text, broken, cursor)
      | some c =>
        if isBlank c then
          let text := if broken then text else { text with blanks := text.blanks ++ [c] }
          readSpaces tabLimit fuel text broken cursor.skip
        else match cursor.readBreak? with
          | some (b, next) => readSpaces tabLimit fuel (text.pushBreak (!broken) b) true next
          | none => some (text, broken, cursor)

/-! ### Quoted scalars -/

/-- The value of hexadecimal digits. -/
def hexValue? (chars : List Char) : Option Nat :=
  chars.foldlM (fun n c =>
    if c.isDigit then some (n * 16 + (c.toNat - '0'.toNat))
    else if 'a' ≤ c ∧ c ≤ 'f' then some (n * 16 + (c.toNat - 'a'.toNat + 10))
    else if 'A' ≤ c ∧ c ≤ 'F' then some (n * 16 + (c.toNat - 'A'.toNat + 10))
    else none) 0

/-- The character of a code point written with a fixed number of hexadecimal digits. -/
def readCode? (digits : Nat) (cursor : Cursor) : Option (Char × Cursor) :=
  let written := cursor.rest.take digits
  if written.length = digits then
    (hexValue? written).bind fun n => if n.isValidChar then some (Char.ofNat n, cursor.skip digits) else none
  else none

/-- The character after a backslash; the cursor stands behind the backslash. -/
def readEscape? (cursor : Cursor) : Option (Char × Cursor) :=
  match cursor.rest with
  | [] => none
  | c :: _ =>
    let one (n : Nat) := some (Char.ofNat n, cursor.skip)
    match c with
    | '0' => one 0
    | 'a' => one 7
    | 'b' => one 8
    | 't' | '\t' => one 9
    | 'n' => one 10
    | 'v' => one 11
    | 'f' => one 12
    | 'r' => one 13
    | 'e' => one 0x1B
    | ' ' | '"' | '/' | '\\' => some (c, cursor.skip)
    | 'N' => one 0x85
    | '_' => one 0xA0
    | 'L' => one 0x2028
    | 'P' => one 0x2029
    | 'x' => readCode? 2 cursor.skip
    | 'u' => readCode? 4 cursor.skip
    | 'U' => readCode? 8 cursor.skip
    | _ => none

/-- The characters of a quoted scalar up to a gap or the closing quote. The flag tells of an escaped break. -/
def readQuotedWord (quote : Char) : Nat → ScalarText → Cursor → Option (ScalarText × Bool × Cursor)
  | 0, _, _ => none
  | fuel + 1, text, cursor =>
    if cursor.seesGap then some (text, false, cursor)
    else match cursor.peek? with
      | none => none
      | some c =>
        if quote = '\'' && c = '\'' && cursor.sees '\'' 1 then readQuotedWord quote fuel (text.push '\'') (cursor.skip 2)
        else if c = quote then some (text, false, cursor)
        else if quote = '"' && c = '\\' then
          if cursor.seesBreak 1 then some (text, true, cursor.skip.skipBreak)
          else (readEscape? cursor.skip).bind fun (e, next) => readQuotedWord quote fuel (text.push e) next
        else readQuotedWord quote fuel (text.push c) cursor.skip

/-- The rest of a quoted scalar. -/
def readQuotedRest (quote : Char) : Nat → ScalarText → Cursor → Option (String × Cursor)
  | 0, _, _ => none
  | fuel + 1, text, cursor =>
    if cursor.seesDocumentMarker || cursor.atEnd then none
    else do
      let (text, broken, cursor) ← readQuotedWord quote fuel text cursor
      if cursor.sees quote then return (text.toText, cursor.skip)
      let (text, broken, cursor) ← readSpaces 0 fuel text broken cursor
      readQuotedRest quote fuel (if broken then text.foldBreaks else text.joinBlanks) cursor

/-- Reads a scalar from its opening quote. -/
def readQuoted? (quote : Char) (cursor : Cursor) : Option (String × Cursor) :=
  readQuotedRest quote (cursor.rest.length + 2) {} cursor.skip

/-! ### Plain scalars -/

/-- What ends a word, a colon before a gap and the flow indicators, or is refused inside flow collections. -/
def endsPlainWord (inFlow : Bool) (cursor : Cursor) : Bool :=
  (cursor.sees ':' && cursor.seesGap 1) ||
    (inFlow && (cursor.peek?).any fun c => c = ',' || c = '[' || c = ']' || c = '\x7b' || c = '\x7d')

def isRefusedInFlow (cursor : Cursor) : Bool :=
  cursor.sees ':' && (cursor.peek? 1).any fun c =>
    c = ',' || c = '?' || c = '[' || c = ']' || c = '\x7b' || c = '\x7d'

/-- The characters of a plain scalar up to a gap or its end, with what came before them. -/
def readPlainWord (inFlow : Bool) : Nat → ScalarText → Bool → Cursor → Option (ScalarText × Bool × Cursor)
  | 0, _, _, _ => none
  | fuel + 1, text, broken, cursor =>
    if cursor.seesGap then some (text, broken, cursor)
    else if inFlow && isRefusedInFlow cursor then none
    else if endsPlainWord inFlow cursor then some (text, broken, cursor)
    else match cursor.peek? with
      | none => some (text, broken, cursor)
      | some c =>
        let text := if broken then text.foldBreaks else text.joinBlanks
        readPlainWord inFlow fuel (text.push c) false cursor.skip

/-- The rest of a plain scalar, and whether a break came after it. On a new line it must stand at `indent` or beyond. -/
def readPlainRest (inFlow : Bool) (indent : Nat) : Nat → ScalarText → Bool → Cursor → Option (String × Bool × Cursor)
  | 0, _, _, _ => none
  | fuel + 1, text, broken, cursor =>
    if cursor.seesDocumentMarker || cursor.sees '#' then some (text.toText, broken, cursor)
    else do
      let (text, broken, cursor) ← readPlainWord inFlow fuel text broken cursor
      if !(cursor.seesBlank || cursor.seesBreak) then return (text.toText, broken, cursor)
      let (text, broken, cursor) ← readSpaces indent fuel text broken cursor
      if !inFlow && cursor.column < indent then return (text.toText, broken, cursor)
      readPlainRest inFlow indent fuel text broken cursor

/-- Reads a plain scalar, and tells whether a break came after it. -/
def readPlain? (inFlow : Bool) (indent : Nat) (cursor : Cursor) : Option (String × Bool × Cursor) :=
  readPlainRest inFlow indent (cursor.rest.length + 2) {} false cursor

/-! ### Block scalars -/

/-- What happens to the breaks at the end of a block scalar. -/
inductive Chomping
  | strip
  | clip
  | keep
deriving DecidableEq, Repr

/-- The chomping indicator ahead. -/
def chomping? (cursor : Cursor) : Option Chomping :=
  match cursor.peek? with
  | some '+' => some .keep
  | some '-' => some .strip
  | _ => none

/-- The indentation indicator ahead; zero is none. -/
def increment? (cursor : Cursor) : Option Nat :=
  (cursor.peek?).bind fun c => if c.isDigit then some (c.toNat - '0'.toNat) else none

/-- The indicators of a block scalar, in either order. -/
def readBlockHeader? (cursor : Cursor) : Option (Chomping × Option Nat × Cursor) :=
  match chomping? cursor, increment? cursor with
  | some chomping, _ =>
    match increment? cursor.skip with
    | some 0 => none
    | some n => some (chomping, some n, cursor.skip 2)
    | none => some (chomping, none, cursor.skip)
  | none, some 0 => none
  | none, some n =>
    match chomping? cursor.skip with
    | some chomping => some (chomping, some n, cursor.skip 2)
    | none => some (.clip, some n, cursor.skip)
  | none, none => some (.clip, none, cursor)

/-- Empty lines and the indentation of the next line. While the indentation is not known, the widest of these lines is
remembered. -/
def readBlockBreaks (indent : Option Nat) : Nat → Nat → List Char → Cursor → Option (Nat × List Char × Cursor)
  | 0, _, _, _ => none
  | fuel + 1, widest, breaks, cursor =>
    let spaces := (cursor.rest.takeWhile (· = ' ')).length
    let cursor := cursor.skip (match indent with
      | some n => min spaces (n - cursor.column)
      | none => spaces)
    let widest := max widest cursor.column
    if indent.all (cursor.column < ·) && cursor.sees '\t' then none
    else match cursor.readBreak? with
      | some (b, next) => readBlockBreaks indent fuel widest (breaks ++ [b]) next
      | none => some (widest, breaks, cursor)

/-- The lines of a block scalar at their indentation. -/
def readBlockLines (literal : Bool) (indent : Nat) : Nat → ScalarText → Bool → Cursor → Option (ScalarText × Cursor)
  | 0, _, _, _ => none
  | fuel + 1, text, afterBlank, cursor =>
    if cursor.column ≠ indent || cursor.atEnd then some (text, cursor)
    else do
      let blank := cursor.seesBlank
      let text := if !literal && text.leadingBreak = ['\n'] && !afterBlank && !blank then
          text.append ((if text.trailingBreaks.isEmpty then [' '] else []) ++ text.trailingBreaks)
        else text.append (text.leadingBreak ++ text.trailingBreaks)
      let (line, cursor) := cursor.readWhile fun c => !isBreak c
      let (leading, cursor) := match cursor.readBreak? with
        | some (b, next) => ([b], next)
        | none => ([], cursor)
      let (_, breaks, cursor) ← readBlockBreaks (some indent) (cursor.rest.length + 1) 0 [] cursor
      readBlockLines literal indent fuel { text.append line with leadingBreak := leading, trailingBreaks := breaks }
        blank cursor

/-- Reads a block scalar from its indicator. `parent` is the indentation of the collection around it, if there is
one. -/
def readBlock? (literal : Bool) (parent : Option Nat) (cursor : Cursor) : Option (String × Cursor) := do
  let (chomping, increment, cursor) ← readBlockHeader? cursor.skip
  let cursor := cursor.skipWhile isBlank
  let cursor := if cursor.sees '#' then cursor.skipWhile fun c => !isBreak c else cursor
  if !cursor.seesLineEnd then none
  let cursor := cursor.skipBreak
  let known := increment.map (parent.getD 0 + ·)
  let fuel := cursor.rest.length + 1
  let (widest, breaks, cursor) ← readBlockBreaks known fuel 0 [] cursor
  let least := match parent with
    | some n => n + 1
    | none => 1
  let indent := known.getD (max widest least)
  let (text, cursor) ← readBlockLines literal indent (fuel + 1) { trailingBreaks := breaks } false cursor
  let text := if chomping = .strip then text else text.append text.leadingBreak
  let text := if chomping = .keep then text.append text.trailingBreaks else text
  return (text.toText, cursor)

end AggregateGateway.Yaml
