/-!
A place in a YAML text. Lines and columns are counted in characters. A carriage return with a line feed is one line
break; every break reads as a line feed, except the two Unicode separators, which are kept.
-/

namespace AggregateGateway.Yaml

/-- A character that a YAML text may hold. -/
def isAllowed (c : Char) : Bool :=
  c = '\t' || c = '\n' || c = '\r' || (' ' ≤ c && c ≤ '~') || c.toNat = 0x85
    || (0xA0 ≤ c.toNat && c.toNat ≤ 0xFFFD) || 0x10000 ≤ c.toNat

def isBlank (c : Char) : Bool := c = ' ' || c = '\t'

def isBreak (c : Char) : Bool := c = '\n' || c = '\r' || c.toNat = 0x85 || c.toNat = 0x2028 || c.toNat = 0x2029

/-- A letter, a digit, an underscore or a hyphen. -/
def isWord (c : Char) : Bool := c.isAlphanum || c = '_' || c = '-'

/-- The mark that may stand at the start of a text. -/
def byteOrderMark : Char := Char.ofNat 0xFEFF

/-- What is left of a text, and how far it has been read. -/
structure Cursor where
  rest : List Char
  index : Nat := 0
  line : Nat := 0
  column : Nat := 0
deriving Repr, Inhabited

namespace Cursor

/-- The character `i` places ahead. -/
def peek? (cursor : Cursor) (i : Nat := 0) : Option Char := cursor.rest[i]?

/-- Whether a character stands `i` places ahead. -/
def sees (cursor : Cursor) (c : Char) (i : Nat := 0) : Bool := cursor.peek? i = some c

/-- Whether the text has ended. -/
def atEnd (cursor : Cursor) : Bool := cursor.rest.isEmpty

def seesBlank (cursor : Cursor) (i : Nat := 0) : Bool := (cursor.peek? i).any isBlank

def seesBreak (cursor : Cursor) (i : Nat := 0) : Bool := (cursor.peek? i).any isBreak

/-- Whether a blank, a break or the end of the text is `i` places ahead. -/
def seesGap (cursor : Cursor) (i : Nat := 0) : Bool := (cursor.peek? i).all fun c => isBlank c || isBreak c

/-- Whether a break or the end of the text is ahead. -/
def seesLineEnd (cursor : Cursor) : Bool := (cursor.peek?).all isBreak

/-- Passes over characters that are no breaks. -/
def skip (cursor : Cursor) (n : Nat := 1) : Cursor :=
  { cursor with rest := cursor.rest.drop n, index := cursor.index + n, column := cursor.column + n }

/-- The cursor at the start of the next line, `n` characters ahead. -/
def nextLine (cursor : Cursor) (n : Nat) : Cursor :=
  ⟨cursor.rest.drop n, cursor.index + n, cursor.line + 1, 0⟩

/-- Reads a break, if one is ahead. -/
def readBreak? (cursor : Cursor) : Option (Char × Cursor) :=
  match cursor.rest with
  | '\r' :: '\n' :: _ => some ('\n', cursor.nextLine 2)
  | c :: _ =>
    if c = '\n' ∨ c = '\r' ∨ c.toNat = 0x85 then some ('\n', cursor.nextLine 1)
    else if isBreak c then some (c, cursor.nextLine 1)
    else none
  | [] => none

/-- Passes over a break, if one is ahead. -/
def skipBreak (cursor : Cursor) : Cursor := ((cursor.readBreak?).map Prod.snd).getD cursor

/-- The longest run of characters that a test accepts, which must not accept breaks. -/
def readWhile (cursor : Cursor) (accepts : Char → Bool) : List Char × Cursor :=
  let run := cursor.rest.takeWhile accepts
  (run, cursor.skip run.length)

/-- Passes over characters that a test accepts, which must not accept breaks. -/
def skipWhile (cursor : Cursor) (accepts : Char → Bool) : Cursor := (cursor.readWhile accepts).2

/-- Whether a line starts with three of a character and a gap. -/
def seesMarker (cursor : Cursor) (c : Char) : Bool :=
  cursor.column = 0 && cursor.sees c && cursor.sees c 1 && cursor.sees c 2 && cursor.seesGap 3

/-- Whether a line starts with a document marker. -/
def seesDocumentMarker (cursor : Cursor) : Bool := cursor.seesMarker '-' || cursor.seesMarker '.'

end Cursor

end AggregateGateway.Yaml
