import AggregateGateway.Yaml.Cursor
import AggregateGateway.Yaml.Scalar

/-!
Writing block mappings. A text with a line feed is a literal block; any other stands as it is where it reads back as
itself, and is quoted where it would not: in single quotes if they can hold it, and in double quotes if not.
-/

namespace AggregateGateway.Yaml

/-- What is written: a mapping, a text, or a value that stands as it is. -/
inductive Outline
  | plain (value : String)
  | text (value : String)
  | mapping (entries : List (String × Outline))
deriving Inhabited

/-- How many columns each mapping is indented. -/
def indentWidth : Nat := 2

/-- A character that stands for itself outside double quotes. -/
def isPrintable (c : Char) : Bool :=
  c = '\n' || (' ' ≤ c && c ≤ '~') || (0xA0 ≤ c.toNat && c ≠ byteOrderMark && c.toNat ≠ 0xFFFE && c.toNat ≠ 0xFFFF)

/-- Whether blank, break or end comes next. -/
def gapFollows (rest : List Char) : Bool := rest.head?.all fun c => isBlank c || isBreak c

/-- Whether characters behind the first would be read as structure; `before` is the character in front. -/
def hasInnerIndicator (before : Char) : List Char → Bool
  | [] => false
  | c :: rest =>
    (c = ':' && gapFollows rest) || (c = '#' && (isBlank before || isBreak before)) || hasInnerIndicator c rest

/-- Whether a text would be read as structure. -/
def hasIndicator (chars : List Char) : Bool :=
  let marked := chars.take 3 = ['-', '-', '-'] || chars.take 3 = ['.', '.', '.']
  match chars with
  | [] => false
  | c :: rest =>
    marked || "#,[]\x7b\x7d&*!|>'\"%@\x60".toList.contains c
      || ((c = '?' || c = ':' || c = '-') && gapFollows rest) || hasInnerIndicator c rest

/-- Whether two neighbours satisfy two tests. -/
def hasNeighbours (first second : Char → Bool) : List Char → Bool
  | a :: b :: rest => (first a && second b) || hasNeighbours first second (b :: rest)
  | _ => false

/-- Characters that only double quotes can hold, or a space in front of a break. -/
def needsEscapes (chars : List Char) : Bool :=
  chars.any (fun c => !isPrintable c) || hasNeighbours (· = ' ') isBreak chars

/-- Whether a text may stand as it is. -/
def allowsPlain (chars : List Char) : Bool :=
  !(chars.any isBreak || chars.head? = some ' ' || chars.getLast? = some ' ' || needsEscapes chars || hasIndicator chars)

/-- Whether a text may stand in single quotes. -/
def allowsSingleQuotes (chars : List Char) : Bool := !(hasNeighbours isBreak (· = ' ') chars || needsEscapes chars)

/-- Whether a text may stand in a literal block. -/
def allowsBlock (chars : List Char) : Bool := !(chars.getLast? = some ' ' || needsEscapes chars)

/-- Whether a text would be read as something else than a text. -/
def isAmbiguous (text : String) : Bool := Plain.ofText text ≠ .text || isZeroPadded text.toList

/-- Spaces up to a column. -/
def spaces (n : Nat) : List Char := List.replicate n ' '

/-- Characters of lines, each of which is indented after a break. -/
def indentLines (indent : Nat) (afterBreak : Bool) : List Char → List Char
  | [] => []
  | c :: rest =>
    if isBreak c then c :: indentLines indent true rest
    else (if afterBreak then spaces indent else []) ++ c :: indentLines indent false rest

/-- A text in single quotes. -/
def singleQuoted (indent : Nat) (chars : List Char) : List Char :=
  let doubled := chars.flatMap fun c => if c = '\'' then ['\'', '\''] else [c]
  let closing := if (chars.getLast?).any isBreak then spaces indent else []
  '\'' :: (indentLines indent false doubled ++ closing ++ ['\''])

/-- A hexadecimal number of a fixed number of digits in upper case. -/
def upperHex (digits n : Nat) : List Char :=
  (List.range digits).reverse.map fun i => (Nat.digitChar (n / Nat.pow 16 i % 16)).toUpper

/-- A character as it stands in double quotes. -/
def doubleQuotedChar (c : Char) : List Char :=
  let named (e : Char) := ['\\', e]
  if c = '"' || c = '\\' then named c
  else if isPrintable c && !isBreak c then [c]
  else match c.toNat with
    | 0 => named '0'
    | 7 => named 'a'
    | 8 => named 'b'
    | 9 => named 't'
    | 10 => named 'n'
    | 11 => named 'v'
    | 12 => named 'f'
    | 13 => named 'r'
    | 0x1B => named 'e'
    | 0x85 => named 'N'
    | 0x2028 => named 'L'
    | 0x2029 => named 'P'
    | n =>
      if n ≤ 0xFF then '\\' :: 'x' :: upperHex 2 n
      else if n ≤ 0xFFFF then '\\' :: 'u' :: upperHex 4 n
      else '\\' :: 'U' :: upperHex 8 n

/-- A text in double quotes. -/
def doubleQuoted (chars : List Char) : List Char := '"' :: (chars.flatMap doubleQuotedChar ++ ['"'])

/-- A literal block: its indicators and its indented lines. An indentation is stated where the first line does not
show it, and so is whether the breaks at the end are dropped or all kept. -/
def literalBlock (indent : Nat) (chars : List Char) : List Char :=
  let hint := if (chars.head?).any fun c => c = ' ' || isBreak c then [Nat.digitChar indentWidth] else []
  let chomping := match chars.reverse with
    | [] => ['-']
    | [last] => if isBreak last then ['+'] else ['-']
    | last :: before :: _ => if !isBreak last then ['-'] else if isBreak before then ['+'] else []
  '|' :: (hint ++ chomping ++ '\n' :: indentLines indent true chars)

/-- A text, of which further lines are indented. -/
def textChars (indent : Nat) (text : String) : List Char :=
  let chars := text.toList
  if chars.contains '\n' then
    if allowsBlock chars then literalBlock indent chars else doubleQuoted chars
  else if !isAmbiguous text && allowsPlain chars then chars
  else if chars.isEmpty || allowsSingleQuotes chars then singleQuoted indent chars
  else doubleQuoted chars

/-- A value with the break after it, unless it ends in one. -/
def endLine (chars : List Char) : List Char := if (chars.getLast?).any isBreak then chars else chars ++ ['\n']

mutual
/-- What follows the colon of an entry. -/
def Outline.afterColon (indent : Nat) : Outline → List Char
  | .plain value => ' ' :: endLine value.toList
  | .text value => ' ' :: endLine (textChars (indent + indentWidth) value)
  | .mapping entries => '\n' :: Outline.entriesChars (indent + indentWidth) entries

/-- The lines of a mapping. -/
def Outline.entriesChars (indent : Nat) : List (String × Outline) → List Char
  | [] => []
  | (key, value) :: entries =>
    spaces indent ++ key.toList ++ ':' :: (value.afterColon indent ++ Outline.entriesChars indent entries)
end

/-- The text of a mapping at the margin. -/
def writeMapping (entries : List (String × Outline)) : String := String.ofList (Outline.entriesChars 0 entries)

end AggregateGateway.Yaml
