import AggregateGateway.Text.Printable

/-!
Texts quoted for messages: between quotation marks, with backslash escapes and the code point of every character that
is not shown. A path is quoted like a text, and its apostrophes are escaped as well.
-/

namespace AggregateGateway.Text

/-- A character that is escaped by its code point. -/
def codeEscape (c : Char) : List Char := ['\\', 'u', '\x7b'] ++ Nat.toDigits 16 c.toNat ++ ['\x7d']

/-- A character as it stands in quoted text. -/
def quoteChar (c : Char) : List Char :=
  if c = '\x00' then ['\\', '0']
  else if c = '\t' then ['\\', 't']
  else if c = '\r' then ['\\', 'r']
  else if c = '\n' then ['\\', 'n']
  else if c = '\\' ∨ c = '"' then ['\\', c]
  else if isPrintable c then [c]
  else codeEscape c

/-- A text between quotation marks. -/
def quote (text : String) : String := "\"" ++ String.ofList (text.toList.flatMap quoteChar) ++ "\""

/-- A path between quotation marks. -/
def quotePath (path : String) : String :=
  "\"" ++ String.ofList (path.toList.flatMap fun c => if c = '\'' then ['\\', '\''] else quoteChar c) ++ "\""

end AggregateGateway.Text
