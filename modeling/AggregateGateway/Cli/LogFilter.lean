import AggregateGateway.Number.Digits
import AggregateGateway.Text.Alphanumeric
import AggregateGateway.Text.Split
import AggregateGateway.Text.WhiteSpace

/-!
Log filters. A filter is a list of directives between commas, or empty. A directive is a level, or a target, and after
a target may come a span in brackets, with fields in braces, and after either an equals sign with a level. What is no
level is a target, so that few texts are no filter.
-/

namespace AggregateGateway.LogFilter

/-- A level: one of six words in either case, or a number up to five; nothing at all is the finest level. -/
def isLevel (chars : List Char) : Bool :=
  chars.isEmpty || ["error", "warn", "info", "debug", "trace", "off"].contains (String.ofList (chars.map Char.toLower)) ||
    (digitsValue? 10 6 (withoutPlus chars)).isSome

/-- A place in a directive. -/
inductive Place
  | start
  /-- In a level or a target. -/
  | word
  | span
  /-- In a field, which is empty so far or not. -/
  | field (isEmpty : Bool)
  | afterFields
  | afterSpan
  /-- Behind the equals sign, which so many characters stand up to. -/
  | level (position : Nat)
deriving DecidableEq, Repr

/-- A character that a directive may begin with, besides an opening bracket. -/
def beginsWord (c : Char) : Bool := c = '-' || c = ':' || c = '_' || Text.isAlphanumeric c

/-- The place after one more character, if it may stand there; `position` counts the characters before it. -/
def Place.next? (position : Nat) : Place → Char → Option Place
  | .start, c => if c = '[' then some .span else if beginsWord c then some .word else none
  | .word, c => if c = '=' then some (.level (position + 1)) else if c = '[' then some .span else some .word
  | .span, c => if c = ']' then some .afterSpan else if c = '\x7b' then some (.field true) else some .span
  | .field isEmpty, c =>
    if c = '\x7d' then (if isEmpty then none else some .afterFields) else some (.field false)
  | .afterFields, c => if c = ']' then some .afterSpan else none
  | .afterSpan, c => if c = '=' then some (.level (position + 1)) else none
  | .level begins, _ => some (.level begins)

/-- Follows a directive on from a place. -/
def follow (position : Nat) (place : Place) : List Char → Option Place
  | [] => some place
  | c :: rest => (place.next? position c).bind fun place => follow (position + 1) place rest

/-- Whether a text is a directive. White space around it does not count, except that the level is taken from the text
as it stands, white space at its end included and counted from its untrimmed beginning. -/
def isDirective (chars : List Char) : Bool :=
  match follow 0 .start (Text.trimChars chars) with
  | some .word | some .afterSpan => true
  | some (.level position) => isLevel (chars.drop position)
  | _ => false

end AggregateGateway.LogFilter

namespace AggregateGateway

/-- Whether a text is a log filter. -/
def isLogFilter (text : String) : Bool := text.isEmpty || (Text.pieces ',' text.toList).all LogFilter.isDirective

end AggregateGateway
