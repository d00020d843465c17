import AggregateGateway.Number.Binary64
import AggregateGateway.Number.Digits

/-!
What plain scalars stand for. Integers are decimal, or hexadecimal, octal or binary behind a sign; digits that begin
with a needless zero are text.
-/

namespace AggregateGateway.Yaml

/-- The value of a plain scalar. -/
inductive Plain
  | null
  | bool (value : Bool)
  | integer (value : Int)
  /-- An integer that 128 bits hold and 64 bits do not. -/
  | wideInteger
  | real (value : Binary64)
  /-- An infinity or not a number. -/
  | notFinite
  | text
deriving DecidableEq, Repr

def isNullText (text : String) : Bool := ["null", "Null", "NULL", "~"].contains text

def boolOfText? (text : String) : Option Bool :=
  if ["true", "True", "TRUE"].contains text then some true
  else if ["false", "False", "FALSE"].contains text then some false
  else none

/-- Decimal digits behind a needless zero, with or without a sign. -/
def isZeroPadded (chars : List Char) : Bool :=
  let digits := match chars with
    | '-' :: rest => rest
    | '+' :: rest => rest
    | _ => chars
  match digits with
  | '0' :: d :: rest => (d :: rest).all Char.isDigit
  | _ => false

/-- The digits of an integer without its sign: their base, and the digits. -/
def baseAndDigits : List Char → Nat × List Char
  | '0' :: 'x' :: rest => (16, rest)
  | '0' :: 'o' :: rest => (8, rest)
  | '0' :: 'b' :: rest => (2, rest)
  | chars => (10, chars)

/-- An integer below `bound` without a minus sign. -/
def unsigned? (bound : Nat) (chars : List Char) : Option Nat :=
  if isZeroPadded chars then none
  else
    let (base, digits) := baseAndDigits (withoutPlus chars)
    digitsValue? base bound digits

/-- The absolute value, up to `bound`, of an integer with a minus sign. -/
def negative? (bound : Nat) (chars : List Char) : Option Nat :=
  match chars with
  | '-' :: rest =>
    if isZeroPadded chars then none
    else
      let (base, digits) := baseAndDigits rest
      digitsValue? base (bound + 1) digits
  | _ => none

/-- The integer that a scalar writes, if any. -/
def integer? (chars : List Char) : Option Plain :=
  match unsigned? (Nat.pow 2 64) chars, negative? (Nat.pow 2 63) chars with
  | some n, _ => some (.integer n)
  | none, some n => some (.integer (-n))
  | none, none =>
    if (unsigned? (Nat.pow 2 128) chars).isSome || (negative? (Nat.pow 2 127) chars).isSome then some .wideInteger else none

/-- The power of ten after the digits of a fraction; no text stands for no power. -/
def power? : List Char → Option Int
  | [] => some 0
  | e :: rest =>
    if e = 'e' ∨ e = 'E' then
      match rest with
      | '-' :: digits => (digitsValue? 10 (Nat.pow 10 digits.length) digits).map fun n => -(n : Int)
      | '+' :: digits => (digitsValue? 10 (Nat.pow 10 digits.length) digits).map fun n => (n : Int)
      | digits => (digitsValue? 10 (Nat.pow 10 digits.length) digits).map fun n => (n : Int)
    else none

/-- The number that decimal digits, a point and a power of ten write, unless it is too large. -/
def decimal? (chars : List Char) : Option Binary64 := do
  let (negative, chars) := match chars with
    | '-' :: rest => (true, rest)
    | '+' :: rest => (false, rest)
    | _ => (false, chars)
  let whole := chars.takeWhile Char.isDigit
  let chars := chars.dropWhile Char.isDigit
  let (fraction, chars) := match chars with
    | '.' :: rest => (rest.takeWhile Char.isDigit, rest.dropWhile Char.isDigit)
    | _ => ([], chars)
  let digits := whole ++ fraction
  let power ← power? chars
  let value ← digitsValue? 10 (Nat.pow 10 digits.length) digits
  Binary64.ofDecimal negative value (power - fraction.length)

/-- The fraction that a scalar writes, if any. -/
def real? (text : String) : Option Plain :=
  let chars := text.toList
  let unsigned := withoutPlus chars
  if unsigned ≠ chars && (unsigned.head?).any (fun c => c = '+' || c = '-') then none
  else if [".inf", ".Inf", ".INF"].contains (String.ofList unsigned) then some .notFinite
  else if ["-.inf", "-.Inf", "-.INF", ".nan", ".NaN", ".NAN"].contains text then some .notFinite
  else (decimal? unsigned).map .real

/-- What a plain scalar stands for. -/
def Plain.ofText (text : String) : Plain :=
  if text.isEmpty || isNullText text then .null
  else match boolOfText? text with
    | some value => .bool value
    | none =>
      match integer? text.toList with
      | some value => value
      | none => if isZeroPadded text.toList then .text else (real? text).getD .text

end AggregateGateway.Yaml
