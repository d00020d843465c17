import AggregateGateway.Json.Value

/-!
Numbers as they are written in JSON text. Digits are gathered into a significand of 64 bits; a numeral that leaves the
integers becomes the significand as a binary64 number, scaled by powers of ten that are binary64 numbers themselves.
A fraction is therefore rounded up to three times, and may miss the nearest number by a place.
-/

namespace AggregateGateway.Json

/-- Whether a character is one of the ten decimal digits. -/
def isDigit (c : Char) : Bool := '0' ≤ c && c ≤ '9'

/-- What a decimal digit counts. -/
def digitValue (c : Char) : Nat := c.toNat - '0'.toNat

/-- The greatest significand. -/
def maxSignificand : Nat := Nat.pow 2 64 - 1

/-- The greatest written exponent that is told apart from greater ones. -/
def maxWrittenExponent : Nat := Nat.pow 2 31 - 1

/-- Scales by `10 ^ power` in steps of at most `10 ^ 308`, rounding after each; `none` when the number is too large. -/
def scaleByTen : Nat → Binary64 → Int → Option Binary64
  | 0, x, _ => some x
  | fuel + 1, x, power =>
    if power.natAbs ≤ 308 then
      (Binary64.ofDecimal false 1 power.natAbs).bind fun factor => if 0 ≤ power then x.mul factor else x.div factor
    else if x.isZero then some x
    else if 0 ≤ power then none
    else
      (Binary64.ofDecimal false 1 308).bind fun factor =>
        (x.div factor).bind fun smaller => scaleByTen fuel smaller (power + 308)

/-- The binary64 number of a significand and a power of ten, or `none` when it is too large. -/
def realOfParts (negative : Bool) (significand : Nat) (power : Int) : Option Binary64 :=
  (Binary64.ofRatio false significand 1).bind fun x =>
    -- Three steps bring every number down to zero.
    (scaleByTen 4 x power).map fun y => { y with negative := negative }

/-- Digits that still fit the significand, the number of those read, and the rest of the text. -/
def takeDigits : List Char → Nat → Nat → Nat × Nat × List Char
  | [], significand, count => (significand, count, [])
  | c :: rest, significand, count =>
    if isDigit c && significand * 10 + digitValue c ≤ maxSignificand then
      takeDigits rest (significand * 10 + digitValue c) (count + 1)
    else (significand, count, c :: rest)

/-- Passes over digits and counts them. -/
def skipDigits : List Char → Nat → Nat × List Char
  | [], count => (count, [])
  | c :: rest, count => if isDigit c then skipDigits rest (count + 1) else (count, c :: rest)

/-- The value of digits, held at `maxWrittenExponent + 1` once it is passed. -/
def exponentValue (digits : List Char) : Nat :=
  digits.foldl (fun n c => min (n * 10 + digitValue c) (maxWrittenExponent + 1)) 0

/-- Reads what may follow the digits before the point and returns the number with the rest of the text; `none` when
the numeral is not well formed or too large. -/
def readFraction (negative : Bool) (significand : Nat) (power : Int) (cs : List Char) :
    Option (Number × List Char) := do
  let (significand, power, cs) ← match cs with
    | '.' :: cs =>
      let (significand', count, rest) := takeDigits cs significand 0
      let (dropped, rest) := skipDigits rest 0
      if count + dropped = 0 then none else some (significand', power - count, rest)
    | cs => some (significand, power, cs)
  match cs with
  | c :: cs =>
    if c = 'e' ∨ c = 'E' then
      let (negativePower, cs) := match cs with
        | '+' :: cs => (false, cs)
        | '-' :: cs => (true, cs)
        | cs => (false, cs)
      let digits := cs.takeWhile isDigit
      let rest := cs.dropWhile isDigit
      if digits.isEmpty then none else
        let written := exponentValue digits
        if maxWrittenExponent < written then
          if significand ≠ 0 ∧ ¬negativePower then none else some (.real (.zero negative), rest)
        else
          let power := if negativePower then power - written else power + written
          (realOfParts negative significand power).map fun x => (.real x, rest)
    else (realOfParts negative significand power).map fun x => (.real x, c :: cs)
  | [] => (realOfParts negative significand power).map fun x => (.real x, [])

/-- The number of a significand that no point or exponent follows; `-0` and what 64 bits do not hold are fractions. -/
def wholeNumber (negative : Bool) (significand : Nat) : Option Number :=
  if ¬negative then some (.integer significand)
  else if 0 < significand ∧ significand ≤ Nat.pow 2 63 then some (.integer (-significand))
  else (Binary64.ofRatio true significand 1).map .real

/-- Reads a numeral and returns it with the rest of the text. -/
def readNumeral (cs : List Char) : Option (Number × List Char) := do
  let (negative, cs) := match cs with
    | '-' :: cs => (true, cs)
    | cs => (false, cs)
  match cs with
  | [] => none
  | c :: rest =>
    if ¬isDigit c then none else
    if c = '0' ∧ (rest.head?.map isDigit).getD false then none else
    let (significand, _, rest) := takeDigits (c :: rest) 0 0
    let (dropped, rest) := skipDigits rest 0
    if 0 < dropped then readFraction negative significand dropped rest
    else match rest with
      | c :: _ =>
        if c = '.' ∨ c = 'e' ∨ c = 'E' then readFraction negative significand 0 rest
        else (wholeNumber negative significand).map fun n => (n, rest)
      | [] => (wholeNumber negative significand).map fun n => (n, [])

end AggregateGateway.Json
