/-!
Finite binary64 numbers, kept as a sign, a significand and a power of two instead of a bit pattern, so that every
operation is exact arithmetic on natural numbers followed by one rounding to the nearest number, ties to even.
-/

namespace AggregateGateway

/-- A finite binary64 number, `± significand * 2 ^ exponent`. -/
structure Binary64 where
  negative : Bool
  significand : Nat
  exponent : Int
deriving DecidableEq, Repr, Inhabited

namespace Binary64

/-- The least power of two that a significand can be scaled by. -/
def minExponent : Int := -1074

/-- The greatest power of two that a significand can be scaled by. -/
def maxExponent : Int := 971

/-- Zero keeps its sign. -/
def zero (negative : Bool) : Binary64 := ⟨negative, 0, minExponent⟩

/-- Both zeros are zero. -/
def isZero (x : Binary64) : Bool := x.significand == 0

/-- Numerical equality, for which the two zeros are the same number. -/
def same (x y : Binary64) : Bool := (x.isZero && y.isZero) || x == y

/-- The nearest natural number to `num / den`, a tie going to the even one. -/
def roundHalfEven (num den : Nat) : Nat :=
  let quotient := num / den
  let twice := 2 * (num % den)
  if twice < den ∨ (twice = den ∧ quotient % 2 = 0) then quotient else quotient + 1

/-- The ratio `num / (den * 2 ^ shift)` as a numerator and a denominator. -/
def shiftRatio (num den : Nat) (shift : Int) : Nat × Nat :=
  if 0 ≤ shift then (num, den * Nat.pow 2 shift.toNat) else (num * Nat.pow 2 (-shift).toNat, den)

/-- The nearest binary64 number to `± num / den`, or `none` beyond the largest one. -/
def ofRatio (negative : Bool) (num den : Nat) : Option Binary64 :=
  if num = 0 then some (zero negative) else
    let guess : Int := (num.log2 : Int) - (den.log2 : Int) - 53
    let (n, d) := shiftRatio num den guess
    let exponent := max minExponent (if n / d < Nat.pow 2 53 then guess else guess + 1)
    let (n, d) := shiftRatio num den exponent
    let rounded := roundHalfEven n d
    let result := if rounded = Nat.pow 2 53 then (⟨negative, Nat.pow 2 52, exponent + 1⟩ : Binary64)
      else ⟨negative, rounded, exponent⟩
    if maxExponent < result.exponent then none else some result

/-- The absolute value as a numerator and a denominator. -/
def toRatio (x : Binary64) : Nat × Nat :=
  if 0 ≤ x.exponent then (x.significand * Nat.pow 2 x.exponent.toNat, 1)
  else (x.significand, Nat.pow 2 (-x.exponent).toNat)

/-- The rounded product, or `none` when it is too large. -/
def mul (x y : Binary64) : Option Binary64 :=
  let (a, b) := x.toRatio
  let (c, d) := y.toRatio
  ofRatio (x.negative != y.negative) (a * c) (b * d)

/-- The rounded quotient by a number that is not zero, or `none` when it is too large. -/
def div (x y : Binary64) : Option Binary64 :=
  let (a, b) := x.toRatio
  let (c, d) := y.toRatio
  ofRatio (x.negative != y.negative) (a * d) (b * c)

/-- The nearest binary64 number to `± digits * 10 ^ power`, or `none` beyond the largest one. -/
def ofDecimal (negative : Bool) (digits : Nat) (power : Int) : Option Binary64 :=
  if digits = 0 then some (zero negative) else
    -- Outside this band the answer is known, and the power of ten need not be computed.
    let magnitude : Int := (Nat.toDigits 10 digits).length + power
    if 400 < magnitude then none
    else if magnitude < -400 then some (zero negative)
    else if 0 ≤ power then ofRatio negative (digits * Nat.pow 10 power.toNat) 1
    else ofRatio negative digits (Nat.pow 10 (-power).toNat)

end Binary64

end AggregateGateway
