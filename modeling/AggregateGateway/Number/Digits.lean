/-!
Whole numbers written in digits of a base up to sixteen.
-/

namespace AggregateGateway

/-- What a digit of a base up to sixteen counts. -/
def baseDigit? (base : Nat) (c : Char) : Option Nat :=
  let n := if c.isDigit then c.toNat - '0'.toNat
    else if 'a' ≤ c ∧ c ≤ 'f' then c.toNat - 'a'.toNat + 10
    else if 'A' ≤ c ∧ c ≤ 'F' then c.toNat - 'A'.toNat + 10
    else base
  if n < base then some n else none

/-- The number that digits of a base write, if there are any and it is below `bound`. -/
def digitsValue? (base bound : Nat) (digits : List Char) : Option Nat :=
  if digits.isEmpty then none
  else (digits.foldlM (fun n c => (baseDigit? base c).map (n * base + ·)) 0).filter (· < bound)

/-- Text without a plus sign in front. -/
def withoutPlus : List Char → List Char
  | '+' :: rest => rest
  | chars => chars

end AggregateGateway
