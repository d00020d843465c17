import AggregateGateway.Number.Binary64

/-!
The decimal text of a binary64 number: the fewest digits that read back as the number and, among those, the digits
nearest to it. The search tries the two neighbours of the number on the decimal grids of one digit, two digits and so
on; seventeen digits always suffice.
-/

namespace AggregateGateway.Binary64

/-- A positive decimal `digits * 10 ^ power`. -/
structure Decimal where
  digits : Nat
  power : Int
deriving DecidableEq, Repr

/-- The power of ten of the leading digit of `num / den`, for `num` and `den` above zero. -/
def leadingPower (num den : Nat) : Int :=
  if den ≤ num then ((Nat.toDigits 10 (num / den)).length : Int) - 1
  else -((Nat.toDigits 10 ((den + num - 1) / num - 1)).length : Int)

/-- The neighbour of `x` on the grid of step `10 ^ power` that reads back as `x`, the nearer one if both do. -/
def gridPoint? (x : Binary64) (power : Int) : Option Nat :=
  let m := x.significand
  -- In quarters of the last place: the number is `4 m`, and what lies between `low` and `high` rounds to it.
  let low := if m = Nat.pow 2 52 ∧ minExponent < x.exponent then 4 * m - 1 else 4 * m - 2
  let high := 4 * m + 2
  let place := x.exponent - 2
  let grid := Nat.pow 10 power.toNat * Nat.pow 2 (-place).toNat
  let quarter := Nat.pow 10 (-power).toNat * Nat.pow 2 place.toNat
  let value := 4 * m * quarter
  let below := value / grid
  let inside (point : Nat) : Bool :=
    if m % 2 = 0 then low * quarter ≤ point * grid && point * grid ≤ high * quarter
    else low * quarter < point * grid && point * grid < high * quarter
  let down := value - below * grid
  let up := (below + 1) * grid - value
  match inside below, inside (below + 1) with
  | true, true => some (if down < up ∨ (down = up ∧ below % 2 = 0) then below else below + 1)
  | true, false => some below
  | false, true => some (below + 1)
  | false, false => none

/-- Drops the trailing zeros of the digits; `fuel` bounds their number. -/
def Decimal.trim : Nat → Decimal → Decimal
  | 0, d => d
  | fuel + 1, d => if d.digits ≠ 0 ∧ d.digits % 10 = 0 then trim fuel ⟨d.digits / 10, d.power + 1⟩ else d

/-- The first grid from `count` digits on, of at most `fuel` grids, that holds a decimal reading back as `x`. -/
def searchShortest (x : Binary64) (leading : Int) : Nat → Nat → Decimal
  | 0, _ => ⟨0, 0⟩
  | fuel + 1, count =>
    let power := leading - count + 1
    match x.gridPoint? power with
    | some digits => Decimal.trim 20 ⟨digits, power⟩
    | none => searchShortest x leading fuel (count + 1)

/-- The shortest decimal that reads back as the absolute value of `x`, nearest to it among the shortest. -/
def shortest (x : Binary64) : Decimal :=
  if x.isZero then ⟨0, 0⟩ else
    let (num, den) := x.toRatio
    searchShortest x (leadingPower num den) 18 1

/-- Positional from `0.00001` up to below `1e+16` and with an exponent outside; a fraction is always shown positionally. -/
def toText (x : Binary64) : String :=
  let sign := if x.negative then "-" else ""
  if x.isZero then sign ++ "0.0" else
    let decimal := x.shortest
    let digits := Nat.toDigits 10 decimal.digits
    let leading : Int := decimal.power + digits.length - 1
    let body : List Char :=
      if leading < -5 ∨ 16 ≤ leading then
        let fraction := if digits.length = 1 then [] else '.' :: digits.drop 1
        let mark := if leading < 0 then ['e', '-'] else ['e', '+']
        digits.take 1 ++ fraction ++ mark ++ Nat.toDigits 10 leading.natAbs
      else if leading < 0 then
        ['0', '.'] ++ List.replicate (-leading - 1).toNat '0' ++ digits
      else
        let whole := leading.toNat + 1
        let padded := digits ++ List.replicate (whole - digits.length) '0'
        padded.take whole ++ '.' :: (if padded.length = whole then ['0'] else padded.drop whole)
    sign ++ String.ofList body

end AggregateGateway.Binary64
