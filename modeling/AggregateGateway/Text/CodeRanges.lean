/-!
Sets of code points as tables of ranges.
-/

namespace AggregateGateway.Text

/-- Ascending ranges of code points with both ends included. -/
abbrev CodeRanges := Array (Nat × Nat)

namespace CodeRanges

/-- Looks for a code point among the ranges between two positions; `fuel` bounds the halvings. -/
def containsBetween (ranges : CodeRanges) (code : Nat) : Nat → Nat → Nat → Bool
  | 0, _, _ => false
  | fuel + 1, low, high =>
    if high ≤ low then false else
      let middle := (low + high) / 2
      match ranges[middle]? with
      | none => false
      | some (first, last) =>
        if code < first then containsBetween ranges code fuel low middle
        else if last < code then containsBetween ranges code fuel (middle + 1) high
        else true

/-- Whether one of the ranges holds a code point. -/
def contains (ranges : CodeRanges) (code : Nat) : Bool :=
  containsBetween ranges code (ranges.size.log2 + 1) 0 ranges.size

end CodeRanges

end AggregateGateway.Text
