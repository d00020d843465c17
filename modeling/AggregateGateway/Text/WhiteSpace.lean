/-!
White space at the ends of a text. A character is white space if it has the Unicode property of that name.
-/

namespace AggregateGateway.Text

/-- The Unicode property White_Space. -/
def isWhiteSpace (c : Char) : Bool :=
  let n := c.toNat
  (0x09 ≤ n && n ≤ 0x0D) || n = 0x20 || n = 0x85 || n = 0xA0 || n = 0x1680 || (0x2000 ≤ n && n ≤ 0x200A) ||
    n = 0x2028 || n = 0x2029 || n = 0x202F || n = 0x205F || n = 0x3000

/-- Characters without the white space at the end. -/
def trimEnd (chars : List Char) : List Char := (chars.reverse.dropWhile isWhiteSpace).reverse

/-- Characters without the white space at both ends. -/
def trimChars (chars : List Char) : List Char := trimEnd (chars.dropWhile isWhiteSpace)

/-- A text without the white space at both ends. -/
def trim (text : String) : String := String.ofList (trimChars text.toList)

/-- Text without white space at either end stays as it is. -/
theorem trimChars_eq_self {chars : List Char} (first : ∀ c ∈ chars.head?, isWhiteSpace c = false)
    (last : ∀ c ∈ chars.getLast?, isWhiteSpace c = false) : trimChars chars = chars := by
  have keep : ∀ l : List Char, (∀ c ∈ l.head?, isWhiteSpace c = false) → l.dropWhile isWhiteSpace = l := by
    intro l h
    cases l with
    | nil => rfl
    | cons c rest => simp [h c rfl]
  rw [trimChars, keep chars first, trimEnd, keep chars.reverse (by simpa using last), List.reverse_reverse]

end AggregateGateway.Text
