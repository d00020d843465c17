/-!
Cutting text at a separator. A text that the separator does not stand in is its own only piece, so the pieces with the
separator between them are always the text again.
-/

namespace AggregateGateway.Text

/-- The text before the first separator and the text behind it. -/
def splitFirst? (separator : Char) : List Char → Option (List Char × List Char)
  | [] => none
  | c :: rest =>
    if c = separator then some ([], rest)
    else (splitFirst? separator rest).map fun (before, behind) => (c :: before, behind)

/-- The pieces between separators. -/
def pieces (separator : Char) : List Char → List (List Char)
  | [] => [[]]
  | c :: rest =>
    if c = separator then [] :: pieces separator rest
    else
      match pieces separator rest with
      | [] => [[c]]
      | piece :: others => (c :: piece) :: others

theorem pieces_ne_nil (separator : Char) (chars : List Char) : pieces separator chars ≠ [] := by
  cases chars with
  | nil => simp [pieces]
  | cons c rest =>
    simp only [pieces]
    split
    · simp
    · split <;> simp

/-- The first piece is what stands before the first separator. -/
theorem head?_pieces (separator : Char) (chars : List Char) :
    (pieces separator chars).head? = some (chars.takeWhile (· ≠ separator)) := by
  induction chars with
  | nil => rfl
  | cons c rest ih =>
    by_cases h : c = separator
    · simp [pieces, h]
    · cases hp : pieces separator rest with
      | nil => exact absurd hp (pieces_ne_nil separator rest)
      | cons piece others =>
        simp only [hp, List.head?_cons, Option.some.injEq] at ih
        simp [pieces, h, hp, ih]

end AggregateGateway.Text
