import AggregateGateway.Text.Split
import Mathlib.Data.String.Basic

/-!
Splitting at one character, at its first place or at all. The pieces of a list are those of `List.splitOn`, and what
`String.splitOn` gives are the pieces of the characters of the string.
-/

namespace AggregateGateway.Text

theorem pieces_eq_splitOn (separator : Char) (chars : List Char) : pieces separator chars = chars.splitOn separator := by
  induction chars with
  | nil => rfl
  | cons c rest ih =>
    rw [pieces, List.splitOn_cons_eq_if_modifyHead, ih]
    by_cases h : c = separator
    · rw [if_pos h, if_pos (by simpa using h)]
    · rw [if_neg h, if_neg (by simpa using h)]
      cases hpieces : List.splitOn separator rest with
      | nil => exact absurd hpieces (List.splitOn_ne_nil separator rest)
      | cons piece others => rfl

theorem splitFirst?_append {separator : Char} {before : List Char} (h : separator ∉ before) (behind : List Char) :
    splitFirst? separator (before ++ separator :: behind) = some (before, behind) := by
  induction before with
  | nil => simp [splitFirst?]
  | cons c before ih =>
    obtain ⟨hc, hbefore⟩ := not_or.mp (mt List.mem_cons.mpr h)
    rw [List.cons_append, splitFirst?, if_neg (Ne.symm hc), ih hbefore]
    rfl

theorem splitFirst?_of_not_mem {separator : Char} {chars : List Char} (h : separator ∉ chars) :
    splitFirst? separator chars = none := by
  induction chars with
  | nil => rfl
  | cons c rest ih =>
    obtain ⟨hc, hrest⟩ := not_or.mp (mt List.mem_cons.mpr h)
    rw [splitFirst?, if_neg (Ne.symm hc), ih hrest]
    rfl

/-- Characters in front of the first piece. -/
def prepend (chars : List Char) : List (List Char) → List (List Char)
  | [] => [chars]
  | piece :: others => (chars ++ piece) :: others

theorem prepend_nil {ps : List (List Char)} (h : ps ≠ []) : prepend [] ps = ps := by
  cases ps with
  | nil => exact absurd rfl h
  | cons piece others => rfl

theorem prepend_pieces_cons {separator c : Char} (h : c ≠ separator) (chars rest : List Char) :
    prepend chars (pieces separator (c :: rest)) = prepend (chars ++ [c]) (pieces separator rest) := by
  rw [pieces, if_neg h]
  cases pieces separator rest <;> simp [prepend]

/-- The loop of `String.splitOn` after the characters of `passed`, which are done with, and those of `piece`. -/
theorem splitOnAux_of_valid (separator : Char) (passed piece rest : List Char) (acc : List String) :
    String.splitOnAux (String.ofList (passed ++ piece ++ rest)) (String.singleton separator) ⟨String.utf8Len passed⟩
        ⟨String.utf8Len passed + String.utf8Len piece⟩ 0 acc =
      acc.reverse ++ (prepend piece (pieces separator rest)).map String.ofList := by
  induction rest generalizing passed piece acc with
  | nil =>
    have hextract := String.extract_of_valid passed piece []
    rw [String.splitOnAux, if_pos (by simp [String.rawEndPos_ofList, -String.ofList_append])]
    simp only [hextract, List.reverse_cons]
    simp [pieces, prepend]
  | cons c rest ih =>
    have hget := String.get_of_valid (passed ++ piece) (c :: rest)
    have hnext := String.next_of_valid (passed ++ piece) c rest
    have hextract := String.extract_of_valid passed piece (c :: rest)
    have hseparator : String.Pos.Raw.get (String.singleton separator) 0 = separator :=
      String.get_of_valid [] [separator]
    have hpast : String.Pos.Raw.next (String.singleton separator) 0 = ⟨separator.utf8Size⟩ := by
      simpa using String.next_of_valid [] separator []
    have hopen : ¬String.Pos.Raw.atEnd (String.ofList (passed ++ piece ++ c :: rest))
        ⟨String.utf8Len passed + String.utf8Len piece⟩ = true := by
      have hsize := c.utf8Size_pos
      simp only [String.atEnd_iff, String.rawEndPos_ofList, String.utf8Len_append, String.utf8Len_cons,
        String.Pos.Raw.mk_le_mk]
      omega
    rw [String.utf8Len_append] at hget hnext
    rw [String.splitOnAux, if_neg hopen, hget, hnext, hseparator]
    by_cases h : c = separator
    · subst h
      have hdone : String.Pos.Raw.atEnd (String.singleton c) ⟨c.utf8Size⟩ = true := by
        simp [String.rawEndPos]
      have hback : String.Pos.Raw.unoffsetBy ⟨String.utf8Len passed + String.utf8Len piece + c.utf8Size⟩
          ⟨c.utf8Size⟩ = ⟨String.utf8Len passed + String.utf8Len piece⟩ := by
        simp [String.Pos.Raw.unoffsetBy]
      have hnext' := ih (passed ++ piece ++ [c]) [] (String.ofList piece :: acc)
      rw [prepend_nil (pieces_ne_nil c rest)] at hnext'
      simp only [List.headD_cons, beq_self_eq_true, if_true, hpast, hdone, hback, hextract]
      simpa [pieces, prepend, -String.ofList_append, Nat.add_assoc] using hnext'
    · have hnext' := ih passed (piece ++ [c]) acc
      have hback : String.Pos.Raw.unoffsetBy ⟨String.utf8Len passed + String.utf8Len piece⟩ 0 =
          ⟨String.utf8Len passed + String.utf8Len piece⟩ := rfl
      simp only [List.headD_cons, beq_iff_eq, h, if_false, hback, hnext, prepend_pieces_cons h]
      simpa [-String.ofList_append, Nat.add_assoc] using hnext'

theorem splitOn_singleton (separator : Char) (text : String) :
    text.splitOn (String.singleton separator) = (pieces separator text.toList).map String.ofList := by
  have h := splitOnAux_of_valid separator [] [] text.toList []
  have hne : (String.singleton separator == "") = false := by simp
  rw [String.splitOn, hne, ← prepend_nil (pieces_ne_nil separator text.toList)]
  simpa using h

end AggregateGateway.Text
