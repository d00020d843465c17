import AggregateGateway.Json.Numeral
import AggregateGateway.Json.Writer

/-!
Numerals that are read as the number they were written for: those of integers that 64 bits hold.
-/

namespace AggregateGateway.Json

/-! ### Digits -/

/-- Digits that all fit are taken, up to what is no digit. -/
theorem takeDigits_append {digits rest : List Char} (hdigits : ∀ c ∈ digits, isDigit c = true)
    (hrest : ∀ c ∈ rest.head?, isDigit c = false) (significand count : Nat)
    (h : Nat.ofDigitChars 10 digits significand ≤ maxSignificand) :
    takeDigits (digits ++ rest) significand count =
      (Nat.ofDigitChars 10 digits significand, count + digits.length, rest) := by
  induction digits generalizing significand count with
  | nil =>
    cases rest with
    | nil => rfl
    | cons c rest => simp [takeDigits, hrest c rfl]
  | cons c digits ih =>
    have hvalue : 10 * significand + (c.toNat - '0'.toNat) = significand * 10 + digitValue c := by
      rw [digitValue, Nat.mul_comm]
    rw [Nat.ofDigitChars_cons, hvalue] at h ⊢
    have hfits : significand * 10 + digitValue c ≤ maxSignificand := by
      refine Nat.le_trans ?_ h
      rw [Nat.ofDigitChars_eq_ofDigitChars_zero]
      have hpow : 0 < 10 ^ digits.length := Nat.pow_pos (by decide)
      exact Nat.le_trans (Nat.le_mul_of_pos_left _ hpow) (Nat.le_add_right _ _)
    rw [List.cons_append, takeDigits, if_pos (by simp [hdigits c, hfits]),
      ih (fun c hc => hdigits c (List.mem_cons_of_mem _ hc)) _ _ h]
    simp [Nat.add_comm, Nat.add_left_comm]

/-- Only zero begins with a zero. -/
theorem toDigits_eq_zero_cons {n : Nat} {digits : List Char} (h : Nat.toDigits 10 n = '0' :: digits) : digits = [] := by
  induction n using Nat.strongRecOn generalizing digits with
  | ind n ih =>
    rw [Nat.toDigits_eq_if (by decide)] at h
    split at h
    · exact (List.cons.inj h).2.symm
    · next hge =>
      obtain ⟨c, others, hcons⟩ := List.exists_cons_of_ne_nil (Nat.toDigits_ne_nil (n := n / 10) (b := 10))
      rw [hcons, List.cons_append] at h
      obtain ⟨rfl, -⟩ := List.cons.inj h
      have hothers := ih (n / 10) (by omega) hcons
      have hzero := Nat.ofDigitChars_ten_toDigits (n := n / 10)
      rw [hcons, hothers] at hzero
      simp [Nat.ofDigitChars_cons] at hzero
      omega

/-! ### Numerals -/

/-- A character with which a numeral may begin. -/
def StartsNumeral (c : Char) : Prop := c = '-' ∨ isDigit c = true

instance (c : Char) : Decidable (StartsNumeral c) := inferInstanceAs (Decidable (c = '-' ∨ isDigit c = true))

theorem StartsNumeral.ne {c other : Char} (h : StartsNumeral c) (hother : ¬StartsNumeral other) : c ≠ other := by
  rintro rfl
  exact hother h

/-- What follows a numeral does not go on with it. -/
def EndsNumeral (rest : List Char) : Prop := ∀ c ∈ rest.head?, isDigit c = false ∧ c ≠ '.' ∧ c ≠ 'e' ∧ c ≠ 'E'

/-- The text of a number is read as that number. -/
def Number.ReadsBack (number : Number) : Prop :=
  ∀ rest, EndsNumeral rest → readNumeral (number.toText.toList ++ rest) = some (number, rest)

/-- What is read as a numeral begins with a sign or a digit. -/
theorem readNumeral_starts {chars : List Char} (h : (readNumeral chars).isSome = true) :
    ∃ c rest, chars = c :: rest ∧ StartsNumeral c := by
  cases chars with
  | nil => cases h
  | cons c rest =>
    refine ⟨c, rest, rfl, ?_⟩
    by_cases hminus : c = '-'
    · exact .inl hminus
    refine .inr ?_
    unfold readNumeral at h
    split at h
    next sign chars heq =>
      split at heq
      · next hchars => exact absurd (List.cons.inj hchars).1 hminus
      · cases heq
        cases hdigit : isDigit c with
        | true => rfl
        | false => simp [hdigit] at h

theorem Number.ReadsBack.starts {number : Number} (h : number.ReadsBack) :
    ∃ c rest, number.toText.toList = c :: rest ∧ StartsNumeral c := by
  have hread := h [] (by simp [EndsNumeral])
  rw [List.append_nil] at hread
  exact readNumeral_starts (by rw [hread]; rfl)

theorem EndsNumeral.skipDigits {rest : List Char} (h : EndsNumeral rest) : skipDigits rest 0 = (0, rest) := by
  cases rest with
  | nil => rfl
  | cons c rest => simp [Json.skipDigits, (h c rfl).1]

/-- The digits of a number and nothing that goes on with them are a whole number. -/
theorem readNumeral_digits {n : Nat} (hn : n ≤ maxSignificand) {rest : List Char} (hrest : EndsNumeral rest)
    (negative : Bool) :
    readNumeral ((if negative then ['-'] else []) ++ (Nat.toDigits 10 n ++ rest)) =
      (wholeNumber negative n).map fun number => (number, rest) := by
  have hvalue : Nat.ofDigitChars 10 (Nat.toDigits 10 n) 0 = n := Nat.ofDigitChars_ten_toDigits
  have hdigits : ∀ c ∈ Nat.toDigits 10 n, isDigit c = true := fun c hc =>
    Nat.isDigit_of_mem_toDigits (by decide) (by decide) hc
  have htake := takeDigits_append hdigits (fun c hc => (hrest c hc).1) 0 0 (by rw [hvalue]; exact hn)
  rw [hvalue] at htake
  obtain ⟨c, digits, hcons⟩ := List.exists_cons_of_ne_nil (Nat.toDigits_ne_nil (n := n) (b := 10))
  have hzero : ¬(c = '0' ∧ ((digits ++ rest).head?.map isDigit).getD false = true) := by
    rintro ⟨rfl, hhead⟩
    rw [toDigits_eq_zero_cons hcons, List.nil_append] at hhead
    cases hr : rest.head? with
    | none => simp [hr] at hhead
    | some d => simp [hr, (hrest d hr).1] at hhead
  have hc : isDigit c = true := hdigits c (by simp [hcons])
  rw [hcons, List.cons_append] at htake ⊢
  have hsign : c ≠ '-' := by
    rintro rfl
    cases hc
  unfold readNumeral
  split
  next sign chars heq =>
    -- With its sign or without, what is read next begins with the first digit.
    obtain ⟨rfl, rfl⟩ : sign = negative ∧ chars = c :: (digits ++ rest) := by
      split at heq
      · cases negative <;> simp_all
      · cases negative <;> simp_all
    simp only [hc, not_true_eq_false, if_false, if_neg hzero, htake, hrest.skipDigits, Nat.lt_irrefl]
    cases rest with
    | nil => rfl
    | cons d others =>
      obtain ⟨-, hpoint, hlower, hupper⟩ := hrest d rfl
      simp [hpoint, hlower, hupper]

theorem Number.readsBack_integer {value : Int} (h : -(Nat.pow 2 63 : Nat) ≤ value)
    (h' : value < (Nat.pow 2 64 : Nat)) :
    (Number.integer value).ReadsBack := by
  intro rest hrest
  have hmax : maxSignificand = 18446744073709551615 := rfl
  have hlow : Nat.pow 2 63 = 9223372036854775808 := rfl
  have hhigh : Nat.pow 2 64 = 18446744073709551616 := rfl
  rw [Number.toText, Int.toString_eq_repr, Int.repr_eq_if]
  split
  case isTrue hpos =>
    have hread := readNumeral_digits (n := value.toNat) (by omega) hrest false
    simp only [wholeNumber] at hread
    simpa [Nat.repr_eq_ofList_toDigits, Int.toNat_of_nonneg hpos] using hread
  case isFalse hneg =>
    have hread := readNumeral_digits (n := (-value).toNat) (by omega) hrest true
    have hvalue : -(((-value).toNat : Nat) : Int) = value := by omega
    have hbound : 0 < (-value).toNat ∧ (-value).toNat ≤ Nat.pow 2 63 := by
      omega
    simp only [wholeNumber, if_pos hbound, hvalue] at hread
    simpa [Nat.repr_eq_ofList_toDigits] using hread

end AggregateGateway.Json
