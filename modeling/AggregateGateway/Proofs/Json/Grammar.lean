import AggregateGateway.Json.Reader
import Mathlib.Data.List.Basic

/-!
The grammar of JSON texts. The reader keeps to it: where it reads a value there stands one, so a text that the grammar
does not derive is refused.
-/

namespace AggregateGateway.Json

/-! ### The grammar -/

/-- Blanks, tabs and line breaks. -/
def IsBlank (chars : List Char) : Prop := ∀ c ∈ chars, c = ' ' ∨ c = '\n' ∨ c = '\t' ∨ c = '\r'

/-- Digits, at least one of them. -/
def IsDigits (chars : List Char) : Prop := chars ≠ [] ∧ ∀ c ∈ chars, isDigit c = true

/-- What a numeral may have from its point on. -/
inductive IsFraction : List Char → Prop
  | absent : IsFraction []
  | point {digits : List Char} : IsDigits digits → IsFraction ('.' :: digits)

/-- What a numeral may end with. -/
inductive IsExponent : List Char → Prop
  | absent : IsExponent []
  | power {letter : Char} {sign digits : List Char} : letter = 'e' ∨ letter = 'E' →
      sign ∈ [[], ['+'], ['-']] → IsDigits digits → IsExponent (letter :: sign ++ digits)

/-- Of the digits before the point the first is a zero only if it is alone. -/
inductive IsNumeral : List Char → Prop
  | mk {sign whole fraction exponent : List Char} : sign ∈ [[], ['-']] → IsDigits whole →
      (whole.head? = some '0' → whole = ['0']) → IsFraction fraction → IsExponent exponent →
      IsNumeral (sign ++ whole ++ (fraction ++ exponent))

def IsHexDigit (c : Char) : Prop := isDigit c = true ∨ ('a' ≤ c ∧ c ≤ 'f') ∨ ('A' ≤ c ∧ c ≤ 'F')

/-- What may stand between quotation marks. -/
inductive IsQuotable : List Char → Prop
  | nil : IsQuotable []
  | plain {c : Char} {rest : List Char} : 32 ≤ c.toNat → c ≠ '"' → c ≠ '\\' → IsQuotable rest →
      IsQuotable (c :: rest)
  | escape {c : Char} {rest : List Char} : c ∈ ['"', '\\', '/', 'b', 'f', 'n', 'r', 't'] → IsQuotable rest →
      IsQuotable ('\\' :: c :: rest)
  | unit {a b c d : Char} {rest : List Char} : (∀ digit ∈ [a, b, c, d], IsHexDigit digit) → IsQuotable rest →
      IsQuotable ('\\' :: 'u' :: a :: b :: c :: d :: rest)

/-- The name of a member, up to its colon. -/
inductive IsName : List Char → Prop
  | mk {before name after : List Char} : IsBlank before → IsQuotable name → IsBlank after →
      IsName (before ++ '"' :: (name ++ '"' :: after))

mutual
/-- A value, from its first character to its last. -/
inductive IsValue : List Char → Prop
  | null : IsValue ['n', 'u', 'l', 'l']
  | true : IsValue ['t', 'r', 'u', 'e']
  | false : IsValue ['f', 'a', 'l', 's', 'e']
  | numeral {chars : List Char} : IsNumeral chars → IsValue chars
  | text {chars : List Char} : IsQuotable chars → IsValue ('"' :: (chars ++ ['"']))
  | emptyArray {blank : List Char} : IsBlank blank → IsValue ('[' :: (blank ++ [']']))
  | array {items : List Char} : IsItems items → IsValue ('[' :: (items ++ [']']))
  | emptyObject {blank : List Char} : IsBlank blank → IsValue ('\x7b' :: (blank ++ ['\x7d']))
  | object {members : List Char} : IsMembers members → IsValue ('\x7b' :: (members ++ ['\x7d']))

/-- A value with what may stand around it. -/
inductive IsElement : List Char → Prop
  | mk {before value after : List Char} : IsBlank before → IsValue value → IsBlank after →
      IsElement (before ++ value ++ after)

/-- Values between commas. -/
inductive IsItems : List Char → Prop
  | last {item : List Char} : IsElement item → IsItems item
  | more {item items : List Char} : IsElement item → IsItems items → IsItems (item ++ ',' :: items)

/-- Members between commas. -/
inductive IsMembers : List Char → Prop
  | last {name value : List Char} : IsName name → IsElement value → IsMembers (name ++ ':' :: value)
  | more {name value members : List Char} : IsName name → IsElement value → IsMembers members →
      IsMembers (name ++ ':' :: (value ++ ',' :: members))
end

/-- A JSON text holds one value, and nothing but blanks around it. -/
def IsText (text : String) : Prop := IsElement text.toList

theorem IsValue.ne_nil {chars : List Char} (h : IsValue chars) : chars ≠ [] := by
  cases h with
  | numeral hnumeral =>
    obtain ⟨-, ⟨hwhole, -⟩, -, -, -⟩ := hnumeral
    simp [hwhole]
  | _ => exact List.cons_ne_nil _ _

theorem IsText.ne_empty {text : String} (h : IsText text) : text ≠ "" := by
  rintro rfl
  have hnil : IsElement [] := h
  generalize hchars : ([] : List Char) = chars at hnil
  obtain ⟨-, hvalue, -⟩ := hnil
  simp [hvalue.ne_nil] at hchars

theorem IsBlank.append {chars more : List Char} (h : IsBlank chars) (h' : IsBlank more) : IsBlank (chars ++ more) :=
  List.forall_mem_append.mpr ⟨h, h'⟩

namespace Reader

/-! ### Blanks and texts -/

theorem exists_blank (chars : List Char) : ∃ blank, IsBlank blank ∧ chars = blank ++ skipBlank chars := by
  induction chars with
  | nil => exact ⟨[], nofun, rfl⟩
  | cons c chars ih =>
    rw [skipBlank]
    split
    · next hc =>
      obtain ⟨blank, hblank, hchars⟩ := ih
      exact ⟨c :: blank, List.forall_mem_cons.mpr ⟨hc, hblank⟩, congrArg (c :: ·) hchars⟩
    · exact ⟨[], nofun, rfl⟩

theorem isHexDigit_of_hexValue? {c : Char} {value : Nat} (h : hexValue? c = some value) : IsHexDigit c := by
  unfold hexValue? at h
  split at h
  · next hdigit => exact .inl hdigit
  · split at h
    · next hlower => exact .inr (.inl hlower)
    · split at h
      · next hupper => exact .inr (.inr hupper)
      · cases h

theorem isHexDigit_of_hexUnit? {a b c d : Char} {unit : Nat} (h : hexUnit? a b c d = some unit) :
    ∀ digit ∈ [a, b, c, d], IsHexDigit digit := by
  obtain ⟨_, ha, h⟩ := Option.bind_eq_some_iff.mp h
  obtain ⟨_, hb, h⟩ := Option.bind_eq_some_iff.mp h
  obtain ⟨_, hc, h⟩ := Option.bind_eq_some_iff.mp h
  obtain ⟨_, hd, -⟩ := Option.bind_eq_some_iff.mp h
  simp [isHexDigit_of_hexValue? ha, isHexDigit_of_hexValue? hb, isHexDigit_of_hexValue? hc,
    isHexDigit_of_hexValue? hd]

theorem mem_of_shortEscape? {c e : Char} (h : shortEscape? c = some e) :
    c ∈ ['"', '\\', '/', 'b', 'f', 'n', 'r', 't'] := by
  unfold shortEscape? at h
  simp only [List.mem_cons, List.not_mem_nil, or_false]
  grind

theorem quotable_of_readText {acc text : String} {chars rest : List Char}
    (h : readText acc chars = some (text, rest)) : ∃ quoted, IsQuotable quoted ∧ chars = quoted ++ '"' :: rest := by
  fun_induction readText acc chars with
  | case1 | case3 | case5 | case6 | case8 | case9 | case11 | case12 => cases h
  | case2 =>
    cases h
    exact ⟨[], .nil, rfl⟩
  | case4 acc a b c d chars unit hunit _ ih =>
    obtain ⟨quoted, hquoted, rfl⟩ := ih h
    exact ⟨_, .unit (isHexDigit_of_hexUnit? hunit) hquoted, rfl⟩
  | case7 acc a b c d high hhigh _ _ e f g i chars low hlow _ ih =>
    obtain ⟨quoted, hquoted, rfl⟩ := ih h
    exact ⟨_, .unit (isHexDigit_of_hexUnit? hhigh) (.unit (isHexDigit_of_hexUnit? hlow) hquoted), rfl⟩
  | case10 acc c chars _ e hescape ih =>
    obtain ⟨quoted, hquoted, rfl⟩ := ih h
    exact ⟨_, .escape (mem_of_shortEscape? hescape) hquoted, rfl⟩
  | case13 acc c chars hquote _ _ hplain ih =>
    obtain ⟨quoted, hquoted, rfl⟩ := ih h
    obtain ⟨hcontrol, hbackslash⟩ := not_or.mp hplain
    exact ⟨_, .plain (Nat.not_lt.mp hcontrol) hquote hbackslash hquoted, rfl⟩

end Reader

/-! ### Numerals -/

theorem exists_takeDigits (chars : List Char) (significand count : Nat) :
    ∃ digits significand' rest, (∀ c ∈ digits, isDigit c = true) ∧ chars = digits ++ rest ∧
      takeDigits chars significand count = (significand', count + digits.length, rest) := by
  induction chars generalizing significand count with
  | nil => exact ⟨[], significand, [], nofun, rfl, rfl⟩
  | cons c chars ih =>
    rw [takeDigits]
    split
    · next hc =>
      obtain ⟨digits, significand', rest, hdigits, rfl, htake⟩ := ih (significand * 10 + digitValue c) (count + 1)
      rw [Bool.and_eq_true] at hc
      refine ⟨c :: digits, significand', rest, List.forall_mem_cons.mpr ⟨hc.1, hdigits⟩, rfl, ?_⟩
      rw [htake, List.length_cons, Nat.add_assoc, Nat.add_comm 1]
    · exact ⟨[], significand, c :: chars, nofun, rfl, rfl⟩

theorem exists_skipDigits (chars : List Char) (count : Nat) :
    ∃ digits rest, (∀ c ∈ digits, isDigit c = true) ∧ (∀ c ∈ rest.head?, isDigit c = false) ∧
      chars = digits ++ rest ∧ skipDigits chars count = (count + digits.length, rest) := by
  induction chars generalizing count with
  | nil => exact ⟨[], [], nofun, nofun, rfl, rfl⟩
  | cons c chars ih =>
    rw [skipDigits]
    split
    · next hc =>
      obtain ⟨digits, rest, hdigits, hrest, rfl, hskip⟩ := ih (count + 1)
      refine ⟨c :: digits, rest, List.forall_mem_cons.mpr ⟨hc, hdigits⟩, hrest, rfl, ?_⟩
      rw [hskip, List.length_cons, Nat.add_assoc, Nat.add_comm 1]
    · next hc => exact ⟨[], c :: chars, nofun, by simpa using hc, rfl, rfl⟩

/-- Digits are passed to their end, those that fit and those that do not. -/
theorem exists_digits (chars : List Char) (significand : Nat) :
    ∃ digits rest significand' count between dropped, (∀ c ∈ digits, isDigit c = true) ∧
      (∀ c ∈ rest.head?, isDigit c = false) ∧ chars = digits ++ rest ∧
      takeDigits chars significand 0 = (significand', count, between) ∧ skipDigits between 0 = (dropped, rest) ∧
      digits.length = count + dropped := by
  obtain ⟨taken, significand', between, htaken, rfl, htake⟩ := exists_takeDigits chars significand 0
  obtain ⟨skipped, rest, hskipped, hrest, rfl, hskip⟩ := exists_skipDigits between 0
  exact ⟨taken ++ skipped, rest, significand', _, _, _, List.forall_mem_append.mpr ⟨htaken, hskipped⟩, hrest,
    (List.append_assoc ..).symm, htake, hskip, by simp⟩

/-- Whatever a power makes of a number, it ends behind its digits. -/
theorem rest_of_power {digits after rest : List Char} {large vast : Prop} [Decidable large] [Decidable vast]
    {zero number : Number} {scaled : Option Binary64}
    (h : (if digits.isEmpty = true then none else if large then if vast then none else some (zero, after)
      else scaled.map fun x => (.real x, after)) = some (number, rest)) : digits ≠ [] ∧ rest = after := by
  split at h
  · cases h
  · next hdigits =>
    refine ⟨by simpa using hdigits, ?_⟩
    split at h
    · split at h
      · cases h
      · cases h
        rfl
    · obtain ⟨_, -, heq⟩ := Option.map_eq_some_iff.mp h
      cases heq
      rfl

theorem isExponent_power {letter : Char} {chars : List Char} (sign : List Char) (hletter : letter = 'e' ∨ letter = 'E')
    (hsign : sign ∈ [[], ['+'], ['-']]) (h : chars.takeWhile isDigit ≠ []) :
    ∃ exponent, IsExponent exponent ∧ letter :: (sign ++ chars) = exponent ++ chars.dropWhile isDigit := by
  have hdigits : IsDigits (chars.takeWhile isDigit) :=
    ⟨h, fun c hc => List.all_eq_true.mp List.all_takeWhile c hc⟩
  exact ⟨_, .power hletter hsign hdigits, by simp⟩

theorem tail_of_readFraction {negative : Bool} {significand : Nat} {power : Int} {chars rest : List Char}
    {number : Number} (h : readFraction negative significand power chars = some (number, rest)) :
    ∃ fraction exponent, IsFraction fraction ∧ IsExponent exponent ∧ chars = fraction ++ exponent ++ rest := by
  unfold readFraction at h
  extract_lets readPower at h
  have hpower : ∀ significand power after, readPower (significand, power, after) = some (number, rest) →
      ∃ exponent, IsExponent exponent ∧ after = exponent ++ rest := by
    intro significand power after hread
    dsimp only [readPower] at hread
    split at hread
    · split at hread
      · next hletter =>
        split at hread
        · obtain ⟨hdigits, rfl⟩ := rest_of_power hread
          exact isExponent_power ['+'] hletter (by simp) hdigits
        · obtain ⟨hdigits, rfl⟩ := rest_of_power hread
          exact isExponent_power ['-'] hletter (by simp) hdigits
        · obtain ⟨hdigits, rfl⟩ := rest_of_power hread
          exact isExponent_power [] hletter (by simp) hdigits
      · obtain ⟨_, -, heq⟩ := Option.map_eq_some_iff.mp hread
        cases heq
        exact ⟨[], .absent, rfl⟩
    · obtain ⟨_, -, heq⟩ := Option.map_eq_some_iff.mp hread
      cases heq
      exact ⟨[], .absent, rfl⟩
  clear_value readPower
  split at h
  · next chars =>
    obtain ⟨digits, after, _, count, between, dropped, hdigits, -, rfl, htake, hskip, hlength⟩ :=
      exists_digits chars significand
    simp only [htake, hskip] at h
    split at h
    · cases h
    · next hsome =>
      obtain ⟨exponent, hexponent, rfl⟩ := hpower _ _ _ h
      have hne : digits ≠ [] := fun hnil => hsome (by rw [← hlength, hnil]; rfl)
      exact ⟨_, exponent, .point ⟨hne, hdigits⟩, hexponent, by simp⟩
  · obtain ⟨exponent, hexponent, rfl⟩ := hpower _ _ _ h
    exact ⟨[], exponent, .absent, hexponent, rfl⟩

/-- Where a digit stands, and no zero before another, the digits from there on may stand before a point. -/
theorem whole_of_start {c : Char} {others whole after : List Char} (hdigit : isDigit c = true)
    (hzero : ¬(c = '0' ∧ (others.head?.map isDigit).getD false = true)) (hwhole : ∀ d ∈ whole, isDigit d = true)
    (hafter : ∀ d ∈ after.head?, isDigit d = false) (h : c :: others = whole ++ after) :
    whole ≠ [] ∧ (whole.head? = some '0' → whole = ['0']) := by
  cases whole with
  | nil =>
    rw [List.nil_append] at h
    rw [← h, List.head?_cons] at hafter
    exact absurd (hafter c rfl) (by rw [hdigit]; decide)
  | cons first more =>
    obtain ⟨rfl, rfl⟩ := List.cons.inj h
    refine ⟨by simp, fun hfirst => ?_⟩
    obtain rfl : c = '0' := Option.some.inj hfirst
    cases more with
    | nil => rfl
    | cons second more => exact absurd ⟨rfl, by simp [hwhole second]⟩ hzero

theorem numeral_of_readNumeral {chars rest : List Char} {number : Number}
    (h : readNumeral chars = some (number, rest)) : ∃ numeral, IsNumeral numeral ∧ chars = numeral ++ rest := by
  unfold readNumeral at h
  split at h
  next negative unsigned hsplit =>
  obtain ⟨sign, hsign, rfl⟩ : ∃ sign ∈ [[], ['-']], chars = sign ++ unsigned := by
    split at hsplit
    · cases hsplit
      exact ⟨['-'], by simp, rfl⟩
    · cases hsplit
      exact ⟨[], by simp, rfl⟩
  clear hsplit
  split at h
  · cases h
  · next c others =>
    split at h
    · cases h
    · next hdigit =>
      split at h
      · cases h
      · next hzero =>
        obtain ⟨whole, after, significand, count, between, dropped, hwhole, hafter, hchars, htake, hskip, -⟩ :=
          exists_digits (c :: others) 0
        simp only [htake, hskip] at h
        obtain ⟨fraction, exponent, hfraction, hexponent, rfl⟩ : ∃ fraction exponent, IsFraction fraction ∧
            IsExponent exponent ∧ after = fraction ++ exponent ++ rest := by
          split at h
          · exact tail_of_readFraction h
          · split at h
            · split at h
              · exact tail_of_readFraction h
              · obtain ⟨_, -, heq⟩ := Option.map_eq_some_iff.mp h
                cases heq
                exact ⟨[], [], .absent, .absent, rfl⟩
            · obtain ⟨_, -, heq⟩ := Option.map_eq_some_iff.mp h
              cases heq
              exact ⟨[], [], .absent, .absent, rfl⟩
        obtain ⟨hone, halone⟩ := whole_of_start (by simpa using hdigit) hzero hwhole hafter hchars
        exact ⟨_, .mk hsign ⟨hone, hwhole⟩ halone hfraction hexponent, by rw [hchars]; simp⟩

/-! ### Values -/

/-- What stands before a closing bracket or brace, where parts are still to come: the first of them, or one behind a
comma. -/
inductive Closes (IsParts : List Char → Prop) : Bool → List Char → Prop
  | blank {first : Bool} {chars : List Char} : IsBlank chars → Closes IsParts first chars
  | first {chars : List Char} : IsParts chars → Closes IsParts true chars
  | later {blank chars : List Char} : IsBlank blank → IsParts chars → Closes IsParts false (blank ++ ',' :: chars)

theorem IsItems.cons {before value tail : List Char} (hbefore : IsBlank before) (hvalue : IsValue value)
    (htail : Closes IsItems false tail) : IsItems (before ++ value ++ tail) := by
  cases htail with
  | blank hblank => exact .last (.mk hbefore hvalue hblank)
  | later hblank hitems =>
    have hitem := IsItems.more (.mk hbefore hvalue hblank) hitems
    simpa using hitem

theorem IsMembers.cons {name before value tail : List Char} (hname : IsName name) (hbefore : IsBlank before)
    (hvalue : IsValue value) (htail : Closes IsMembers false tail) :
    IsMembers (name ++ ':' :: (before ++ value ++ tail)) := by
  cases htail with
  | blank hblank => exact .last hname (.mk hbefore hvalue hblank)
  | later hblank hmembers =>
    have hmember := IsMembers.more hname (.mk hbefore hvalue hblank) hmembers
    simpa using hmember

namespace Reader

theorem value_of_readScalar {chars rest : List Char} {value : Value} (h : readScalar chars = some (value, rest)) :
    ∃ scalar, IsValue scalar ∧ chars = scalar ++ rest := by
  rw [readScalar.eq_def] at h
  split at h
  · obtain ⟨⟨text, after⟩, htext, heq⟩ := Option.map_eq_some_iff.mp h
    cases heq
    obtain ⟨quoted, hquoted, rfl⟩ := quotable_of_readText htext
    exact ⟨_, .text hquoted, by simp⟩
  · obtain ⟨after, hword, heq⟩ := Option.map_eq_some_iff.mp h
    cases heq
    exact ⟨_, .null, by simp [← List.append_eq_of_isPrefixOf?_eq_some hword]⟩
  · obtain ⟨after, hword, heq⟩ := Option.map_eq_some_iff.mp h
    cases heq
    exact ⟨_, .true, by simp [← List.append_eq_of_isPrefixOf?_eq_some hword]⟩
  · obtain ⟨after, hword, heq⟩ := Option.map_eq_some_iff.mp h
    cases heq
    exact ⟨_, .false, by simp [← List.append_eq_of_isPrefixOf?_eq_some hword]⟩
  · obtain ⟨⟨number, after⟩, hnumber, heq⟩ := Option.map_eq_some_iff.mp h
    cases heq
    obtain ⟨numeral, hnumeral, rfl⟩ := numeral_of_readNumeral hnumber
    exact ⟨numeral, .numeral hnumeral, rfl⟩

/-- What is read in so many steps is written by the grammar. -/
structure ReadsWritten (fuel : Nat) : Prop where
  value : ∀ depth chars value rest, readValue fuel depth .any chars = .ok (value, rest) →
    ∃ before written, IsBlank before ∧ IsValue written ∧ chars = before ++ written ++ rest
  items : ∀ depth first acc chars value rest, readItems fuel depth first acc chars = .ok (value, rest) →
    ∃ items, Closes IsItems first items ∧ chars = items ++ ']' :: rest
  members : ∀ depth first acc chars members rest,
    readMembers fuel depth (everyMember .any) first acc chars = .ok (members, rest) →
    ∃ members, Closes IsMembers first members ∧ chars = members ++ '\x7d' :: rest

namespace ReadsWritten

variable {fuel depth : Nat} {first : Bool} {acc : List Value} {given : List (String × Value)}
  {chars rest : List Char} {value : Value}

theorem value_succ (ih : ReadsWritten fuel) (h : readValue (fuel + 1) depth .any chars = .ok (value, rest)) :
    ∃ before written, IsBlank before ∧ IsValue written ∧ chars = before ++ written ++ rest := by
  obtain ⟨before, hbefore, hchars⟩ := exists_blank chars
  rw [readValue.eq_def] at h
  dsimp only at h
  split at h
  · next hskip =>
    split at h
    · cases h
    · obtain ⟨items, hitems, rfl⟩ := ih.items _ _ _ _ _ _ h
      rw [hchars, hskip]
      cases hitems with
      | blank hblank => exact ⟨before, _, hbefore, .emptyArray hblank, by simp⟩
      | first hitems => exact ⟨before, _, hbefore, .array hitems, by simp⟩
  · next hskip =>
    split at h
    · cases h
    · split at h
      · next hread =>
        cases h
        obtain ⟨members, hmembers, rfl⟩ := ih.members _ _ _ _ _ _ hread
        rw [hchars, hskip]
        cases hmembers with
        | blank hblank => exact ⟨before, _, hbefore, .emptyObject hblank, by simp⟩
        | first hmembers => exact ⟨before, _, hbefore, .object hmembers, by simp⟩
      · cases h
  · split at h
    · next hscalar =>
      cases h
      obtain ⟨scalar, hvalue, hskip⟩ := value_of_readScalar hscalar
      exact ⟨before, scalar, hbefore, hvalue, by rw [List.append_assoc, ← hskip]; exact hchars⟩
    · cases h
  -- No other shape is that of any value.
  all_goals contradiction

theorem items_succ (ih : ReadsWritten fuel)
    (h : readItems (fuel + 1) depth first acc chars = .ok (value, rest)) :
    ∃ items, Closes IsItems first items ∧ chars = items ++ ']' :: rest := by
  obtain ⟨before, hbefore, hchars⟩ := exists_blank chars
  rw [readItems.eq_def] at h
  dsimp only at h
  split at h
  · next hskip =>
    cases h
    exact ⟨before, .blank hbefore, by rw [← hskip]; exact hchars⟩
  · split at h
    · next hread =>
      obtain ⟨between, written, hbetween, hvalue, hskip⟩ := ih.value _ _ _ _ hread
      obtain ⟨items, hitems, rfl⟩ := ih.items _ _ _ _ _ _ h
      rw [hchars, hskip]
      exact ⟨_, .first (.cons (hbefore.append hbetween) hvalue hitems), by simp⟩
    · cases h
  · next hskip =>
    cases h
    exact ⟨before, .blank hbefore, by rw [← hskip]; exact hchars⟩
  · next hskip =>
    split at h
    · next hread =>
      obtain ⟨between, written, hbetween, hvalue, rfl⟩ := ih.value _ _ _ _ hread
      obtain ⟨items, hitems, rfl⟩ := ih.items _ _ _ _ _ _ h
      rw [hchars, hskip]
      exact ⟨_, .later hbefore (.cons hbetween hvalue hitems), by simp⟩
    · cases h
  · cases h

theorem members_succ (ih : ReadsWritten fuel) {read : List (String × Value)}
    (h : readMembers (fuel + 1) depth (everyMember .any) first given chars = .ok (read, rest)) :
    ∃ members, Closes IsMembers first members ∧ chars = members ++ '\x7d' :: rest := by
  obtain ⟨before, hbefore, hchars⟩ := exists_blank chars
  rw [readMembers.eq_def] at h
  dsimp only at h
  split at h
  · next hstart =>
    split at h
    · next hbrace =>
      cases h
      refine ⟨before, .blank hbefore, ?_⟩
      split at hstart
      · rw [← Option.some.inj hstart]
        exact hchars
      · next hskip => simp [hskip] at hbrace
      · next hskip =>
        rw [← Option.some.inj hstart, ← hskip]
        exact hchars
      · cases hstart
    · cases h
  · next hstart =>
    split at h
    · cases h
    · next text after htext =>
      obtain ⟨name, hname, rfl⟩ := quotable_of_readText htext
      obtain ⟨blank, hblank, hafter⟩ := exists_blank after
      simp only [everyMember] at h
      split at h
      · next hcolon =>
        split at h
        · next hread =>
          obtain ⟨between, written, hbetween, hvalue, rfl⟩ := ih.value _ _ _ _ hread
          obtain ⟨tail, htail, rfl⟩ := ih.members _ _ _ _ _ _ h
          rw [hcolon] at hafter
          -- The name stands at once, or behind a comma and more blanks.
          split at hstart
          · rw [hchars, Option.some.inj hstart, hafter]
            exact ⟨_, .first (.cons (.mk hbefore hname hblank) hbetween hvalue htail), by simp⟩
          · next more hskip =>
            obtain ⟨lead, hlead, hmore⟩ := exists_blank more
            rw [hchars, hskip, hmore, Option.some.inj hstart, hafter]
            exact ⟨_, .later hbefore (.cons (.mk hlead hname hblank) hbetween hvalue htail), by simp⟩
          · cases hstart
          · cases hstart
        · cases h
      · cases h
  · cases h

end ReadsWritten

theorem readsWritten (fuel : Nat) : ReadsWritten fuel := by
  induction fuel with
  | zero =>
    constructor
    case value =>
      intro depth chars value rest h
      rw [readValue] at h
      cases h
    case items =>
      intro depth first acc chars value rest h
      rw [readItems] at h
      cases h
    case members =>
      intro depth first acc chars members rest h
      rw [readMembers] at h
      cases h
  | succ fuel ih =>
    exact ⟨fun _ _ _ _ => ih.value_succ, fun _ _ _ _ _ _ => ih.items_succ, fun _ _ _ _ _ _ => ih.members_succ⟩

end Reader

/-- A text that is read as one value is a JSON text. -/
theorem Value.isText_of_parse? {text : String} {value : Value} (h : parse? text = some value) : IsText text := by
  rw [parse?, Shape.read] at h
  split at h
  · next rest hread =>
    split at h
    · next hrest =>
      obtain ⟨before, written, hbefore, hwritten, hchars⟩ := (Reader.readsWritten _).value _ _ _ _ hread
      obtain ⟨after, hafter, hblank⟩ := Reader.exists_blank rest
      rw [List.isEmpty_iff.mp hrest, List.append_nil] at hblank
      rw [IsText, hchars, hblank]
      exact .mk hbefore hwritten hafter
    · cases h
  · cases h

/-- A text of another form is refused. -/
theorem Value.parse?_of_not_isText {text : String} (h : ¬IsText text) : parse? text = none :=
  Option.eq_none_iff_forall_ne_some.mpr fun _ hvalue => h (isText_of_parse? hvalue)

end AggregateGateway.Json
