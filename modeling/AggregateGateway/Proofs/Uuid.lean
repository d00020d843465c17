import AggregateGateway.Uuid

/-!
Reading a UUID undoes writing it. The written form is the hyphenated one: thirty-six characters, and without its
hyphens the digits in their order.
-/

namespace AggregateGateway.Uuid

theorem digit?_digitChar (d : Fin 16) : digit? (Nat.digitChar d.val) = some d := by
  revert d
  decide

theorem mapM_digit?_digitChars (digits : List (Fin 16)) : (digitChars digits).mapM digit? = some digits := by
  induction digits with
  | nil => rfl
  | cons d digits ih =>
    rw [digitChars] at ih
    simp [digitChars, digit?_digitChar, ih]

theorem ofSimple?_digitChars (id : Uuid) : ofSimple? (digitChars id.digits) = some id := by
  rw [ofSimple?, mapM_digit?_digitChars, Option.bind_some, ofDigits?, dif_pos id.length_digits]

theorem length_digitChars (id : Uuid) : (digitChars id.digits).length = 32 := by
  rw [digitChars, List.length_map, id.length_digits]

/-- Characters in groups of 8, 4, 4, 4 and 12 with hyphens between them are read without their hyphens. -/
theorem ofHyphenated?_groups {a b c d e : List Char} (ha : a.length = 8) (hb : b.length = 4) (hc : c.length = 4)
    (hd : d.length = 4) (he : e.length = 12) :
    ofHyphenated? (a ++ '-' :: (b ++ '-' :: (c ++ '-' :: (d ++ '-' :: e)))) = ofSimple? (a ++ b ++ c ++ d ++ e) := by
  rw [ofHyphenated?, if_pos]
  · congr 1
    simp [List.drop_append, List.drop_eq_nil_of_le, ha, hb, hc, hd]
  · simp [ha, hb, hc, hd, he]

theorem length_toChars (id : Uuid) : id.toChars.length = 36 := by
  simp [toChars, length_digitChars]

/-- The groups of the written form, without the hyphens, are the digits. -/
theorem ofHyphenated?_toChars (id : Uuid) : ofHyphenated? id.toChars = some id := by
  have hlen := length_digitChars id
  rw [toChars, ofHyphenated?_groups (by simp [hlen]) (by simp [hlen]) (by simp [hlen]) (by simp [hlen])
    (by simp [hlen])]
  generalize hchars : digitChars id.digits = chars
  have hjoin : chars.take 8 ++ (chars.drop 8).take 4 ++ (chars.drop 12).take 4 ++ (chars.drop 16).take 4 ++
      chars.drop 20 = chars := by
    have hnext : ∀ n, (chars.drop n).take 4 ++ chars.drop (n + 4) = chars.drop n := fun n => by
      rw [← List.drop_drop, List.take_append_drop]
    rw [List.append_assoc, hnext 16, List.append_assoc, hnext 12, List.append_assoc, hnext 8, List.take_append_drop]
  rw [hjoin, ← hchars, ofSimple?_digitChars]

theorem ofText?_toText (id : Uuid) : ofText? id.toText = some id := by
  have hlen := length_toChars id
  simp only [ofText?, toText, String.toList_ofList, hlen]
  exact ofHyphenated?_toChars id

end AggregateGateway.Uuid
