/-!
The first item of a list that has a property. What a search in order finds is what the first item gives that gives
anything.
-/

namespace AggregateGateway

universe u v

variable {α : Type u} {β : Type v} {p q : α → Prop} {l : List α} {a : α}

/-- The item has the property, and none of the items before it has. -/
def IsFirst (p : α → Prop) (l : List α) (a : α) : Prop :=
  ∃ before after, l = before ++ a :: after ∧ p a ∧ ∀ b ∈ before, ¬p b

namespace IsFirst

theorem mem (h : IsFirst p l a) : a ∈ l := by
  obtain ⟨before, after, rfl, -, -⟩ := h
  simp

theorem head (h : p a) (rest : List α) : IsFirst p (a :: rest) a := ⟨[], rest, rfl, h, by simp⟩

theorem cons {b : α} (hb : ¬p b) (h : IsFirst p l a) : IsFirst p (b :: l) a := by
  obtain ⟨before, after, rfl, ha, hbefore⟩ := h
  exact ⟨b :: before, after, rfl, ha, List.forall_mem_cons.mpr ⟨hb, hbefore⟩⟩

theorem cons_iff {b : α} : IsFirst p (b :: l) a ↔ (p b ∧ a = b) ∨ (¬p b ∧ IsFirst p l a) := by
  constructor
  · rintro ⟨before, after, hl, ha, hbefore⟩
    cases before with
    | nil =>
      obtain ⟨rfl, rfl⟩ := List.cons.inj hl
      exact .inl ⟨ha, rfl⟩
    | cons c before =>
      obtain ⟨rfl, rfl⟩ := List.cons.inj hl
      obtain ⟨hb, hrest⟩ := List.forall_mem_cons.mp hbefore
      exact .inr ⟨hb, before, after, rfl, ha, hrest⟩
  · rintro (⟨hb, rfl⟩ | ⟨hb, h⟩)
    · exact head hb l
    · exact h.cons hb

theorem unique {b : α} (ha : IsFirst p l a) (hb : IsFirst p l b) : a = b := by
  induction l with
  | nil => cases ha.mem
  | cons c l ih =>
    rcases cons_iff.mp ha with ⟨hc, rfl⟩ | ⟨hc, ha'⟩
    · rcases cons_iff.mp hb with ⟨-, rfl⟩ | ⟨hc', -⟩
      · rfl
      · exact absurd hc hc'
    · rcases cons_iff.mp hb with ⟨hc', -⟩ | ⟨-, hb'⟩
      · exact absurd hc' hc
      · exact ih ha' hb'

theorem congr (h : ∀ b ∈ l, p b ↔ q b) : IsFirst p l a ↔ IsFirst q l a := by
  constructor
  · rintro ⟨before, after, rfl, ha, hbefore⟩
    exact ⟨before, after, rfl, (h a (by simp)).mp ha, fun b hb hq => hbefore b hb ((h b (by simp [hb])).mpr hq)⟩
  · rintro ⟨before, after, rfl, ha, hbefore⟩
    exact ⟨before, after, rfl, (h a (by simp)).mpr ha, fun b hb hp => hbefore b hb ((h b (by simp [hb])).mp hp)⟩

end IsFirst

theorem findSome?_eq_some_iff_isFirst {f : α → Option β} {b : β} :
    l.findSome? f = some b ↔ ∃ a, IsFirst (fun a => (f a).isSome) l a ∧ f a = some b := by
  rw [List.findSome?_eq_some_iff]
  constructor
  · rintro ⟨before, a, after, rfl, ha, hbefore⟩
    exact ⟨a, ⟨before, after, rfl, by simp [ha], fun c hc => by simp [hbefore c hc]⟩, ha⟩
  · rintro ⟨a, ⟨before, after, rfl, -, hbefore⟩, ha⟩
    exact ⟨before, a, after, rfl, ha, fun c hc => by simpa using hbefore c hc⟩

end AggregateGateway
