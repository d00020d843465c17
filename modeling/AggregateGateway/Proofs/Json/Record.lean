import Mathlib.Data.List.Nodup
import Mathlib.Data.List.Pairwise
import AggregateGateway.Proofs.Map.OrderedMap

/-!
Decoding a record by its names. An object is read member by member, in the order in which it is written; where the
fields of a record do not get in each other's way, the outcome is that of looking up every field of the record, so
that neither the order nor the members that no field names count.
-/

namespace AggregateGateway.Json

/-! ### Folds with a missing outcome -/

theorem foldlM_eq_foldl {α β : Type} (f : β → α → Option β) (l : List α) (init : β) :
    l.foldlM f init = l.foldl (fun acc x => acc.bind fun y => f y x) (some init) := by
  have hnone : ∀ l : List α, l.foldl (fun acc x => acc.bind fun y => f y x) none = none := fun l => by
    induction l with
    | nil => rfl
    | cons x l ih => exact ih
  induction l generalizing init with
  | nil => rfl
  | cons x l ih =>
    rw [List.foldlM_cons, List.foldl_cons, Option.bind_some]
    cases hf : f init x with
    | none => exact (hnone l).symm
    | some y => exact ih y

theorem foldlM_perm {α β : Type} {f : β → α → Option β} {l l' : List α} (h : l.Perm l')
    (comm : ∀ x ∈ l, ∀ y ∈ l, ∀ acc, (f acc x).bind (fun z => f z y) = (f acc y).bind fun z => f z x) (init : β) :
    l.foldlM f init = l'.foldlM f init := by
  rw [foldlM_eq_foldl, foldlM_eq_foldl]
  apply h.foldl_eq'
  intro x hx y hy acc
  cases acc with
  | none => rfl
  | some z => exact comm x hx y hy z

/-! ### Members one after another -/

/-- Where a member of one name decides what is seen and the others leave it as it is, the member that is found under
the name has decided it. -/
theorem lookup_of_foldlM {β γ : Type} {step : β → String × Value → Decoded β} {name : String} {view : β → γ}
    {reads : Value → Decoded γ}
    (own : ∀ acc value next, step acc (name, value) = .ok next → reads value = .ok (view next))
    (others : ∀ acc member next, member.1 ≠ name → step acc member = .ok next → view next = view acc)
    {members : List (String × Value)} (hnames : (Entries.keys members).Nodup) {acc x : β}
    (h : members.foldlM step acc = .ok x) :
    (members.lookup name = none ∧ view x = view acc) ∨
      ∃ value, members.lookup name = some value ∧ reads value = .ok (view x) := by
  induction members generalizing acc with
  | nil =>
    cases h
    exact .inl ⟨rfl, rfl⟩
  | cons member members ih =>
    obtain ⟨first, value⟩ := member
    obtain ⟨hfirst, hrest⟩ := List.nodup_cons.mp hnames
    rw [List.foldlM_cons] at h
    cases hstep : step acc (first, value) with
    | error error =>
      rw [hstep] at h
      cases h
    | ok next =>
      rw [hstep] at h
      rw [Entries.lookup_cons_ite]
      by_cases hname : name = first
      · -- The other members have other names, and what is seen now stays.
        subst hname
        rw [if_pos rfl]
        obtain ⟨-, hview⟩ | ⟨_, hlookup, -⟩ := ih hrest h
        · exact .inr ⟨value, rfl, hview ▸ own acc value next hstep⟩
        · rw [Entries.lookup_eq_none_iff.mpr hfirst] at hlookup
          cases hlookup
      · rw [if_neg hname, ← others acc (first, value) next (Ne.symm hname) hstep]
        exact ih hrest h

/-! ### Fields and values -/

theorem map_eq_ok {α β : Type} {f : α → β} {decoded : Decoded α} {y : β} :
    f <$> decoded = .ok y ↔ ∃ x, decoded = .ok x ∧ f x = y := by
  cases decoded <;> simp [Functor.map, Except.map]

/-- A record with one more field set, if its value decodes. -/
def assign {α : Type} (acc : α) (step : Field α × Value) : Option α := (step.1.set acc step.2).toOption

/-- Either field may be set first. -/
def Field.Commutes {α : Type} (f g : Field α) : Prop :=
  ∀ acc v w, (assign acc (f, v)).bind (fun next => assign next (g, w)) =
    (assign acc (g, w)).bind fun next => assign next (f, v)

instance {α : Type} : Std.Symm (@Field.Commutes α) := ⟨fun _ _ h acc v w => (h acc w v).symm⟩

namespace Record

variable {α : Type} {record : Record α}

/-- The record that a look-up gives: its fields are set in its own order, and there is none if a required one is
missing or a value does not decode. -/
def read? (record : Record α) (get : String → Option Value) : Option α :=
  record.fields.foldlM (fun acc field =>
    match get field.name with
    | some value => assign acc (field, value)
    | none => if field.required then none else some acc) record.blank

/-- The fields of a record have names of their own, and setting one leaves the others to be set as before. -/
structure Independent (record : Record α) : Prop where
  distinct : (record.fields.map (·.name)).Nodup
  commute : record.fields.Pairwise Field.Commutes

/-- The field that a member is for, with the value of the member. -/
def step? (record : Record α) (member : String × Value) : Option (Field α × Value) :=
  (record.fields.find? fun field => field.name == member.1).map fun field => (field, member.2)

/-- The values that a look-up has for the fields, in the order of the fields. -/
def steps (get : String → Option Value) (fields : List (Field α)) : List (Field α × Value) :=
  fields.filterMap fun field => (get field.name).map fun value => (field, value)

theorem toOption_foldlM_setMember (record : Record α) (members : List (String × Value)) (acc : α) :
    (members.foldlM record.setMember acc).toOption = (members.filterMap record.step?).foldlM assign acc := by
  induction members generalizing acc with
  | nil => rfl
  | cons member members ih =>
    rw [List.foldlM_cons]
    cases hf : record.fields.find? (fun field => field.name == member.1) with
    | none =>
      have hset : record.setMember acc member = .ok acc := by rw [setMember, hf]
      rw [List.filterMap_cons_none (by rw [step?, hf]; rfl), hset]
      exact ih acc
    | some field =>
      have hset : record.setMember acc member = field.set acc member.2 := by rw [setMember, hf]
      rw [List.filterMap_cons_some (b := (field, member.2)) (by rw [step?, hf]; rfl), List.foldlM_cons, hset, assign]
      cases field.set acc member.2 with
      | error error => rfl
      | ok next => exact ih next

/-- A look-up gives no record if a required field is missing; otherwise the fields that it finds are set. -/
theorem foldlM_fields (get : String → Option Value) (fields : List (Field α)) (acc : α) :
    fields.foldlM (fun acc field =>
      match get field.name with
      | some value => assign acc (field, value)
      | none => if field.required then none else some acc) acc =
      if (fields.find? fun field => field.required && (get field.name).isNone).isSome then none
      else (steps get fields).foldlM assign acc := by
  -- A value that does not decode may come before the missing field; there is no record on either side then.
  induction fields generalizing acc with
  | nil => rfl
  | cons field fields ih =>
    rw [List.foldlM_cons, List.find?_cons]
    cases hg : get field.name with
    | none =>
      rw [steps, List.filterMap_cons_none (by rw [hg]; rfl), ← steps]
      cases field.required with
      | true => rfl
      | false => exact ih acc
    | some value =>
      rw [steps, List.filterMap_cons_some (b := (field, value)) (by rw [hg]; rfl), ← steps, List.foldlM_cons,
        Option.isNone_some, Bool.and_false]
      dsimp only
      cases assign acc (field, value) with
      | none => split <;> rfl
      | some next => exact ih next

/-- A field is found by its name. -/
theorem find?_name {fields : List (Field α)} (h : (fields.map (·.name)).Nodup) {field : Field α} (hf : field ∈ fields) :
    fields.find? (fun other => other.name == field.name) = some field := by
  induction fields with
  | nil => cases hf
  | cons other fields ih =>
    obtain ⟨hnot, hfields⟩ := List.nodup_cons.mp h
    rcases List.mem_cons.mp hf with rfl | hf
    · rw [List.find?_cons, beq_self_eq_true]
    · have hne : other.name ≠ field.name := fun heq => hnot (List.mem_map.mpr ⟨field, hf, heq.symm⟩)
      rw [List.find?_cons, beq_eq_false_iff_ne.mpr hne, ih hfields hf]

theorem step?_eq_some_iff (h : record.Independent) {member : String × Value} {step : Field α × Value} :
    record.step? member = some step ↔ step.1 ∈ record.fields ∧ member = (step.1.name, step.2) := by
  obtain ⟨field, value⟩ := step
  simp only [step?, Option.map_eq_some_iff, Prod.mk.injEq]
  constructor
  · rintro ⟨_, hf, rfl, rfl⟩
    have hname := List.find?_some hf
    exact ⟨List.mem_of_find?_eq_some hf, Prod.ext (beq_iff_eq.mp hname).symm rfl⟩
  · rintro ⟨hf, rfl⟩
    exact ⟨field, find?_name h.distinct hf, rfl, rfl⟩

/-- The members that are for fields are the values that a look-up finds for the fields, in another order. -/
theorem perm_steps (h : record.Independent) (m : OrderedMap Value) :
    (m.entries.filterMap record.step?).Perm (steps m.get? record.fields) := by
  -- Neither list repeats anything: the members have names of their own, and so have the fields.
  apply (List.perm_ext_iff_of_nodup _ _).mpr
  · rintro ⟨field, value⟩
    simp only [steps, List.mem_filterMap, step?_eq_some_iff h, Option.map_eq_some_iff, OrderedMap.get?_eq_some_iff]
    constructor
    · rintro ⟨_, hm, hf, rfl⟩
      exact ⟨field, hf, value, hm, rfl⟩
    · rintro ⟨_, hf, _, hm, heq⟩
      cases heq
      exact ⟨_, hm, hf, rfl⟩
  · apply (List.Nodup.of_map _ m.distinct).filterMap
    intro member member' step hs hs'
    rw [((step?_eq_some_iff h).mp hs).2, ((step?_eq_some_iff h).mp hs').2]
  · apply (List.Nodup.of_map _ h.distinct).filterMap
    intro field field' step hs hs'
    obtain ⟨_, -, rfl⟩ := Option.map_eq_some_iff.mp hs
    obtain ⟨_, -, heq⟩ := Option.map_eq_some_iff.mp hs'
    exact (Prod.mk.inj heq).1.symm

/-- Of two members that are for fields, either may be set first. -/
theorem assign_comm (h : record.Independent) (m : OrderedMap Value) {x y : Field α × Value}
    (hx : x ∈ m.entries.filterMap record.step?) (hy : y ∈ m.entries.filterMap record.step?) (acc : α) :
    (assign acc x).bind (fun next => assign next y) = (assign acc y).bind fun next => assign next x := by
  obtain ⟨_, hmx, hsx⟩ := List.mem_filterMap.mp hx
  obtain ⟨_, hmy, hsy⟩ := List.mem_filterMap.mp hy
  obtain ⟨hfx, rfl⟩ := (step?_eq_some_iff h).mp hsx
  obtain ⟨hfy, rfl⟩ := (step?_eq_some_iff h).mp hsy
  -- Two members for one field are the same member.
  by_cases hname : x.1.name = y.1.name
  · have hfield := find?_name h.distinct hfx
    rw [hname, find?_name h.distinct hfy] at hfield
    rw [hname] at hmx
    have hvalue := OrderedMap.get?_eq_some_iff.mpr hmx
    rw [OrderedMap.get?_eq_some_iff.mpr hmy] at hvalue
    rw [show x = y from Prod.ext (Option.some.inj hfield).symm (Option.some.inj hvalue).symm]
  · exact h.commute.forall hfx hfy (fun heq => hname (congrArg _ heq)) acc x.2 y.2

/-- Reading an object member by member gives the record that its look-up gives. -/
theorem toOption_decode_object (h : record.Independent) (m : OrderedMap Value) :
    (record.decode (.object m.entries)).toOption = record.read? m.get? := by
  have hfold : (m.entries.foldlM record.setMember record.blank).toOption =
      (steps m.get? record.fields).foldlM assign record.blank := by
    rw [toOption_foldlM_setMember]
    exact foldlM_perm (perm_steps h m) (fun _ hx _ hy => assign_comm h m hx hy) record.blank
  have hlookup : (fun field : Field α => field.required && (m.get? field.name).isNone) =
      fun field => field.required && (m.entries.lookup field.name).isNone := rfl
  rw [read?, foldlM_fields, ← hfold, decode, hlookup]
  cases record.fields.find? fun field => field.required && (m.entries.lookup field.name).isNone with
  | none => cases m.entries.foldlM record.setMember record.blank <;> rfl
  | some field => cases m.entries.foldlM record.setMember record.blank <;> rfl

/-! ### One field at a time -/

/-- What `view` sees of a record is the member `name`, as `reads` decodes it; the other members leave it as it is. -/
structure Shows {γ : Type} (record : Record α) (name : String) (view : α → γ) (reads : Value → Decoded γ) : Prop where
  listed : name ∈ record.fields.map (·.name)
  own : ∀ field ∈ record.fields, field.name = name → ∀ acc value next, field.set acc value = .ok next →
    reads value = .ok (view next)
  others : ∀ field ∈ record.fields, field.name ≠ name → ∀ acc value next, field.set acc value = .ok next →
    view next = view acc

theorem setMember_eq_ok {member : String × Value} {acc next : α} (h : record.setMember acc member = .ok next) :
    (member.1 ∉ record.fields.map (·.name) ∧ next = acc) ∨
      ∃ field ∈ record.fields, field.name = member.1 ∧ field.set acc member.2 = .ok next := by
  rw [setMember] at h
  cases hf : record.fields.find? fun field => field.name == member.1 with
  | none =>
    rw [hf] at h
    cases h
    refine .inl ⟨fun hmem => ?_, rfl⟩
    obtain ⟨field, hfield, hname⟩ := List.mem_map.mp hmem
    exact List.find?_eq_none.mp hf field hfield (beq_iff_eq.mpr hname)
  | some field =>
    rw [hf] at h
    have hname := List.find?_some hf
    exact .inr ⟨field, List.mem_of_find?_eq_some hf, beq_iff_eq.mp hname, h⟩

namespace Shows

variable {γ : Type} {name : String} {view : α → γ} {reads : Value → Decoded γ}

theorem of_foldlM (h : record.Shows name view reads) {members : List (String × Value)}
    (hnames : (Entries.keys members).Nodup) {acc x : α} (hfold : members.foldlM record.setMember acc = .ok x) :
    (members.lookup name = none ∧ view x = view acc) ∨
      ∃ value, members.lookup name = some value ∧ reads value = .ok (view x) := by
  refine lookup_of_foldlM (fun acc value next hset => ?_) (fun acc member next hne hset => ?_) hnames hfold
  · obtain ⟨hnot, -⟩ | ⟨field, hfield, hname, hvalue⟩ := setMember_eq_ok hset
    · exact absurd h.listed hnot
    · exact h.own field hfield hname acc value next hvalue
  · obtain ⟨-, rfl⟩ | ⟨field, hfield, hname, hvalue⟩ := setMember_eq_ok hset
    · rfl
    · exact h.others field hfield (hname ▸ hne) acc member.2 next hvalue

theorem of_decode (h : record.Shows name view reads) {members : List (String × Value)}
    (hnames : (Entries.keys members).Nodup) {x : α} (hdecode : record.decode (.object members) = .ok x) :
    (members.lookup name = none ∧ view x = view record.blank) ∨
      ∃ value, members.lookup name = some value ∧ reads value = .ok (view x) := by
  apply h.of_foldlM hnames
  rw [decode] at hdecode
  cases hfold : members.foldlM record.setMember record.blank with
  | error error =>
    rw [hfold] at hdecode
    cases hdecode
  | ok result =>
    rw [hfold, Except.bind] at hdecode
    split at hdecode
    · cases hdecode
    · exact hdecode

/-- What a field of the record is to `view`: the one that it sees, or another one that leaves it as it is. -/
inductive Part (name : String) (view : α → γ) (reads : Value → Decoded γ) (field : Field α) : Prop
  | own (update : α → γ → α) :
      field.name = name → (∀ acc value, field.set acc value = update acc <$> reads value) →
      (∀ acc x, view (update acc x) = x) → Part name view reads field
  | other {δ : Type} (readsOther : Value → Decoded δ) (update : α → δ → α) :
      field.name ≠ name → (∀ acc value, field.set acc value = update acc <$> readsOther value) →
      (∀ acc x, view (update acc x) = view acc) → Part name view reads field

theorem of_parts (hlisted : name ∈ record.fields.map (·.name))
    (hparts : ∀ field ∈ record.fields, Part name view reads field) : record.Shows name view reads where
  listed := hlisted
  own := by
    intro field hfield hname acc value next h
    cases hparts field hfield with
    | own update _ hset hview =>
      obtain ⟨x, hx, rfl⟩ := map_eq_ok.mp ((hset acc value).symm.trans h)
      rw [hx, hview]
    | other _ _ hne _ _ => exact absurd hname hne
  others := by
    intro field hfield hname acc value next h
    cases hparts field hfield with
    | own _ hname' _ _ => exact absurd hname' hname
    | other readsOther update _ hset hview =>
      obtain ⟨x, -, rfl⟩ := map_eq_ok.mp ((hset acc value).symm.trans h)
      exact hview acc x

/-- Of a record with one field the field shows what it holds. -/
theorem of_single {required : Bool} {update : α → γ → α}
    (hfields : record.fields = [⟨name, required, fun acc value => update acc <$> reads value⟩])
    (hview : ∀ acc x, view (update acc x) = x) : record.Shows name view reads := by
  apply of_parts
  · simp [hfields]
  · rw [hfields, List.forall_mem_singleton]
    exact .own update rfl (fun _ _ => rfl) hview

end Shows

end Record

end AggregateGateway.Json
