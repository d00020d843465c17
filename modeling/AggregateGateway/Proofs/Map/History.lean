import AggregateGateway.Proofs.Map.OrderedMap
import Mathlib.Data.Set.Card

/-!
Ordered maps against the history of their operations. A key is in a map if it was put and not removed since; its value
is the one that was put last, as later operations left it; and keys stand in the order in which they entered, where a
key enters when it is put and is not there. The operations may change the type of the values, and so a history is
followed through types.
-/

namespace AggregateGateway

namespace OrderedMap

/-! ### One operation -/

/-- An operation on a map with values in one type, which leaves a map with values in another. -/
inductive Edit : Type → Type → Type 1
  | insert {V : Type} (key : String) (value : V) : Edit V V
  | filter {V : Type} (keep : String → V → Bool) : Edit V V
  | map {V W : Type} (f : String → V → W) : Edit V W

namespace Edit

variable {V W : Type}

def apply : Edit V W → OrderedMap V → OrderedMap W
  | .insert key value, m => m.insert key value
  | .filter keep, m => m.filter keep
  | .map f, m => m.map f

/-- The operation on plain entries, whose keys need not be distinct. -/
def onEntries : Edit V W → List (String × V) → List (String × W)
  | .insert key value, entries => Entries.put key value entries
  | .filter keep, entries => entries.filter fun (key, value) => keep key value
  | .map f, entries => entries.map fun (key, value) => (key, f key value)

/-- What becomes of a value under a key: it is replaced, transformed or left as it is, or removed with its key. -/
def carry (key : String) : Edit V W → V → Option W
  | .insert k new, value => some (if key = k then new else value)
  | .filter keep, value => if keep key value then some value else none
  | .map f, value => some (f key value)

/-- The operation puts a value under the key. -/
def Puts (key : String) : Edit V W → Prop
  | .insert k _ => k = key
  | .filter _ | .map _ => False

theorem entries_apply (edit : Edit V W) (m : OrderedMap V) : (edit.apply m).entries = edit.onEntries m.entries := by
  cases edit <;> rfl

theorem nodup_keys_onEntries (edit : Edit V W) {entries : List (String × V)} (h : (Entries.keys entries).Nodup) :
    (Entries.keys (edit.onEntries entries)).Nodup := by
  cases edit with
  | insert key value => exact Entries.nodup_keys_put h
  | filter keep => exact h.sublist (List.filter_sublist.map Prod.fst)
  | map f =>
    have hkeys : Entries.keys (entries.map fun (key, value) => (key, f key value)) = Entries.keys entries :=
      List.map_map
    exact hkeys ▸ h

variable {edit : Edit V W} {m : OrderedMap V} {key : String}

theorem get?_apply_of_some {value : V} (h : m.get? key = some value) :
    (edit.apply m).get? key = edit.carry key value := by
  cases edit with
  | insert k new =>
    rw [apply, get?_insert, h, carry]
    split <;> rfl
  | filter keep => rw [apply, get?_filter, h, carry, Option.filter_some]
  | map f => rw [apply, get?_map, h, carry, Option.map_some]

/-- A key that is not there stays away unless a value is put under it. -/
theorem get?_apply_of_none (hputs : ¬edit.Puts key) (h : m.get? key = none) : (edit.apply m).get? key = none := by
  cases edit with
  | insert k new => rw [apply, get?_insert, if_neg (Ne.symm hputs), h]
  | filter keep => rw [apply, get?_filter, h, Option.filter_none]
  | map f => rw [apply, get?_map, h, Option.map_none]

theorem get?_apply (hputs : ¬edit.Puts key) (m : OrderedMap V) :
    (edit.apply m).get? key = (m.get? key).bind (edit.carry key) := by
  cases h : m.get? key with
  | none => exact get?_apply_of_none hputs h
  | some value => exact get?_apply_of_some h

/-- The keys that stay keep their order, and one that enters goes last. -/
theorem keys_apply_cases (edit : Edit V W) (m : OrderedMap V) :
    (edit.apply m).keys.Sublist m.keys ∨ ∃ key, key ∉ m.keys ∧ (edit.apply m).keys = m.keys ++ [key] := by
  cases edit with
  | insert key value =>
    rw [apply, keys_insert_ite]
    by_cases hmem : key ∈ m.keys
    · rw [if_pos hmem]
      exact .inl (.refl m.keys)
    · rw [if_neg hmem]
      exact .inr ⟨key, hmem, rfl⟩
  | filter keep => exact .inl (List.filter_sublist.map Prod.fst)
  | map f =>
    rw [apply, keys_map]
    exact .inl (.refl m.keys)

end Edit

/-! ### Histories -/

/-- Operations one after another, from a map with values in `U` to a map with values in the other type. -/
inductive History (U : Type) : Type → Type 1
  | start : History U U
  | step {V W : Type} (past : History U V) (edit : Edit V W) : History U W

namespace History

variable {U : Type}

def apply (m : OrderedMap U) : {V : Type} → History U V → OrderedMap V
  | _, .start => m
  | _, .step past edit => edit.apply (past.apply m)

def onEntries (entries : List (String × U)) : {V : Type} → History U V → List (String × V)
  | _, .start => entries
  | _, .step past edit => edit.onEntries (past.onEntries entries)

def append {V : Type} (first : History U V) : {W : Type} → History V W → History U W
  | _, .start => first
  | _, .step past edit => (first.append past).step edit

def length : {V : Type} → History U V → Nat
  | _, .start => 0
  | _, .step past _ => past.length + 1

/-- What becomes of a value under a key, unless it is removed with its key. -/
def carry (key : String) : {V : Type} → History U V → U → Option V
  | _, .start, value => some value
  | _, .step past edit, value => (past.carry key value).bind (edit.carry key)

/-- Some operation puts a value under the key. -/
def Puts (key : String) : {V : Type} → History U V → Prop
  | _, .start => False
  | _, .step past edit => past.Puts key ∨ edit.Puts key

/-- Pairs that are put one after another. -/
def ofPairs (pairs : List (String × U)) : History U U :=
  pairs.foldl (fun past (key, value) => past.step (.insert key value)) .start

variable {V W X : Type}

/-- From a map with this value under the key, the history comes to a rule that rejects the key with what the value has
become. -/
def Removes (history : History U V) (key : String) (value : U) : Prop :=
  ∃ (X : Type) (before : History U X) (keep : String → X → Bool) (after : History X V) (held : X),
    history = (before.step (.filter keep)).append after ∧ before.carry key value = some held ∧ keep key held = false

/-- The value is the last one that is put under the key, and `after` is what follows. -/
def LastPut (history : History U V) (key : String) (value : X) (after : History X V) : Prop :=
  ∃ before : History U X, history = (before.step (.insert key value)).append after ∧ ¬after.Puts key

/-- The key was put and not removed since. -/
def Holds (history : History U V) (key : String) : Prop :=
  ∃ (X : Type) (before : History U X) (value : X) (after : History X V),
    history = (before.step (.insert key value)).append after ∧ ¬after.Removes key value

/-- After so many operations the key is put while it is not held, and it is not removed since. -/
def EntersAt (history : History U V) (key : String) (time : Nat) : Prop :=
  ∃ (X : Type) (before : History U X) (value : X) (after : History X V),
    history = (before.step (.insert key value)).append after ∧ before.length = time ∧ ¬before.Holds key ∧
      ¬after.Removes key value

theorem apply_append (m : OrderedMap U) (first : History U V) (second : History V W) :
    (first.append second).apply m = second.apply (first.apply m) := by
  induction second with
  | start => rfl
  | step past edit ih => exact congrArg edit.apply ih

theorem entries_apply (history : History U V) (m : OrderedMap U) :
    (history.apply m).entries = history.onEntries m.entries := by
  induction history with
  | start => rfl
  | step past edit ih => rw [apply, Edit.entries_apply, ih, onEntries]

theorem nodup_keys_onEntries (history : History U V) {entries : List (String × U)}
    (h : (Entries.keys entries).Nodup) : (Entries.keys (history.onEntries entries)).Nodup := by
  induction history with
  | start => exact h
  | step past edit ih => exact edit.nodup_keys_onEntries ih

theorem apply_ofPairs (pairs : List (String × U)) : (ofPairs pairs).apply empty = ofList pairs := by
  have hfoldl : ∀ past : History U U,
      (pairs.foldl (fun past (key, value) => past.step (.insert key value)) past).apply empty =
        pairs.foldl (fun m (key, value) => m.insert key value) (past.apply empty) := by
    induction pairs with
    | nil => exact fun past => rfl
    | cons pair pairs ih => exact fun past => ih _
  exact hfoldl .start

variable {history : History U V} {key : String}

/-! ### Values -/

theorem carry_eq_none_iff {value : U} : history.carry key value = none ↔ history.Removes key value := by
  induction history with
  | start =>
    constructor
    · nofun
    · rintro ⟨X, before, keep, after, held, h, -, -⟩
      cases after <;> cases h
  | @step X V past edit ih =>
    rw [carry]
    constructor
    · intro h
      cases hpast : past.carry key value with
      | none =>
        obtain ⟨Y, before, keep, after, held, rfl, hheld, hkeep⟩ := ih.mp hpast
        exact ⟨Y, before, keep, after.step edit, held, rfl, hheld, hkeep⟩
      | some held =>
        rw [hpast, Option.bind_some] at h
        cases edit with
        | filter keep => exact ⟨X, past, keep, .start, held, rfl, hpast, by simpa [Edit.carry] using h⟩
        | insert | map => cases h
    · rintro ⟨Y, before, keep, after, held, h, hheld, hkeep⟩
      -- The rule is the last operation, or it comes before.
      cases after with
      | start =>
        cases h
        simp [hheld, Edit.carry, hkeep]
      | step after last =>
        cases h
        rw [ih.mpr ⟨Y, before, keep, after, held, rfl, hheld, hkeep⟩, Option.bind_none]

theorem not_removes_iff {value : U} : ¬history.Removes key value ↔ ∃ kept, history.carry key value = some kept := by
  rw [← carry_eq_none_iff, ← ne_eq, Option.ne_none_iff_exists']

theorem get?_apply_of_carry {m : OrderedMap U} {value : U} {kept : V} (h : m.get? key = some value)
    (hcarry : history.carry key value = some kept) : (history.apply m).get? key = some kept := by
  induction history with
  | start => exact h.trans hcarry
  | step past edit ih =>
    obtain ⟨held, hpast, hedit⟩ := Option.bind_eq_some_iff.mp hcarry
    exact (Edit.get?_apply_of_some (ih hpast)).trans hedit

theorem get?_apply (hputs : ¬history.Puts key) (m : OrderedMap U) :
    (history.apply m).get? key = (m.get? key).bind (history.carry key) := by
  induction history with
  | start => exact (Option.bind_fun_some (m.get? key)).symm
  | step past edit ih =>
    obtain ⟨hpast, hedit⟩ := not_or.mp hputs
    rw [apply, Edit.get?_apply hedit, ih hpast, Option.bind_assoc]
    rfl

theorem get?_apply_put (before : History U X) (key : String) (value : X) (m : OrderedMap U) :
    ((before.step (.insert key value)).apply m).get? key = some value := by
  rw [apply, Edit.apply, get?_insert, if_pos rfl]

theorem LastPut.get?_apply {value : X} {after : History X V} (h : history.LastPut key value after)
    (m : OrderedMap U) : (history.apply m).get? key = after.carry key value := by
  obtain ⟨before, rfl, hputs⟩ := h
  rw [apply_append, History.get?_apply hputs, get?_apply_put, Option.bind_some]

/-- What is found was put. -/
theorem exists_lastPut {value : V} (h : (history.apply empty).get? key = some value) :
    ∃ (X : Type) (put : X) (after : History X V),
      history.LastPut key put after ∧ after.carry key put = some value := by
  induction history with
  | start => cases h
  | @step X V past edit ih =>
    by_cases hputs : edit.Puts key
    · cases edit with
      | insert k new =>
        obtain rfl : k = key := hputs
        exact ⟨X, new, .start, ⟨past, rfl, not_false⟩, (get?_apply_put past k new empty).symm.trans h⟩
      | filter | map => exact hputs.elim
    · rw [apply, Edit.get?_apply hputs] at h
      obtain ⟨held, hpast, hedit⟩ := Option.bind_eq_some_iff.mp h
      obtain ⟨Y, put, after, ⟨before, rfl, hafter⟩, hcarry⟩ := ih hpast
      refine ⟨Y, put, after.step edit, ⟨before, rfl, not_or.mpr ⟨hafter, hputs⟩⟩, ?_⟩
      rw [carry, hcarry, Option.bind_some, hedit]

/-! ### Keys -/

theorem mem_keys_apply_iff : key ∈ (history.apply empty).keys ↔ history.Holds key := by
  rw [mem_keys_iff]
  constructor
  · rintro ⟨value, hvalue⟩
    obtain ⟨X, put, after, ⟨before, hsplit, -⟩, hcarry⟩ := exists_lastPut hvalue
    exact ⟨X, before, put, after, hsplit, not_removes_iff.mpr ⟨value, hcarry⟩⟩
  · rintro ⟨X, before, put, after, rfl, hkept⟩
    obtain ⟨value, hcarry⟩ := not_removes_iff.mp hkept
    rw [apply_append]
    exact ⟨value, get?_apply_of_carry (get?_apply_put before key put empty) hcarry⟩

theorem EntersAt.holds {time : Nat} (h : history.EntersAt key time) : history.Holds key := by
  obtain ⟨X, before, put, after, hsplit, -, -, hkept⟩ := h
  exact ⟨X, before, put, after, hsplit, hkept⟩

section

variable {past : History U V} {edit : Edit V W} {time : Nat}

/-- A key has entered before the last operation, or enters with it. -/
theorem EntersAt.cases_step (h : (past.step edit).EntersAt key time) :
    past.EntersAt key time ∨ time = past.length ∧ ¬past.Holds key := by
  obtain ⟨X, before, put, after, hsplit, htime, hnot, hkept⟩ := h
  cases after with
  | start =>
    cases hsplit
    exact .inr ⟨htime.symm, hnot⟩
  | step after last =>
    cases hsplit
    obtain ⟨value, hcarry⟩ := not_removes_iff.mp hkept
    obtain ⟨held, hheld, -⟩ := Option.bind_eq_some_iff.mp hcarry
    exact .inl ⟨X, before, put, after, rfl, htime, hnot, not_removes_iff.mpr ⟨held, hheld⟩⟩

theorem EntersAt.of_step (h : (past.step edit).EntersAt key time) (hheld : key ∈ (past.apply empty).keys) :
    past.EntersAt key time :=
  h.cases_step.resolve_right fun hlast => hlast.2 (mem_keys_apply_iff.mp hheld)

/-- A key that has entered has done so for as long as it stays. -/
theorem EntersAt.step (h : past.EntersAt key time) (hstays : key ∈ ((past.step edit).apply empty).keys) :
    (past.step edit).EntersAt key time := by
  obtain ⟨X, before, put, after, rfl, htime, hnot, hkept⟩ := h
  obtain ⟨held, hheld⟩ := not_removes_iff.mp hkept
  obtain ⟨value, hvalue⟩ := mem_keys_iff.mp hstays
  have hput := get?_apply_put before key put empty
  rw [apply, apply_append, Edit.get?_apply_of_some (get?_apply_of_carry hput hheld)] at hvalue
  have hcarry : (after.step edit).carry key put = some value := by
    rw [carry, hheld, Option.bind_some, hvalue]
  exact ⟨X, before, put, after.step edit, rfl, htime, hnot, not_removes_iff.mpr ⟨value, hcarry⟩⟩

end

theorem EntersAt.lt_length {time : Nat} (h : history.EntersAt key time) : time < history.length := by
  induction history with
  | start =>
    obtain ⟨X, before, put, after, hsplit, -⟩ := h
    cases after <;> cases hsplit
  | step past edit ih =>
    rcases h.cases_step with hpast | ⟨rfl, -⟩
    · exact Nat.lt_succ_of_lt (ih hpast)
    · exact Nat.lt_succ_self past.length

theorem EntersAt.unique {time other : Nat} (h : history.EntersAt key time) (h' : history.EntersAt key other) :
    time = other := by
  induction history with
  | start => exact absurd h.lt_length (Nat.not_lt_zero time)
  | step past edit ih =>
    rcases h.cases_step with hpast | ⟨rfl, hnot⟩
    · rcases h'.cases_step with hpast' | ⟨-, hnot⟩
      · exact ih hpast hpast'
      · exact absurd hpast.holds hnot
    · rcases h'.cases_step with hpast | ⟨rfl, -⟩
      · exact absurd hpast.holds hnot
      · rfl

theorem exists_entersAt (h : key ∈ (history.apply empty).keys) : ∃ time, history.EntersAt key time := by
  induction history with
  | start => cases h
  | @step X V past edit ih =>
    by_cases hpast : key ∈ (past.apply empty).keys
    · obtain ⟨time, htime⟩ := ih hpast
      exact ⟨time, htime.step h⟩
    · by_cases hputs : edit.Puts key
      · cases edit with
        | insert k new =>
          obtain rfl : k = key := hputs
          exact ⟨past.length, X, past, new, .start, rfl, rfl, mt mem_keys_apply_iff.mpr hpast,
            not_removes_iff.mpr ⟨new, rfl⟩⟩
        | filter | map => exact hputs.elim
      · exact absurd h (get?_eq_none_iff.mp (Edit.get?_apply_of_none hputs (get?_eq_none_iff.mpr hpast)))

/-- Keys stand in the order in which they have entered. -/
theorem pairwise_keys_apply (history : History U V) :
    (history.apply empty).keys.Pairwise fun first second =>
      ∀ time later, history.EntersAt first time → history.EntersAt second later → time < later := by
  induction history with
  | start => exact .nil
  | step past edit ih =>
    -- Of the keys that were there, the last operation tells no other time.
    have hpast : (past.apply empty).keys.Pairwise fun first second =>
        ∀ time later, (past.step edit).EntersAt first time → (past.step edit).EntersAt second later → time < later :=
      ih.imp_of_mem fun hfirst hsecond hlt time later htime hlater =>
        hlt time later (htime.of_step hfirst) (hlater.of_step hsecond)
    rcases edit.keys_apply_cases (past.apply empty) with hsublist | ⟨key, hnot, hkeys⟩
    · exact hpast.sublist hsublist
    · rw [apply, hkeys]
      refine List.pairwise_append.mpr ⟨hpast, List.pairwise_singleton _ _, fun first hfirst second hsecond => ?_⟩
      obtain rfl := List.mem_singleton.mp hsecond
      intro time later htime hlater
      rcases hlater.cases_step with hearlier | ⟨rfl, -⟩
      · exact absurd (mem_keys_apply_iff.mpr hearlier.holds) hnot
      · exact (htime.of_step hfirst).lt_length

end History

/-! ### Every history -/

/-- What a map shows of the operations that it comes from. -/
structure Follows {U V : Type} (m : OrderedMap V) (history : History U V) : Prop where
  /-- The same operations on plain entries, whose type asks nothing of their keys, give the entries of the map. -/
  entries : m.entries = history.onEntries []
  /-- Keys are kept distinct by the operations themselves. -/
  distinct : (Entries.keys (history.onEntries [])).Nodup
  /-- What is found is what was put last, as later operations left it. -/
  found : ∀ key value, m.get? key = some value ↔
    ∃ (X : Type) (put : X) (after : History X V), history.LastPut key put after ∧ after.carry key put = some value
  /-- Nothing is found where nothing was put, or where it was removed since. -/
  missing : ∀ key, m.get? key = none ↔
    ∀ (X : Type) (put : X) (after : History X V), history.LastPut key put after → after.Removes key put
  /-- Each key that is there has entered, and its time is its own. -/
  entered : ∀ key, key ∈ m.keys ↔ ∃! time, history.EntersAt key time
  ordered : m.keys.Pairwise fun first second =>
    ∀ time later, history.EntersAt first time → history.EntersAt second later → time < later
  size : m.size = {key | history.Holds key}.ncard

theorem History.follows_apply {U V : Type} (history : History U V) : (history.apply empty).Follows history where
  entries := history.entries_apply empty
  distinct := history.nodup_keys_onEntries .nil
  found key value := by
    constructor
    · exact exists_lastPut
    · rintro ⟨X, put, after, hlast, hcarry⟩
      exact (hlast.get?_apply empty).trans hcarry
  missing key := by
    constructor
    · intro hnone X put after hlast
      exact carry_eq_none_iff.mp ((hlast.get?_apply empty).symm.trans hnone)
    · intro hremoved
      by_contra hsome
      obtain ⟨value, hvalue⟩ := Option.ne_none_iff_exists'.mp hsome
      obtain ⟨X, put, after, hlast, hcarry⟩ := exists_lastPut hvalue
      cases hcarry.symm.trans (carry_eq_none_iff.mpr (hremoved X put after hlast))
  entered key := by
    constructor
    · intro hmem
      obtain ⟨time, htime⟩ := exists_entersAt hmem
      exact ⟨time, htime, fun other hother => hother.unique htime⟩
    · rintro ⟨time, htime, -⟩
      exact mem_keys_apply_iff.mpr htime.holds
  ordered := history.pairwise_keys_apply
  size := by
    have hkeys : {key | history.Holds key} = ((history.apply empty).keys.toFinset : Set String) :=
      Set.ext fun key => by simp [mem_keys_apply_iff]
    have hlength : (history.apply empty).size = (history.apply empty).keys.length :=
      (List.length_map Prod.fst).symm
    have hnodup : (history.apply empty).keys.Nodup := (history.apply empty).distinct
    rw [hkeys, Set.ncard_coe_finset, List.toFinset_card_of_nodup hnodup, hlength]

end OrderedMap

end AggregateGateway
