import AggregateGateway.Proofs.Json.Distinct
import AggregateGateway.Proofs.Json.Numeral
import AggregateGateway.Proofs.Json.Writer

/-!
Reading the compact text of a value. A text is read up to its closing mark, a numeral up to what it cannot go on with,
and a value up to its own end, whatever follows; so arrays and objects are read member by member. Of a value the text
is read as the value itself if it nests no deeper than a reader follows and its numbers are read from their numerals,
as integers are. A fraction may miss its number by a place, and is not promised.
-/

namespace AggregateGateway.Json

namespace Reader

/-! ### Texts -/

theorem hexUnit?_hexByte : ∀ n < 32, ∃ high low, hexByte n = [high, low] ∧ hexUnit? '0' '0' high low = some n := by
  intro n hn
  refine ⟨_, _, rfl, ?_⟩
  revert n
  decide

theorem readText_escape {letter c : Char} (h : shortEscape? letter = some c) (acc : String) (rest : List Char) :
    readText acc ('\\' :: letter :: rest) = readText (acc.push c) rest := by
  have hunit : letter ≠ 'u' := by
    rintro rfl
    cases h
  rw [readText]
  · simp [h]
  · exact fun _ _ _ _ _ hletter _ => hunit hletter

/-- A character with an escape is written with a letter, or as a control character. -/
theorem escapeChar_cases {c : Char} (h : c.toNat < 32 ∨ c = '"' ∨ c = '\\') :
    (∃ letter, escapeChar c = ['\\', letter] ∧ shortEscape? letter = some c) ∨
      c.toNat < 32 ∧ escapeChar c = ['\\', 'u', '0', '0'] ++ hexByte c.toNat := by
  rw [escapeChar]
  iterate 7
    split
    · next hc => exact .inl ⟨_, rfl, by simp [shortEscape?, hc]⟩
  split
  · next hcontrol => exact .inr ⟨hcontrol, rfl⟩
  · simp_all

/-- A character that is written is read as itself. -/
theorem readText_written (acc : String) (c : Char) (rest : List Char) :
    readText acc (written c ++ rest) = readText (acc.push c) rest := by
  rw [written]
  split
  case isTrue h =>
    rcases escapeChar_cases h with ⟨letter, hescape, hletter⟩ | ⟨hcontrol, hescape⟩
    · rw [hescape]
      exact readText_escape hletter acc rest
    · obtain ⟨high, low, hbyte, hunit⟩ := hexUnit?_hexByte c.toNat hcontrol
      have hsmall : c.toNat < 0xD800 := by omega
      simp [hescape, hbyte, readText, hunit, hsmall, Char.ofNat_toNat]
  case isFalse h =>
    obtain ⟨hcontrol, hquote, hescape⟩ : ¬c.toNat < 32 ∧ c ≠ '"' ∧ c ≠ '\\' := by simpa using h
    rw [List.singleton_append, readText.eq_def]
    split <;> simp_all

theorem readText_chars (acc : String) (chars rest : List Char) :
    readText acc (chars.flatMap written ++ '"' :: rest) = some (chars.foldl String.push acc, rest) := by
  induction chars generalizing acc with
  | nil => simp [readText]
  | cons c chars ih => rw [List.flatMap_cons, List.append_assoc, readText_written, ih, List.foldl_cons]

theorem readText_quoted (text : String) (rest : List Char) :
    readText "" (text.toList.flatMap written ++ '"' :: rest) = some (text, rest) := by
  rw [readText_chars]
  congr 2
  exact String.toList_inj.mp (by simp [toList_foldl_push])

/-! ### The beginnings of values -/

/-- A character with which a value may begin. -/
def StartsValue (c : Char) : Prop := (c ≠ ' ' ∧ c ≠ '\n' ∧ c ≠ '\t' ∧ c ≠ '\r') ∧ c ≠ ']'

theorem startsValue_of_startsNumeral {c : Char} (h : StartsNumeral c) : StartsValue c :=
  ⟨⟨h.ne (by decide), h.ne (by decide), h.ne (by decide), h.ne (by decide)⟩, h.ne (by decide)⟩

theorem skipBlank_cons {c : Char} (h : StartsValue c) (rest : List Char) : skipBlank (c :: rest) = c :: rest := by
  simp [skipBlank, h.1]

/-- Behind a value stands nothing that a numeral could go on with. -/
theorem endsNumeral_cons {c : Char} (h : c = ',' ∨ c = ']' ∨ c = '\x7d') (rest : List Char) :
    EndsNumeral (c :: rest) := by
  rintro d hd
  cases hd
  rcases h with rfl | rfl | rfl <;> decide

end Reader

namespace Value

/-- A value that nests at most `depth` deep, whose numbers are read from their text, and in which no object has two
members of one name. -/
inductive Readable : Nat → Value → Prop
  | null {depth : Nat} : Readable depth .null
  | bool {depth : Nat} (value : Bool) : Readable depth (.bool value)
  | number {depth : Nat} {value : Number} : value.ReadsBack → Readable depth (.number value)
  | string {depth : Nat} (text : String) : Readable depth (.string text)
  | array {depth : Nat} {items : List Value} : (∀ item ∈ items, Readable depth item) →
      Readable (depth + 1) (.array items)
  | object {depth : Nat} {members : List (String × Value)} : (members.map Prod.fst).Nodup →
      (∀ member ∈ members, Readable depth member.2) → Readable (depth + 1) (.object members)

theorem Readable.starts {depth : Nat} {value : Value} (h : value.Readable depth) :
    ∃ c rest, value.chars = c :: rest ∧ Reader.StartsValue c := by
  cases h with
  | null => exact ⟨_, _, chars_null, by simp [Reader.StartsValue]⟩
  | bool value =>
    cases value with
    | true => exact ⟨_, _, chars_true, by simp [Reader.StartsValue]⟩
    | false => exact ⟨_, _, chars_false, by simp [Reader.StartsValue]⟩
  | number hnumber =>
    obtain ⟨c, rest, htext, hc⟩ := hnumber.starts
    exact ⟨c, rest, (chars_number _).trans htext, Reader.startsValue_of_startsNumeral hc⟩
  | string text => exact ⟨_, _, chars_string text, by simp [Reader.StartsValue]⟩
  | @array _ items _ =>
    cases items with
    | nil => exact ⟨_, _, chars_array_nil, by simp [Reader.StartsValue]⟩
    | cons item items => exact ⟨_, _, chars_array_cons item items, by simp [Reader.StartsValue]⟩
  | @object _ members _ _ =>
    cases members with
    | nil => exact ⟨_, _, chars_object_nil, by simp [Reader.StartsValue]⟩
    | cons member members => exact ⟨_, _, chars_object_cons member members, by simp [Reader.StartsValue]⟩

end Value

namespace Reader

/-- Wherever it stands and whatever follows, a value is read from its characters by enough steps. -/
def Reads (depth : Nat) (value : Value) : Prop :=
  ∀ fuel rest, 2 * value.chars.length ≤ fuel → EndsNumeral rest →
    readValue fuel (depth + 1) .any (value.chars ++ rest) = .ok (value, rest)

/-! ### Scalars -/

theorem readValue_scalar {fuel depth : Nat} {c : Char} {rest : List Char} (hblank : skipBlank (c :: rest) = c :: rest)
    (harray : c ≠ '[') (hobject : c ≠ '\x7b') {value : Value} {after : List Char}
    (h : readScalar (c :: rest) = some (value, after)) :
    readValue (fuel + 1) depth .any (c :: rest) = .ok (value, after) := by
  rw [readValue.eq_def]
  dsimp only
  rw [hblank]
  split <;> simp_all

theorem readScalar_number {number : Number} (h : number.ReadsBack) {rest : List Char} (hrest : EndsNumeral rest) :
    readScalar (number.toText.toList ++ rest) = some (.number number, rest) := by
  obtain ⟨c, digits, htext, hc⟩ := h.starts
  have hread := h rest hrest
  rw [htext, List.cons_append] at hread ⊢
  have hother : c ≠ '"' ∧ c ≠ 'n' ∧ c ≠ 't' ∧ c ≠ 'f' :=
    ⟨hc.ne (by decide), hc.ne (by decide), hc.ne (by decide), hc.ne (by decide)⟩
  rw [readScalar.eq_def]
  split <;> simp_all

/-- A value that is no array and no object is read as a scalar. -/
theorem reads_of_readScalar {depth : Nat} {value : Value} {c : Char} {chars : List Char}
    (hchars : value.chars = c :: chars) (hstarts : StartsValue c) (harray : c ≠ '[') (hobject : c ≠ '\x7b')
    (h : ∀ rest, EndsNumeral rest → readScalar (value.chars ++ rest) = some (value, rest)) : Reads depth value := by
  intro fuel rest hfuel hrest
  obtain ⟨fuel, rfl⟩ : ∃ n, fuel = n + 1 := Nat.exists_eq_add_one.mpr (by simp [hchars] at hfuel; omega)
  have hread := h rest hrest
  rw [hchars] at hread ⊢
  exact readValue_scalar (skipBlank_cons hstarts _) harray hobject hread

theorem reads_null (depth : Nat) : Reads depth .null := by
  refine reads_of_readScalar Value.chars_null (by simp [StartsValue]) (by decide) (by decide) fun rest _ => ?_
  simp [readScalar, afterWord?]

theorem reads_bool (depth : Nat) (value : Bool) : Reads depth (.bool value) := by
  cases value with
  | true =>
    refine reads_of_readScalar Value.chars_true (by simp [StartsValue]) (by decide) (by decide) fun rest _ => ?_
    simp [readScalar, afterWord?]
  | false =>
    refine reads_of_readScalar Value.chars_false (by simp [StartsValue]) (by decide) (by decide) fun rest _ => ?_
    simp [readScalar, afterWord?]

theorem reads_string (depth : Nat) (text : String) : Reads depth (.string text) := by
  refine reads_of_readScalar (Value.chars_string text) (by simp [StartsValue]) (by decide) (by decide) fun rest _ => ?_
  rw [Value.chars_string, quoted, List.append_assoc, List.cons_append, readScalar, List.singleton_append,
    readText_quoted]
  rfl

theorem reads_number (depth : Nat) {number : Number} (h : number.ReadsBack) : Reads depth (.number number) := by
  obtain ⟨c, digits, htext, hc⟩ := h.starts
  refine reads_of_readScalar ((Value.chars_number number).trans htext) (startsValue_of_startsNumeral hc)
    (hc.ne (by decide)) (hc.ne (by decide)) fun rest hrest => ?_
  rw [Value.chars_number]
  exact readScalar_number h hrest

/-! ### Arrays -/

theorem endsNumeral_moreItems (items : List Value) (rest : List Char) :
    EndsNumeral (Value.moreItems items ++ ']' :: rest) := by
  cases items with
  | nil => exact endsNumeral_cons (.inr (.inl rfl)) _
  | cons item items => exact endsNumeral_cons (.inl rfl) _

theorem readItems_more {depth : Nat} {items : List Value} (h : ∀ item ∈ items, Reads depth item) (fuel : Nat)
    (hfuel : 2 * (Value.moreItems items).length + 2 ≤ fuel) (acc : List Value) (rest : List Char) :
    readItems fuel (depth + 1) false acc (Value.moreItems items ++ ']' :: rest) =
      .ok (.array (acc.reverse ++ items), rest) := by
  induction items generalizing fuel acc with
  | nil =>
    obtain ⟨fuel, rfl⟩ : ∃ n, fuel = n + 1 := Nat.exists_eq_add_one.mpr (by omega)
    simp [Value.moreItems, readItems, skipBlank]
  | cons item items ih =>
    obtain ⟨fuel, rfl⟩ : ∃ n, fuel = n + 1 := Nat.exists_eq_add_one.mpr (by omega)
    have hlength : (Value.moreItems (item :: items)).length =
        1 + item.chars.length + (Value.moreItems items).length := by
      simp [Value.moreItems, Nat.add_comm, Nat.add_assoc]
    have hchars : Value.moreItems (item :: items) ++ ']' :: rest =
        ',' :: (item.chars ++ (Value.moreItems items ++ ']' :: rest)) := by
      simp [Value.moreItems]
    have hread := h item List.mem_cons_self fuel _ (by omega) (endsNumeral_moreItems items rest)
    have hnext := ih (fun item hitem => h item (List.mem_cons_of_mem _ hitem)) fuel (by omega) (item :: acc)
    rw [hchars, readItems.eq_def]
    simpa [skipBlank, hread] using hnext

theorem reads_array {depth : Nat} {items : List Value} (h : ∀ item ∈ items, Reads depth item)
    (hstarts : ∀ item ∈ items, ∃ c chars, item.chars = c :: chars ∧ StartsValue c) :
    Reads (depth + 1) (.array items) := by
  intro fuel rest hfuel hrest
  cases items with
  | nil =>
    rw [Value.chars_array_nil] at hfuel ⊢
    obtain ⟨fuel, rfl⟩ : ∃ n, fuel = n + 2 := ⟨fuel - 2, by simp at hfuel; omega⟩
    simp [readValue, readItems, skipBlank]
  | cons item items =>
    rw [Value.chars_array_cons] at hfuel ⊢
    obtain ⟨fuel, rfl⟩ : ∃ n, fuel = n + 2 := ⟨fuel - 2, by simp at hfuel; omega⟩
    simp only [List.length_cons, List.length_append, List.length_nil] at hfuel
    obtain ⟨c, chars, hchars, hc⟩ := hstarts item List.mem_cons_self
    have hread := h item List.mem_cons_self fuel (Value.moreItems items ++ ']' :: rest) (by omega)
      (endsNumeral_moreItems items rest)
    have hmore := readItems_more (fun item hitem => h item (List.mem_cons_of_mem _ hitem)) fuel (by omega) [item] rest
    rw [hchars] at hread ⊢
    have hitems : readItems (fuel + 1) (depth + 1) true [] (c :: chars ++ (Value.moreItems items ++ ']' :: rest)) =
        .ok (.array (item :: items), rest) := by
      rw [List.cons_append] at hread ⊢
      rw [readItems.eq_def]
      dsimp only
      rw [skipBlank_cons hc]
      have hbracket := hc.2
      split <;> simp_all
    have hopened : '[' :: (c :: chars ++ Value.moreItems items ++ [']']) ++ rest =
        '[' :: (c :: chars ++ (Value.moreItems items ++ ']' :: rest)) := by
      simp
    rw [hopened, readValue.eq_def]
    simpa [skipBlank] using hitems

/-! ### Objects -/

theorem endsNumeral_moreMembers (members : List (String × Value)) (rest : List Char) :
    EndsNumeral (Value.moreMembers members ++ '\x7d' :: rest) := by
  cases members with
  | nil => exact endsNumeral_cons (.inr (.inr rfl)) _
  | cons member members => exact endsNumeral_cons (.inl rfl) _

/-- A member that the rule wants read is read, at the beginning of an object or behind a comma. -/
theorem readMembers_member {depth : Nat} (rule : MemberRule) (acc : List (String × Value)) {member : String × Value}
    (hrule : rule acc member.1 = .ok (some .any)) (h : Reads depth member.2) (fuel : Nat) (first : Bool)
    {rest : List Char} (hfuel : 2 * member.2.chars.length ≤ fuel) (hrest : EndsNumeral rest) :
    readMembers (fuel + 1) (depth + 1) rule first acc
        ((if first then [] else [',']) ++ (Value.memberChars member ++ rest)) =
      readMembers fuel (depth + 1) rule false (member :: acc) rest := by
  have hread := h fuel rest hfuel hrest
  have hname := readText_quoted member.1 (':' :: (member.2.chars ++ rest))
  have hchars : Value.memberChars member ++ rest =
      '"' :: (member.1.toList.flatMap written ++ '"' :: ':' :: (member.2.chars ++ rest)) := by
    simp [Value.memberChars, quoted]
  rw [hchars, readMembers.eq_def]
  cases first with
  | true => simp [skipBlank, hname, hrule, hread]
  | false => simp [skipBlank, hname, hrule, hread]

theorem readMembers_end (fuel depth : Nat) (rule : MemberRule) (first : Bool) (acc : List (String × Value))
    (rest : List Char) : readMembers (fuel + 1) depth rule first acc ('\x7d' :: rest) = .ok (acc.reverse, rest) := by
  rw [readMembers.eq_def]
  cases first with
  | true => simp [skipBlank]
  | false => simp [skipBlank]

theorem readMembers_more {depth : Nat} {members : List (String × Value)}
    (h : ∀ member ∈ members, Reads depth member.2) (fuel : Nat)
    (hfuel : 2 * (Value.moreMembers members).length + 2 ≤ fuel) (acc : List (String × Value)) (rest : List Char) :
    readMembers fuel (depth + 1) (everyMember .any) false acc (Value.moreMembers members ++ '\x7d' :: rest) =
      .ok (acc.reverse ++ members, rest) := by
  induction members generalizing fuel acc with
  | nil =>
    obtain ⟨fuel, rfl⟩ : ∃ n, fuel = n + 1 := Nat.exists_eq_add_one.mpr (by omega)
    simpa [Value.moreMembers] using readMembers_end fuel (depth + 1) (everyMember .any) false acc rest
  | cons member members ih =>
    obtain ⟨fuel, rfl⟩ : ∃ n, fuel = n + 1 := Nat.exists_eq_add_one.mpr (by omega)
    have hlength : (Value.moreMembers (member :: members)).length =
        1 + (Value.memberChars member).length + (Value.moreMembers members).length := by
      simp [Value.moreMembers, Nat.add_comm, Nat.add_assoc]
    have hvalue := Value.length_chars_le member
    have hmember := readMembers_member (everyMember .any) acc rfl (h member List.mem_cons_self) fuel false
      (by omega) (endsNumeral_moreMembers members rest)
    have hnext := ih (fun member hm => h member (List.mem_cons_of_mem _ hm)) fuel (by omega) (member :: acc)
    have hchars : Value.moreMembers (member :: members) ++ '\x7d' :: rest =
        [','] ++ (Value.memberChars member ++ (Value.moreMembers members ++ '\x7d' :: rest)) := by
      simp [Value.moreMembers]
    rw [hchars]
    refine hmember.trans (hnext.trans ?_)
    simp

/-- Behind its brace, the members of an object are read one by one, whether or not their names are distinct. -/
theorem readMembers_object {depth : Nat} {members : List (String × Value)}
    (h : ∀ member ∈ members, Reads depth member.2) {fuel : Nat}
    (hfuel : 2 * (Value.object members).chars.length ≤ fuel) (rest : List Char) :
    ∃ steps inner, fuel = steps + 1 ∧ (Value.object members).chars ++ rest = '\x7b' :: inner ∧
      readMembers steps (depth + 1) (everyMember .any) true [] inner = .ok (members, rest) := by
  cases members with
  | nil =>
    rw [Value.chars_object_nil] at hfuel ⊢
    obtain ⟨fuel, rfl⟩ : ∃ n, fuel = n + 2 := ⟨fuel - 2, by simp at hfuel; omega⟩
    exact ⟨fuel + 1, '\x7d' :: rest, rfl, rfl, readMembers_end fuel (depth + 1) (everyMember .any) true [] rest⟩
  | cons member members =>
    rw [Value.chars_object_cons] at hfuel ⊢
    obtain ⟨fuel, rfl⟩ : ∃ n, fuel = n + 2 := ⟨fuel - 2, by simp at hfuel; omega⟩
    simp only [List.length_cons, List.length_append, List.length_nil] at hfuel
    have hvalue := Value.length_chars_le member
    have hmember := readMembers_member (everyMember .any) [] rfl (h member List.mem_cons_self) fuel true (by omega)
      (endsNumeral_moreMembers members rest)
    have hmore := readMembers_more (fun member hm => h member (List.mem_cons_of_mem _ hm)) fuel (by omega) [member] rest
    refine ⟨fuel + 1, Value.memberChars member ++ (Value.moreMembers members ++ '\x7d' :: rest), rfl, by simp, ?_⟩
    simpa using hmember.trans hmore

theorem reads_object {depth : Nat} {members : List (String × Value)} (hnames : (members.map Prod.fst).Nodup)
    (h : ∀ member ∈ members, Reads depth member.2) : Reads (depth + 1) (.object members) := by
  intro fuel rest hfuel _
  obtain ⟨steps, inner, rfl, hchars, hmembers⟩ := readMembers_object h hfuel rest
  rw [hchars, readValue.eq_def]
  simp [skipBlank, hmembers, Value.ofMembers_of_nodup hnames]

theorem reads_of_readable {depth : Nat} {value : Value} (h : value.Readable depth) : Reads depth value := by
  induction h with
  | null => exact reads_null _
  | bool value => exact reads_bool _ value
  | number hnumber => exact reads_number _ hnumber
  | string text => exact reads_string _ text
  | array hitems ih => exact reads_array ih fun item hitem => (hitems item hitem).starts
  | object hnames _ ih => exact reads_object hnames ih

/-- An object of one member is read against the shape of a record that lists it and needs no other. -/
theorem readValue_record {depth : Nat} {members : List (String × Bool × Shape)} {name : String} {value : Value}
    {required : Bool} (hlisted : members.lookup name = some (required, .any))
    (hothers : ∀ member ∈ members, member.2.1 = true → member.1 = name) (h : Reads depth value) (fuel : Nat)
    (hfuel : 2 * value.chars.length ≤ fuel) :
    readValue (fuel + 3) (depth + 2) (.record members) ('\x7b' :: (Value.memberChars (name, value) ++ ['\x7d'])) =
      .ok (.object [(name, value)], []) := by
  have hrule : listedMember members [] name = .ok (some .any) := by
    simp [listedMember, hlisted]
  have hcomplete : isComplete members [(name, value)] = true := by
    rw [isComplete, List.all_eq_true]
    rintro ⟨other, needed, shape⟩ hmem
    cases needed with
    | false => rfl
    | true =>
      have hname : other = name := hothers _ hmem rfl
      simp [hname]
  have hmember := @readMembers_member depth (listedMember members) [] (name, value) hrule h (fuel + 1) true _
    (Nat.le_succ_of_le hfuel) (endsNumeral_moreMembers [] [])
  have hend := readMembers_end fuel (depth + 1) (listedMember members) false [(name, value)] []
  have hmembers := hmember.trans hend
  simp only [if_true, List.nil_append, Value.moreMembers, List.flatMap_nil] at hmembers
  rw [readValue.eq_def]
  simp [skipBlank, hmembers, hcomplete]

end Reader

/-! ### Main statements -/

theorem Shape.read_of_readValue {shape : Shape} {text : String} {value : Value}
    (h : Reader.readValue (2 * text.toList.length + 64) Reader.maxDepth shape text.toList = .ok (value, [])) :
    shape.read text = .ok value := by
  simp only [Shape.read, h]
  rfl

/-- The compact text of a value that nests at most 127 deep is read as the value. -/
theorem Value.parse?_compact {value : Value} (h : value.Readable 127) : parse? value.compact = some value := by
  have hread := Reader.reads_of_readable h (2 * value.chars.length + 64) [] (by omega) (by simp [EndsNumeral])
  rw [List.append_nil] at hread
  rw [parse?, Shape.read_of_readValue hread]
  rfl

/-- So is an object of one member against the shape of a record that lists it and needs no other. -/
theorem Shape.read_compact_singleton {members : List (String × Bool × Shape)} {name : String} {value : Value}
    {required : Bool} (hlisted : members.lookup name = some (required, .any))
    (hothers : ∀ member ∈ members, member.2.1 = true → member.1 = name) (h : value.Readable 126) :
    (Shape.record members).read (Value.object [(name, value)]).compact = .ok (.object [(name, value)]) := by
  have hchars : (Value.object [(name, value)]).compact.toList =
      '\x7b' :: (Value.memberChars (name, value) ++ ['\x7d']) :=
    (Value.chars_object_cons (name, value) []).trans (by simp [Value.moreMembers])
  have hvalue : value.chars.length ≤ _ := Value.length_chars_le (name, value)
  have hread := Reader.readValue_record hlisted hothers (Reader.reads_of_readable h)
    (2 * (Value.memberChars (name, value)).length + 65) (by omega)
  refine Shape.read_of_readValue ?_
  rw [hchars]
  have hfuel : 2 * ('\x7b' :: (Value.memberChars (name, value) ++ ['\x7d'])).length + 64 =
      2 * (Value.memberChars (name, value)).length + 65 + 3 := by
    simp [Nat.mul_add]
  rw [hfuel]
  exact hread

/-- An object in which names may come again is read with each name once. -/
theorem Shape.read_compact_object {members : List (String × Value)} (h : ∀ member ∈ members, member.2.Readable 126) :
    (Shape.fields .any).read (Value.object members).compact = .ok (.ofMembers members) := by
  have hreads : ∀ member ∈ members, Reader.Reads 126 member.2 :=
    fun member hmember => Reader.reads_of_readable (h member hmember)
  obtain ⟨steps, inner, hsteps, hchars, hmembers⟩ := Reader.readMembers_object hreads (Nat.le_add_right _ 64) []
  refine Shape.read_of_readValue ?_
  rw [List.append_nil] at hchars
  change Reader.readValue (2 * (Value.object members).chars.length + 64) _ _ (Value.object members).chars = _
  rw [hsteps, hchars, Reader.readValue.eq_def]
  simp [Reader.skipBlank, Reader.maxDepth, hmembers]

end AggregateGateway.Json
