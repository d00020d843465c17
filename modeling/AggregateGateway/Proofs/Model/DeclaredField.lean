import AggregateGateway.Proofs.Json.Encoding
import AggregateGateway.Proofs.Json.Path
import AggregateGateway.Schema.Text

/-!
A declared field, from its document to its line in a schema. Of what a document has for a field, the line shows the
parameters that have a type, in the order of the document, and the return type, if it has a name. A flag is taken for
what it says: everything says yes but `null`, `false`, a zero of any kind and the empty text.
-/

namespace AggregateGateway

open Json

/-! ### Flags -/

theorem Binary64.isZero_iff {x : Binary64} : x.isZero = true ↔ x.toRatio.1 = 0 := by
  have hpow : Nat.pow 2 x.exponent.toNat ≠ 0 := Nat.ne_of_gt (Nat.two_pow_pos _)
  rw [isZero, toRatio, beq_iff_eq]
  split
  · exact (Nat.mul_eq_zero.trans (or_iff_left hpow)).symm
  · exact Iff.rfl

namespace Json.Value

/-- A value that says no where a flag is expected. -/
inductive SaysNo : Value → Prop
  | null : SaysNo .null
  | false : SaysNo (.bool false)
  | integer : SaysNo (.number (.integer 0))
  | real {x : Binary64} : x.toRatio.1 = 0 → SaysNo (.number (.real x))
  | text : SaysNo (.string "")

theorem isTruthy_eq_false_iff {value : Value} : value.isTruthy = false ↔ value.SaysNo := by
  constructor
  · intro h
    cases value with
    | null => exact .null
    | bool b =>
      obtain rfl : b = false := h
      exact .false
    | number n =>
      rw [isTruthy, Bool.not_eq_false'] at h
      cases n with
      | integer i =>
        obtain rfl : i = 0 := beq_iff_eq.mp h
        exact .integer
      | real x => exact .real (Binary64.isZero_iff.mp h)
    | string text =>
      rw [isTruthy, Bool.not_eq_false', String.isEmpty_iff] at h
      exact h ▸ .text
    | array _ => cases h
    | object _ => cases h
  · rintro (_ | _ | _ | hx | _)
    · rfl
    · rfl
    · rfl
    · simp [isTruthy, Number.isZero, Binary64.isZero_iff.mpr hx]
    · rfl

end Json.Value

/-! ### What is read of the members -/

namespace ReturnType

theorem shows_name : record.Shows "name" name (Value.decodeOption Value.decodeString) := by
  apply Record.Shows.of_parts
  · decide
  · simp only [record, List.forall_mem_cons]
    refine ⟨.own (fun type name => { type with name := name }) rfl ?_ ?_,
      .other (fun value => .ok value.isTruthy) (fun type collection => { type with isCollection := collection })
        (by decide) ?_ ?_, nofun⟩
    all_goals exact fun _ _ => rfl

theorem shows_isCollection : record.Shows "isCollection" isCollection fun value => .ok value.isTruthy := by
  apply Record.Shows.of_parts
  · decide
  · simp only [record, List.forall_mem_cons]
    refine ⟨.other (Value.decodeOption Value.decodeString) (fun type name => { type with name := name })
        (by decide) ?_ ?_,
      .own (fun type collection => { type with isCollection := collection }) rfl ?_ ?_, nofun⟩
    all_goals exact fun _ _ => rfl

end ReturnType

namespace FieldSpec

theorem shows_params : record.Shows "params" params decodeParams := by
  apply Record.Shows.of_parts
  · decide
  · simp only [record, List.forall_mem_cons]
    refine ⟨.own (fun spec params => { spec with params := params }) rfl ?_ ?_,
      .other (Value.decodeOption ReturnType.decode) (fun spec type => { spec with returnType := type })
        (by decide) ?_ ?_,
      .other (Value.decodeOption ResolverRef.decode) (fun spec resolver => { spec with resolver := resolver })
        (by decide) ?_ ?_, nofun⟩
    all_goals exact fun _ _ => rfl

theorem shows_returnType : record.Shows "returnType" returnType (Value.decodeOption ReturnType.decode) := by
  apply Record.Shows.of_parts
  · decide
  · simp only [record, List.forall_mem_cons]
    refine ⟨.other decodeParams (fun spec params => { spec with params := params }) (by decide) ?_ ?_,
      .own (fun spec type => { spec with returnType := type }) rfl ?_ ?_,
      .other (Value.decodeOption ResolverRef.decode) (fun spec resolver => { spec with resolver := resolver })
        (by decide) ?_ ?_, nofun⟩
    all_goals exact fun _ _ => rfl

end FieldSpec

/-! ### Parameters -/

/-- A member that is a text, as a parameter. -/
def textParam? : String × Value → Option (String × String)
  | (name, .string type) => some (name, type)
  | _ => none

/-- The parameters that a document declares: the members of `params` that are texts but not empty, in their order. -/
def Json.Value.declaredParams (document : Value) : List (String × String) :=
  match document.get? "params" with
  | some (.object members) => (members.filterMap textParam?).filter fun (_, type) => type ≠ ""
  | _ => []

/-- `(name:Type, …)`, or nothing at all for no parameters. -/
def bracketed : List (String × String) → String
  | [] => ""
  | params => "(" ++ ", ".intercalate (params.map fun (name, type) => name ++ ":" ++ type) ++ ")"

theorem parameterList_eq_bracketed (params : OrderedMap String) :
    parameterList params = bracketed (params.entries.filter fun (_, type) => type ≠ "") := by
  have htyped : (fun (_, type) => !type.isEmpty : String × String → Bool) = fun (_, type) => decide (type ≠ "") := by
    funext ⟨_, type⟩
    by_cases h : type = "" <;> simp [h]
  rw [parameterList, htyped]
  cases params.entries.filter fun (_, type) => decide (type ≠ "") <;> rfl

theorem FieldSpec.entries_of_decodeParams {members : List (String × Value)} (hnames : (Entries.keys members).Nodup)
    {params : OrderedMap String} (h : decodeParams (.object members) = .ok params) :
    params.entries = members.filterMap textParam? := by
  have hraw := decodeOrderedMap_entries ⟨members, hnames⟩
  have hkept : ∀ entry param, textParam? entry = some param → param.1 = entry.1 := by
    rintro ⟨name, value⟩ param hparam
    cases value with
    | string type => exact congrArg Prod.fst (Option.some.inj hparam).symm
    | null | bool _ | number _ | array _ | object _ => cases hparam
  rw [decodeParams, bind_of_ok hraw] at h
  obtain rfl := Except.ok.inj h
  exact congrArg OrderedMap.entries (OrderedMap.ofList_entries ⟨_, Entries.nodup_keys_filterMap hnames hkept⟩)

variable {document : Value} {spec : FieldSpec}

theorem FieldSpec.parameterList_of_decode (hobject : document.IsObject) (hdistinct : document.Distinct)
    (h : decode document = .ok spec) : parameterList spec.params = bracketed document.declaredParams := by
  obtain ⟨members, rfl⟩ := hobject
  rw [parameterList_eq_bracketed, Value.declaredParams]
  congr 1
  obtain ⟨hlookup, hparams⟩ | ⟨value, hlookup, hparams⟩ := shows_params.of_decode hdistinct.nodup_names h
  · rw [Value.get?, hlookup, hparams]
    rfl
  · have hget : (Value.object members).get? "params" = some value := hlookup
    rw [hget]
    cases value with
    | null =>
      obtain hempty := Except.ok.inj hparams
      rw [← hempty]
      rfl
    | object inner => rw [entries_of_decodeParams (hdistinct.of_get? hget).nodup_names hparams]
    | bool _ | number _ | string _ | array _ => cases hparams

/-! ### Return types -/

namespace Json.Value

/-- A document that gives no name for a return type. -/
inductive NamesNoType (document : Value) : Prop
  | noType : document.get? "returnType" = none → NamesNoType document
  | nullType : document.get? "returnType" = some .null → NamesNoType document
  | noName {type : Value} : document.get? "returnType" = some type → type.get? "name" = none → NamesNoType document
  | nullName : document.At ["returnType", "name"] .null → NamesNoType document
  | emptyName : document.At ["returnType", "name"] (.string "") → NamesNoType document

/-- What is written for a return type of some name: brackets say that its flag is there and does not say no. -/
inductive TypeText (document : Value) (name : String) : String → Prop
  | one : (∀ flag, document.At ["returnType", "isCollection"] flag → flag.SaysNo) → TypeText document name name
  | many {flag : Value} : document.At ["returnType", "isCollection"] flag → ¬flag.SaysNo →
      TypeText document name ("[" ++ name ++ "]")

theorem NamesNoType.eq_empty (h : document.NamesNoType) {name : String}
    (hname : document.At ["returnType", "name"] (.string name)) : name = "" := by
  obtain ⟨type, htype, hat⟩ := at_cons_iff.mp hname
  obtain ⟨inner, hinner, hat⟩ := at_cons_iff.mp hat
  obtain rfl := at_nil_iff.mp hat
  cases h with
  | noType hnone => cases hnone.symm.trans htype
  | nullType hnull =>
    cases hnull.symm.trans htype
    cases hinner
  | noName hother hnone =>
    cases hother.symm.trans htype
    cases hnone.symm.trans hinner
  | nullName hnull => cases hnull.unique hname
  | emptyName hempty => exact Value.string.inj (hname.unique hempty)

end Json.Value

namespace ReturnType

variable {type : ReturnType} {name : String} {members : List (String × Value)}

theorem text?_of_name (hname : type.name = some name) (hne : name ≠ "") :
    type.text? = some (if type.isCollection then "[" ++ name ++ "]" else name) := by
  simp [text?, hname, hne]

theorem name_cases (hnames : (Entries.keys members).Nodup) (h : decode (.object members) = .ok type) :
    (members.lookup "name" = none ∧ type.name = none) ∨ (members.lookup "name" = some .null ∧ type.name = none) ∨
      ∃ name, members.lookup "name" = some (.string name) ∧ type.name = some name := by
  obtain ⟨hlookup, hnone⟩ | ⟨value, hlookup, hread⟩ := shows_name.of_decode hnames h
  · exact .inl ⟨hlookup, hnone⟩
  · cases value with
    | null => exact .inr (.inl ⟨hlookup, (Except.ok.inj hread).symm⟩)
    | string name => exact .inr (.inr ⟨name, hlookup, (Except.ok.inj hread).symm⟩)
    | bool _ | number _ | array _ | object _ => cases hread

theorem typeText_of_decode (htype : document.get? "returnType" = some (.object members))
    (hnames : (Entries.keys members).Nodup) (h : decode (.object members) = .ok type) (name : String) :
    document.TypeText name (if type.isCollection then "[" ++ name ++ "]" else name) := by
  have hflag : ∀ flag, document.At ["returnType", "isCollection"] flag ↔ members.lookup "isCollection" = some flag := by
    intro flag
    rw [← Value.bind_get?_eq_some_iff, htype]
    rfl
  obtain ⟨hlookup, hblank⟩ | ⟨flag, hlookup, hread⟩ := shows_isCollection.of_decode hnames h
  · rw [hblank]
    refine .one fun flag hat => ?_
    cases hlookup.symm.trans ((hflag flag).mp hat)
  · have htruthy : flag.isTruthy = type.isCollection := Except.ok.inj hread
    cases hcollection : type.isCollection with
    | false =>
      refine .one fun other hat => ?_
      cases hlookup.symm.trans ((hflag other).mp hat)
      exact Value.isTruthy_eq_false_iff.mp (htruthy.trans hcollection)
    | true =>
      refine .many ((hflag flag).mpr hlookup) fun hno => ?_
      rw [Value.isTruthy_eq_false_iff.mpr hno, hcollection] at htruthy
      cases htruthy

theorem text?_cases (htype : document.get? "returnType" = some (.object members))
    (hnames : (Entries.keys members).Nodup) (h : decode (.object members) = .ok type) :
    (document.NamesNoType ∧ type.text? = none) ∨
      ∃ name text, name ≠ "" ∧ document.At ["returnType", "name"] (.string name) ∧ document.TypeText name text ∧
        type.text? = some text := by
  have hat : ∀ name, members.lookup "name" = some name → document.At ["returnType", "name"] name := by
    intro name hname
    rw [← Value.bind_get?_eq_some_iff, htype]
    exact hname
  rcases name_cases hnames h with ⟨hname, hnone⟩ | ⟨hname, hnone⟩ | ⟨name, hname, hsome⟩
  · exact .inl ⟨.noName htype hname, by rw [text?, hnone]⟩
  · exact .inl ⟨.nullName (hat _ hname), by rw [text?, hnone]⟩
  · by_cases hempty : name = ""
    · subst hempty
      exact .inl ⟨.emptyName (hat _ hname), by rw [text?, hsome]; rfl⟩
    · exact .inr ⟨name, _, hempty, hat _ hname, typeText_of_decode htype hnames h name, text?_of_name hsome hempty⟩

end ReturnType

/-- Either the document gives no name for a return type and nothing is written of one, or its name is written. -/
theorem FieldSpec.returnText?_cases (hobject : document.IsObject) (hdistinct : document.Distinct)
    (htypes : ∀ type, document.get? "returnType" = some type → type = .null ∨ type.IsObject)
    (h : decode document = .ok spec) :
    (document.NamesNoType ∧ spec.returnText? = none) ∨
      ∃ name text, name ≠ "" ∧ document.At ["returnType", "name"] (.string name) ∧ document.TypeText name text ∧
        spec.returnText? = some text := by
  obtain ⟨members, hmembers⟩ := hobject
  have hnames : (Entries.keys members).Nodup := (hmembers ▸ hdistinct).nodup_names
  have hget : document.get? "returnType" = members.lookup "returnType" := by rw [hmembers, Value.get?]
  obtain ⟨hlookup, hblank⟩ | ⟨value, hlookup, hread⟩ := shows_returnType.of_decode hnames (hmembers ▸ h)
  · exact .inl ⟨.noType (hget.trans hlookup), by rw [returnText?, hblank]; rfl⟩
  · have hvalue := hget.trans hlookup
    rcases htypes value hvalue with rfl | ⟨inner, rfl⟩
    · exact .inl ⟨.nullType hvalue, by rw [returnText?, ← Except.ok.inj hread]; rfl⟩
    · obtain ⟨type, hdecode, htype⟩ := map_eq_ok.mp hread
      have htext : spec.returnText? = type.text? := by rw [returnText?, ← htype]; rfl
      rw [htext]
      exact ReturnType.text?_cases hvalue (hdistinct.of_get? hvalue).nodup_names hdecode

/-! ### Main statement -/

/-- The line of a field, as the document of the field tells. -/
structure Renders (document : Value) (spec : FieldSpec) (field : String) : Prop where
  absent : spec.line? field = none ↔ document.NamesNoType
  present : ¬document.NamesNoType → ∃ name text, document.At ["returnType", "name"] (.string name) ∧
    document.TypeText name text ∧ spec.line? field = some (field ++ bracketed document.declaredParams ++ ": " ++ text)
  /-- With another return type nothing changes before the colon. -/
  replaced : ∀ (type : ReturnType) (name : String), type.name = some name → name ≠ "" →
    (spec.setReturnType type).line? field = some (field ++ bracketed document.declaredParams ++ ": " ++
      if type.isCollection then "[" ++ name ++ "]" else name)

/-- A field that is read from an object has the line that the object tells, whatever its name. That names are distinct
holds of every document that is read from a text (`Json.Value.distinct_of_parse?`). -/
theorem declared_field_renders {document : Value} {spec : FieldSpec} (hobject : document.IsObject)
    (hdistinct : document.Distinct)
    (htypes : ∀ type, document.get? "returnType" = some type → type = .null ∨ type.IsObject)
    (hdecode : FieldSpec.decode document = .ok spec) (field : String) : Renders document spec field := by
  have hparams := FieldSpec.parameterList_of_decode hobject hdistinct hdecode
  constructor
  case absent =>
    rw [FieldSpec.line?, Option.map_eq_none_iff]
    rcases FieldSpec.returnText?_cases hobject hdistinct htypes hdecode with
      ⟨hnone, htext⟩ | ⟨name, text, hne, hat, -, htext⟩
    · exact iff_of_true htext hnone
    · refine iff_of_false ?_ fun hnone => hne (hnone.eq_empty hat)
      rw [htext]
      exact nofun
  case present =>
    intro hnamed
    rcases FieldSpec.returnText?_cases hobject hdistinct htypes hdecode with
      ⟨hnone, -⟩ | ⟨name, text, -, hat, htype, htext⟩
    · exact absurd hnone hnamed
    · refine ⟨name, text, hat, htype, ?_⟩
      rw [FieldSpec.line?, htext, hparams]
      rfl
  case replaced =>
    intro type name hname hne
    have htext : (spec.setReturnType type).returnText? = type.text? := rfl
    rw [FieldSpec.line?, htext, ReturnType.text?_of_name hname hne, FieldSpec.setReturnType, hparams]
    rfl

/-- Among the parameters are some without a type, and the flag is a negative zero. -/
def looseField : Value :=
  .object [
    ("params", .object [("currency", .string "Currency"), ("count", .number (.integer 3)), ("note", .string ""),
      ("since", .string "Date"), ("until", .null)]),
    ("deprecated", .bool true),
    ("returnType", .object [("isCollection", .number (.real (.zero true))), ("name", .string "Order")]),
    ("resolver", .object [("uri", .string "http://orders")])]

theorem loose_field_renders :
    looseField.IsObject ∧ looseField.Distinct ∧
      (∀ type, looseField.get? "returnType" = some type → type = .null ∨ type.IsObject) ∧
      ∃ spec, FieldSpec.decode looseField = .ok spec ∧ Renders looseField spec "orders" ∧
        spec.line? "orders" = some "orders(currency:Currency, since:Date): Order" ∧
        (spec.setReturnType (.many "Id")).line? "orders" = some "orders(currency:Currency, since:Date): [Id]" := by
  have hobject : looseField.IsObject := ⟨_, rfl⟩
  have hdistinct : looseField.Distinct := by
    simp [looseField, Value.Distinct.null, Value.Distinct.bool, Value.Distinct.number]
  have htypes : ∀ type, looseField.get? "returnType" = some type → type = .null ∨ type.IsObject := by
    rintro _ ⟨⟩
    exact .inr ⟨_, rfl⟩
  obtain ⟨spec, hdecode⟩ : ∃ spec, FieldSpec.decode looseField = .ok spec := ⟨_, rfl⟩
  have hrenders := declared_field_renders hobject hdistinct htypes hdecode "orders"
  refine ⟨hobject, hdistinct, htypes, spec, hdecode, hrenders, ?_, hrenders.replaced (.many "Id") "Id" rfl (by decide)⟩
  have hat : looseField.At ["returnType", "name"] (.string "Order") := Value.bind_get?_eq_some_iff.mp rfl
  have hnamed : ¬looseField.NamesNoType := fun h => absurd (h.eq_empty hat) (by decide)
  obtain ⟨name, text, hname, htype, hline⟩ := hrenders.present hnamed
  cases hname.unique hat
  cases htype with
  | one _ => exact hline
  | many hflag hyes =>
    have hzero : looseField.At ["returnType", "isCollection"] (.number (.real (.zero true))) :=
      Value.bind_get?_eq_some_iff.mp rfl
    obtain rfl := hflag.unique hzero
    exact absurd (.real rfl) hyes

end AggregateGateway
