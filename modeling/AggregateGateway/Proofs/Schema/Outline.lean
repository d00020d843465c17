import AggregateGateway.Proofs.Schema.Headings

/-!
What the text of a schema says: its outline, block by block and field by field. Every part of the text ends at a
character that cannot stand inside it, so a reader of two equal texts meets equal parts in the same order, and schemas
with one text have one outline.
-/

namespace AggregateGateway

/-! ### Texts that tell where they end -/

/-- What is written of two things tells them apart, and from what comes next, as long as that is as expected. -/
def Delimited {α : Type} (legible : α → Prop) (chars : α → List Char) (follows : List Char → Prop) : Prop :=
  ∀ x y r s, legible x → legible y → follows r → follows s → chars x ++ r = chars y ++ s → x = y ∧ r = s

/-- The next character is none of a kind. -/
def EndsBefore (kind : Char → Bool) (rest : List Char) : Prop := ∀ c ∈ rest.head?, kind c = false

namespace Delimited

variable {α : Type} {legible : α → Prop} {chars : α → List Char} {follows stops : List Char → Prop}

/-- A word ends before the first character that is none of its kind. -/
theorem word (kind : Char → Bool) :
    Delimited (fun text : String => ∀ c ∈ text.toList, kind c = true) String.toList (EndsBefore kind) := by
  have htake : ∀ (text : String) (rest : List Char), (∀ c ∈ text.toList, kind c = true) → EndsBefore kind rest →
      (text.toList ++ rest).takeWhile kind = text.toList := by
    intro text rest htext hrest
    rw [List.takeWhile_append_of_pos htext]
    cases rest with
    | nil => simp
    | cons c tail => simp [hrest c rfl]
  intro x y r s hx hy hr hs h
  have hwords : x.toList = y.toList := by
    rw [← htake x r hx hr, h, htake y s hy hs]
  rw [hwords] at h
  exact ⟨String.toList_inj.mp hwords, List.append_cancel_left h⟩

/-- Items one behind another are told apart if each is told from the next one and the last from what stops them. -/
theorem items (h : Delimited legible chars follows) (hitem : ∀ x rest, legible x → follows (chars x ++ rest))
    (hstops : ∀ rest, stops rest → follows rest) (hstart : ∀ x rest, legible x → ¬stops (chars x ++ rest)) :
    Delimited (fun xs : List α => ∀ x ∈ xs, legible x) (List.flatMap chars) stops := by
  have hfollows : ∀ (xs : List α) rest, (∀ x ∈ xs, legible x) → stops rest → follows (xs.flatMap chars ++ rest) := by
    intro xs rest hxs hrest
    cases xs with
    | nil => exact hstops rest hrest
    | cons x xs =>
      rw [List.flatMap_cons, List.append_assoc]
      exact hitem x _ (hxs x List.mem_cons_self)
  intro xs
  induction xs with
  | nil =>
    intro ys r s _ hys hr hs heq
    cases ys with
    | nil => exact ⟨rfl, heq⟩
    | cons y ys =>
      rw [List.flatMap_nil, List.nil_append, List.flatMap_cons, List.append_assoc] at heq
      exact absurd (heq ▸ hr) (hstart y _ (hys y List.mem_cons_self))
  | cons x xs ih =>
    intro ys r s hlegible hlegible' hr hs heq
    obtain ⟨hx, hxs⟩ := List.forall_mem_cons.mp hlegible
    cases ys with
    | nil =>
      rw [List.flatMap_nil, List.nil_append, List.flatMap_cons, List.append_assoc] at heq
      exact absurd (heq ▸ hs) (hstart x _ hx)
    | cons y ys =>
      obtain ⟨hy, hys⟩ := List.forall_mem_cons.mp hlegible'
      rw [List.flatMap_cons, List.flatMap_cons, List.append_assoc, List.append_assoc] at heq
      obtain ⟨rfl, hrest⟩ := h x y _ _ hx hy (hfollows xs r hxs hr) (hfollows ys s hys hs) heq
      obtain ⟨rfl, hlast⟩ := ih ys r s hxs hys hr hs hrest
      exact ⟨rfl, hlast⟩

end Delimited

/-! ### Outlines -/

/-- The line of a field: its name, its parameters with their types, and its return type as it is written. -/
structure FieldOutline where
  name : String
  params : List (String × String)
  returns : String
deriving DecidableEq

structure BlockOutline where
  keyword : String
  name : String
  fields : List FieldOutline
deriving DecidableEq

/-- Parameters without a type are left out, and a field without a usable return type has no outline. -/
def FieldSpec.outline? (spec : FieldSpec) (name : String) : Option FieldOutline :=
  spec.returnText?.map fun returns => ⟨name, spec.params.entries.filter fun (_, type) => !type.isEmpty, returns⟩

def BlockOutline.ofType (keyword name : String) (type : TypeDefinition) : BlockOutline :=
  ⟨keyword, name, type.methods.entries.filterMap fun (field, spec) => spec.outline? field⟩

def Surface.outline (surface : Surface) : List BlockOutline :=
  (surface.types.entries.map fun (name, type) => .ofType "type" name type) ++
    surface.inputs.entries.map fun (name, type) => .ofType "input" name type

/-! ### What is written of an outline -/

def paramChars (param : String × String) : List Char := param.1.toList ++ ':' :: param.2.toList

/-- A parameter behind another one. -/
def nextParamChars (param : String × String) : List Char := ',' :: ' ' :: paramChars param

def paramsChars : List (String × String) → List Char
  | [] => []
  | first :: others => '(' :: (paramChars first ++ (others.flatMap nextParamChars ++ [')']))

def FieldOutline.chars (field : FieldOutline) : List Char :=
  ' ' :: ' ' :: (field.name.toList ++ (paramsChars field.params ++ ':' :: ' ' :: (field.returns.toList ++ ['\n'])))

def BlockOutline.chars (block : BlockOutline) : List Char :=
  block.keyword.toList ++ ' ' :: (block.name.toList ++
    ' ' :: '\x7b' :: '\n' :: (block.fields.flatMap FieldOutline.chars ++ ['\x7d', '\n', '\n']))

theorem toList_intercalate_cons (first : String) (others : List String) :
    (", ".intercalate (first :: others)).toList =
      first.toList ++ others.flatMap fun text => ',' :: ' ' :: text.toList := by
  induction others generalizing first with
  | nil => simp
  | cons second others ih =>
    rw [String.intercalate_cons_cons, String.toList_append, ih]
    simp

theorem toList_parameterList (params : OrderedMap String) :
    (parameterList params).toList = paramsChars (params.entries.filter fun (_, type) => !type.isEmpty) := by
  unfold parameterList
  generalize params.entries.filter (fun (_, type) => !type.isEmpty) = kept
  cases kept with
  | nil => rfl
  | cons first others =>
    have hparam : ∀ param : String × String, (param.1 ++ ":" ++ param.2).toList = paramChars param := by
      intro param
      simp [paramChars]
    have hnext : ∀ param : String × String, ',' :: ' ' :: paramChars param = nextParamChars param := fun _ => rfl
    rw [List.map_cons, if_neg (by simp), String.toList_append, String.toList_append, toList_intercalate_cons,
      List.flatMap_map]
    simp [hparam, hnext, paramsChars]

/-- The line of a field in a block is what is written of its outline. -/
theorem FieldSpec.toList_line? (spec : FieldSpec) (name : String) :
    (spec.line? name).map (fun line => ("  " ++ line ++ "\n").toList) = (spec.outline? name).map FieldOutline.chars := by
  rw [line?, outline?, Option.map_map, Option.map_map]
  congr 1
  funext returns
  simp [FieldOutline.chars, toList_parameterList]

theorem BlockOutline.toList_text (keyword name : String) (type : TypeDefinition) :
    (Block.ofType keyword name type).text.toList = (BlockOutline.ofType keyword name type).chars := by
  have hlines : ((type.methods.entries.filterMap fun (field, spec) => spec.line? field).map
        fun line => ("  " ++ line ++ "\n").toList) =
      (type.methods.entries.filterMap fun (field, spec) => spec.outline? field).map FieldOutline.chars := by
    rw [List.map_filterMap, List.map_filterMap]
    simp only [FieldSpec.toList_line?]
  have hfields : (String.join ((type.methods.entries.filterMap fun (field, spec) => spec.line? field).map
        fun line => "  " ++ line ++ "\n")).toList =
      (type.methods.entries.filterMap fun (field, spec) => spec.outline? field).flatMap FieldOutline.chars := by
    rw [String.toList_join, List.flatMap_map, List.flatMap_def, hlines, List.flatMap_def]
  rw [Block.text, Block.ofType, blockOfLines, BlockOutline.ofType, chars, String.toList_append, String.toList_append,
    hfields]
  simp

theorem Surface.toList_text (surface : Surface) : surface.text.toList = surface.outline.flatMap BlockOutline.chars := by
  rw [text_eq_blocks, String.toList_join, List.flatMap_map, blocks, outline, List.flatMap_append, List.flatMap_append,
    List.flatMap_map, List.flatMap_map, List.flatMap_map, List.flatMap_map]
  simp only [BlockOutline.toList_text]

/-! ### Reading it back -/

/-- A letter or digit of ASCII, or an underscore. -/
def isNameChar (c : Char) : Bool := c.isAlphanum || c == '_'

/-- Types may have marks as well: for what is never missing, and around collections. -/
def isTypeChar (c : Char) : Bool := isNameChar c || c == '!' || c == '[' || c == ']'

def IsName (text : String) : Prop := ∀ c ∈ text.toList, isNameChar c = true

def IsTypeText (text : String) : Prop := ∀ c ∈ text.toList, isTypeChar c = true

instance (text : String) : Decidable (IsName text) := List.decidableBAll (isNameChar · = true) text.toList

instance (text : String) : Decidable (IsTypeText text) := List.decidableBAll (isTypeChar · = true) text.toList

def LegibleParam (param : String × String) : Prop := IsName param.1 ∧ IsTypeText param.2

instance (param : String × String) : Decidable (LegibleParam param) :=
  inferInstanceAs (Decidable (IsName param.1 ∧ IsTypeText param.2))

structure FieldOutline.Legible (field : FieldOutline) : Prop where
  name : IsName field.name
  params : ∀ param ∈ field.params, LegibleParam param
  returns : IsTypeText field.returns

structure BlockOutline.Legible (block : BlockOutline) : Prop where
  keyword : IsName block.keyword
  name : IsName block.name
  fields : ∀ field ∈ block.fields, field.Legible

theorem delimited_name : Delimited IsName String.toList (EndsBefore isNameChar) := Delimited.word isNameChar

theorem delimited_typeText : Delimited IsTypeText String.toList (EndsBefore isTypeChar) := Delimited.word isTypeChar

theorem endsBefore_cons {kind : Char → Bool} {c : Char} (h : kind c = false) (rest : List Char) :
    EndsBefore kind (c :: rest) := by
  rintro _ ⟨⟩
  exact h

theorem delimited_param : Delimited LegibleParam paramChars (EndsBefore isTypeChar) := by
  rintro ⟨name, type⟩ ⟨name', type'⟩ r s ⟨hname, htype⟩ ⟨hname', htype'⟩ hr hs h
  simp only [paramChars, List.append_assoc, List.cons_append] at h
  obtain ⟨rfl, htail⟩ := delimited_name _ _ _ _ hname hname' (endsBefore_cons rfl _) (endsBefore_cons rfl _) h
  obtain ⟨rfl, hrest⟩ := delimited_typeText _ _ _ _ htype htype' hr hs (List.cons.inj htail).2
  exact ⟨rfl, hrest⟩

theorem delimited_nextParams :
    Delimited (fun params : List (String × String) => ∀ param ∈ params, LegibleParam param)
      (List.flatMap nextParamChars) fun rest => rest.head? = some ')' := by
  have hnext : Delimited LegibleParam nextParamChars (EndsBefore isTypeChar) := by
    intro x y r s hx hy hr hs h
    simp only [nextParamChars, List.cons_append] at h
    exact delimited_param x y r s hx hy hr hs (List.cons.inj (List.cons.inj h).2).2
  apply hnext.items
  · exact fun _ _ _ => endsBefore_cons rfl _
  · intro rest hrest c hc
    obtain rfl := Option.some.inj (hrest.symm.trans hc)
    rfl
  · intro x rest _ h
    simp [nextParamChars] at h

theorem delimited_params :
    Delimited (fun params : List (String × String) => ∀ param ∈ params, LegibleParam param) paramsChars
      fun rest => rest.head? = some ':' := by
  intro params others r s hlegible hlegible' hr hs h
  cases params with
  | nil =>
    cases others with
    | nil => exact ⟨rfl, h⟩
    | cons other others =>
      -- On one side comes a colon and on the other a bracket.
      rw [paramsChars, paramsChars, List.nil_append] at h
      rw [h] at hr
      cases hr
  | cons param params =>
    cases others with
    | nil =>
      rw [paramsChars, paramsChars, List.nil_append] at h
      rw [← h] at hs
      cases hs
    | cons other others =>
      obtain ⟨hparam, hparams⟩ := List.forall_mem_cons.mp hlegible
      obtain ⟨hother, hothers⟩ := List.forall_mem_cons.mp hlegible'
      have hends : ∀ (params : List (String × String)) (rest : List Char),
          EndsBefore isTypeChar (params.flatMap nextParamChars ++ ')' :: rest) := by
        intro params rest
        cases params <;> exact endsBefore_cons rfl _
      simp only [paramsChars, List.cons_append, List.append_assoc, List.nil_append] at h
      obtain ⟨rfl, hnext⟩ :=
        delimited_param _ _ _ _ hparam hother (hends params r) (hends others s) (List.cons.inj h).2
      obtain ⟨rfl, hrest⟩ := delimited_nextParams _ _ _ _ hparams hothers rfl rfl hnext
      exact ⟨rfl, (List.cons.inj hrest).2⟩

/-- A line of a field tells where it ends whatever comes next. -/
theorem delimited_field : Delimited FieldOutline.Legible FieldOutline.chars fun _ => True := by
  rintro ⟨name, params, returns⟩ ⟨name', params', returns'⟩ r s hfield hfield' - - h
  have hends : ∀ (params : List (String × String)) (rest : List Char),
      EndsBefore isNameChar (paramsChars params ++ ':' :: rest) := by
    intro params rest
    cases params <;> exact endsBefore_cons rfl _
  simp only [FieldOutline.chars, List.cons_append, List.append_assoc, List.nil_append] at h
  obtain ⟨rfl, hparams⟩ := delimited_name _ _ _ _ hfield.name hfield'.name (hends params _) (hends params' _)
    (List.cons.inj (List.cons.inj h).2).2
  obtain ⟨rfl, hreturns⟩ := delimited_params _ _ _ _ hfield.params hfield'.params rfl rfl hparams
  obtain ⟨rfl, hrest⟩ := delimited_typeText _ _ _ _ hfield.returns hfield'.returns (endsBefore_cons rfl _)
    (endsBefore_cons rfl _) (List.cons.inj (List.cons.inj hreturns).2).2
  exact ⟨rfl, (List.cons.inj hrest).2⟩

theorem delimited_fields :
    Delimited (fun fields : List FieldOutline => ∀ field ∈ fields, field.Legible)
      (List.flatMap FieldOutline.chars) fun rest => rest.head? = some '\x7d' := by
  apply delimited_field.items
  · exact fun _ _ _ => trivial
  · exact fun _ _ => trivial
  · intro field rest _ h
    cases h

theorem delimited_block : Delimited BlockOutline.Legible BlockOutline.chars fun _ => True := by
  rintro ⟨keyword, name, fields⟩ ⟨keyword', name', fields'⟩ r s hblock hblock' - - h
  simp only [BlockOutline.chars, List.cons_append, List.append_assoc, List.nil_append] at h
  obtain ⟨rfl, hname⟩ := delimited_name _ _ _ _ hblock.keyword hblock'.keyword (endsBefore_cons rfl _)
    (endsBefore_cons rfl _) h
  obtain ⟨rfl, hfields⟩ := delimited_name _ _ _ _ hblock.name hblock'.name (endsBefore_cons rfl _)
    (endsBefore_cons rfl _) (List.cons.inj hname).2
  obtain ⟨rfl, hrest⟩ := delimited_fields _ _ _ _ hblock.fields hblock'.fields rfl rfl
    (List.cons.inj (List.cons.inj (List.cons.inj hfields).2).2).2
  exact ⟨rfl, (List.cons.inj (List.cons.inj (List.cons.inj hrest).2).2).2⟩

/-- Blocks are told apart up to the end of the text. -/
theorem delimited_blocks :
    Delimited (fun blocks : List BlockOutline => ∀ block ∈ blocks, block.Legible)
      (List.flatMap BlockOutline.chars) fun rest => rest = [] := by
  apply delimited_block.items
  · exact fun _ _ _ => trivial
  · exact fun _ _ => trivial
  · intro block rest _ h
    simp [BlockOutline.chars] at h

/-! ### Main statement -/

/-- A field whose parameters have names of letters, digits and underscores, and whose types may have marks as well. A
name or a type may be empty. -/
structure FieldSpec.Legible (spec : FieldSpec) : Prop where
  params : ∀ param ∈ spec.params.entries, LegibleParam param
  returns : ∀ type ∈ spec.returnType, ∀ name ∈ type.name, IsTypeText name

structure TypeDefinition.Legible (type : TypeDefinition) : Prop where
  names : ∀ field ∈ type.methods.keys, IsName field
  fields : ∀ spec ∈ type.methods.values, spec.Legible

structure Surface.Legible (surface : Surface) : Prop where
  names : ∀ name ∈ surface.types.keys ++ surface.inputs.keys, IsName name
  types : ∀ type ∈ surface.types.values ++ surface.inputs.values, type.Legible

instance (spec : FieldSpec) : Decidable spec.Legible :=
  decidable_of_iff ((∀ param ∈ spec.params.entries, LegibleParam param) ∧
    ∀ type ∈ spec.returnType, ∀ name ∈ type.name, IsTypeText name) ⟨fun h => ⟨h.1, h.2⟩, fun h => ⟨h.params, h.returns⟩⟩

instance (type : TypeDefinition) : Decidable type.Legible :=
  decidable_of_iff ((∀ field ∈ type.methods.keys, IsName field) ∧ ∀ spec ∈ type.methods.values, spec.Legible)
    ⟨fun h => ⟨h.1, h.2⟩, fun h => ⟨h.names, h.fields⟩⟩

theorem ReturnType.isTypeText_of_text? {type : ReturnType} (h : ∀ name ∈ type.name, IsTypeText name) {text : String}
    (htext : type.text? = some text) : IsTypeText text := by
  unfold text? at htext
  split at htext
  · cases htext
  · next name hname =>
    have hname := h name hname
    split at htext
    · cases htext
    · obtain rfl := Option.some.inj htext
      split
      · intro c hc
        simp at hc
        rcases hc with rfl | hc | rfl
        · rfl
        · exact hname c hc
        · rfl
      · exact hname

theorem FieldSpec.Legible.outline? {spec : FieldSpec} (h : spec.Legible) {name : String} (hname : IsName name)
    {field : FieldOutline} (hfield : spec.outline? name = some field) : field.Legible := by
  obtain ⟨returns, hreturns, rfl⟩ := Option.map_eq_some_iff.mp hfield
  obtain ⟨type, htype, htext⟩ := Option.bind_eq_some_iff.mp hreturns
  exact ⟨hname, fun param hparam => h.params param (List.mem_filter.mp hparam).1,
    ReturnType.isTypeText_of_text? (h.returns type htype) htext⟩

theorem TypeDefinition.Legible.outline {type : TypeDefinition} (h : type.Legible) {keyword name : String}
    (hkeyword : IsName keyword) (hname : IsName name) : (BlockOutline.ofType keyword name type).Legible where
  keyword := hkeyword
  name := hname
  fields := by
    intro field hfield
    obtain ⟨⟨key, spec⟩, hentry, houtline⟩ := List.mem_filterMap.mp hfield
    have hkey := h.names key (List.mem_map.mpr ⟨_, hentry, rfl⟩)
    exact (h.fields spec (List.mem_map.mpr ⟨_, hentry, rfl⟩)).outline? hkey houtline

theorem Surface.Legible.outline {surface : Surface} (h : surface.Legible) :
    ∀ block ∈ surface.outline, block.Legible := by
  have hblocks : ∀ keyword, IsName keyword → ∀ types : OrderedMap TypeDefinition, (∀ name ∈ types.keys, IsName name) →
      (∀ type ∈ types.values, type.Legible) →
      ∀ block ∈ types.entries.map fun (name, type) => BlockOutline.ofType keyword name type, block.Legible := by
    rintro keyword hkeyword types hnames htypes _ hblock
    obtain ⟨⟨name, type⟩, hentry, rfl⟩ := List.mem_map.mp hblock
    have hname := hnames name (List.mem_map.mpr ⟨_, hentry, rfl⟩)
    exact (htypes type (List.mem_map.mpr ⟨_, hentry, rfl⟩)).outline hkeyword hname
  obtain ⟨htypeNames, hinputNames⟩ := List.forall_mem_append.mp h.names
  obtain ⟨htypes, hinputs⟩ := List.forall_mem_append.mp h.types
  refine List.forall_mem_append.mpr ⟨?_, ?_⟩
  · exact hblocks "type" (by decide) surface.types htypeNames htypes
  · exact hblocks "input" (by decide) surface.inputs hinputNames hinputs

/-- Schemas of legible names have the same text exactly if they have the same outline: the same blocks in the same
order, and in them the same lines. -/
theorem text_tells_outline {surface other : Surface} (h : surface.Legible) (h' : other.Legible) :
    surface.text = other.text ↔ surface.outline = other.outline := by
  rw [← String.toList_inj, surface.toList_text, other.toList_text]
  constructor
  · intro htext
    refine (delimited_blocks surface.outline other.outline [] [] h.outline h'.outline rfl rfl ?_).1
    rw [htext]
  · intro houtline
    rw [houtline]

/-- Two schemas with one text: parameters without a type, fields without a usable return type and endpoints do not show,
and brackets in the name of a type are those of a collection. -/
theorem plain_and_crowded_read_alike :
    let plain : Surface :=
      { types := .ofList [("Order", ⟨.ofList
          [("total", (FieldSpec.ofType "Int!").addParam "currency" "String"),
            ("lines", { returnType := some (.many "Line") })]⟩)]
        inputs := .ofList [("LineInput", ⟨.empty⟩)]
        actions := .empty }
    let crowded : Surface :=
      { types := .ofList [("Order", ⟨.ofList
          [("total", ((FieldSpec.ofType "Int!").addParam "note" "").addParam "currency" "String"), ("hidden", {}),
            ("lines", { returnType := some (.one "[Line]"), resolver := some ⟨"http://lines"⟩ })]⟩)]
        inputs := .ofList [("LineInput", ⟨.ofList [("nothing", .ofType "")]⟩)]
        actions := .ofList [("ship", {})] }
    plain ≠ crowded ∧ plain.text = crowded.text ∧ plain.outline = crowded.outline := by
  intro plain crowded
  have hplain : plain.Legible := ⟨by decide, by decide⟩
  have hcrowded : crowded.Legible := ⟨by decide, by decide⟩
  have htext : plain.text = crowded.text := by decide
  exact ⟨by decide, htext, (text_tells_outline hplain hcrowded).mp htext⟩

end AggregateGateway
