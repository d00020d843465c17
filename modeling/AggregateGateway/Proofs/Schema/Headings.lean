import AggregateGateway.Proofs.Resolver.Agreement

/-!
The blocks of a schema and the names that head them. The text of a schema is that of its blocks; types and inputs each
have one block for every name, and where no name is declared on both sides, all blocks together do.
-/

namespace AggregateGateway

/-! ### Blocks -/

/-- A block of a schema: what it defines, and the lines of its fields. -/
structure Block where
  keyword : String
  name : String
  lines : List String

def Block.text (block : Block) : String := blockOfLines block.keyword block.name block.lines

/-- The block of a type or input. -/
def Block.ofType (keyword name : String) (type : TypeDefinition) : Block :=
  ⟨keyword, name, type.methods.entries.filterMap fun (field, spec) => spec.line? field⟩

namespace Surface

/-- The blocks of a schema, types before inputs. -/
def blocks (surface : Surface) : List Block :=
  (surface.types.entries.map fun (name, type) => .ofType "type" name type) ++
    surface.inputs.entries.map fun (name, type) => .ofType "input" name type

/-- The blocks by what they define under which name. -/
def headings (surface : Surface) : List (String × String) :=
  surface.blocks.map fun block => (block.keyword, block.name)

variable {surface : Surface}

theorem text_eq_blocks : surface.text = String.join (surface.blocks.map Block.text) := by
  have htext : ∀ keyword, Block.text ∘ (fun (entry : String × TypeDefinition) => .ofType keyword entry.1 entry.2) =
      fun entry => entry.2.block keyword entry.1 := by
    intro keyword
    funext entry
    exact (entry.2.block_eq keyword entry.1).symm
  rw [blocks, List.map_append, List.map_map, List.map_map, htext, htext, String.join_append]
  rfl

theorem names_blocks : surface.blocks.map Block.name = surface.types.keys ++ surface.inputs.keys := by
  rw [blocks, List.map_append, List.map_map, List.map_map]
  rfl

theorem headings_eq : surface.headings =
    (surface.types.keys.map fun name => ("type", name)) ++ surface.inputs.keys.map fun name => ("input", name) := by
  simp only [headings, blocks, OrderedMap.keys, List.map_append, List.map_map]
  rfl

theorem nodup_headings : surface.headings.Nodup := by
  have hpairs : ∀ (keyword : String) {names : List String}, names.Nodup →
      (names.map fun name => (keyword, name)).Nodup :=
    fun keyword _ h => h.map fun _ _ heq => (Prod.mk.inj heq).2
  -- The names of one side are distinct, and the keyword tells the sides apart.
  rw [headings_eq, List.nodup_append]
  refine ⟨hpairs "type" surface.types.distinct, hpairs "input" surface.inputs.distinct, ?_⟩
  simp

/-- Every name is defined once if none is that of a type and an input. -/
theorem nodup_names_iff :
    (surface.blocks.map Block.name).Nodup ↔ ∀ name ∈ surface.types.keys, name ∉ surface.inputs.keys := by
  rw [names_blocks, List.nodup_append]
  constructor
  · rintro ⟨-, -, hne⟩ name htype hinput
    exact hne name htype name hinput rfl
  · rintro hdisjoint
    refine ⟨surface.types.distinct, surface.inputs.distinct, ?_⟩
    rintro name htype _ hinput rfl
    exact hdisjoint name htype hinput

/-! ### The names of an aggregate -/

def systemTypes : List String := [queryType, aggregateType, transactionType, resultType]

def systemInputs : List String := [transactOptions, commitOptions]

theorem mem_keys_types {aggregate : AggregateDefinition} {name : String} :
    name ∈ (ofAggregate aggregate).types.keys ↔ name ∈ systemTypes ∨ name ∈ aggregate.entities.keys := by
  rw [ofAggregate, OrderedMap.mem_keys_overlay]
  rfl

theorem mem_keys_inputs {aggregate : AggregateDefinition} {name : String} :
    name ∈ (ofAggregate aggregate).inputs.keys ↔ name ∈ systemInputs ∨ name ∈ aggregate.inputEntities.keys := by
  rw [ofAggregate, OrderedMap.mem_keys_overlay]
  rfl

end Surface

/-- Every name that an aggregate declares belongs to one side, that of types or that of inputs. -/
structure AggregateDefinition.NamesApart (aggregate : AggregateDefinition) : Prop where
  entities : ∀ name ∈ aggregate.entities.keys, name ∉ Surface.systemInputs ∧ name ∉ aggregate.inputEntities.keys
  inputEntities : ∀ name ∈ aggregate.inputEntities.keys, name ∉ Surface.systemTypes

theorem AggregateDefinition.NamesApart.not_mem_inputs {aggregate : AggregateDefinition} (h : aggregate.NamesApart)
    {name : String} (htype : name ∈ (Surface.ofAggregate aggregate).types.keys) :
    name ∉ (Surface.ofAggregate aggregate).inputs.keys := by
  have hsystem : ∀ name ∈ Surface.systemTypes, name ∉ Surface.systemInputs := by decide
  rw [Surface.mem_keys_inputs, not_or]
  obtain htype | hentity := Surface.mem_keys_types.mp htype
  · exact ⟨hsystem name htype, fun hdeclared => h.inputEntities name hdeclared htype⟩
  · exact h.entities name hentity

/-- Of a name that an entity and an input entity share there are two definitions. -/
theorem shared_name_is_defined_twice :
    let aggregate : AggregateDefinition :=
      { entities := .ofList [("Line", ⟨.ofList [("text", .ofType "String")]⟩)]
        inputEntities := .ofList [("Line", ⟨.ofList [("text", .ofType "String")]⟩)] }
    ¬((Surface.ofAggregate aggregate).blocks.map Block.name).Nodup := by
  decide

/-! ### Main statement -/

/-- What the schema of an aggregate defines. -/
structure DefinesOnce (aggregate : AggregateDefinition) : Prop where
  text : (Surface.ofAggregate aggregate).text = String.join ((Surface.ofAggregate aggregate).blocks.map Block.text)
  types : ∀ name, ("type", name) ∈ (Surface.ofAggregate aggregate).headings ↔
    name ∈ Surface.systemTypes ∨ name ∈ aggregate.entities.keys
  inputs : ∀ name, ("input", name) ∈ (Surface.ofAggregate aggregate).headings ↔
    name ∈ Surface.systemInputs ∨ name ∈ aggregate.inputEntities.keys
  /-- No type is defined twice, and no input. -/
  headings : (Surface.ofAggregate aggregate).headings.Nodup
  names : aggregate.NamesApart → ((Surface.ofAggregate aggregate).blocks.map Block.name).Nodup

/-- A schema defines every type once and every input once, and every name once where an aggregate keeps them apart. -/
theorem schema_defines_once (aggregate : AggregateDefinition) : DefinesOnce aggregate where
  text := Surface.text_eq_blocks
  types := by
    intro name
    rw [← Surface.mem_keys_types]
    simp [Surface.headings_eq]
  inputs := by
    intro name
    rw [← Surface.mem_keys_inputs]
    simp [Surface.headings_eq]
  headings := Surface.nodup_headings
  names := fun hapart => Surface.nodup_names_iff.mpr fun _ => hapart.not_mem_inputs

/-- An entity of the name of a system type adds to its block; one of another name has a block of its own. -/
theorem order_names_apart :
    let aggregate : AggregateDefinition :=
      { entities := .ofList [("Result", ⟨.ofList [("text", .ofType "String")]⟩), ("Line", ⟨.empty⟩)]
        inputEntities := .ofList [("LineInput", ⟨.empty⟩)] }
    aggregate.NamesApart ∧ (Surface.ofAggregate aggregate).blocks.map Block.name =
      ["Query", "Aggregate", "Transaction", "Result", "Line", "TransactOptions", "CommitOptions", "LineInput"] ∧
      ((Surface.ofAggregate aggregate).blocks.map Block.name).Nodup := by
  intro aggregate
  have hapart : aggregate.NamesApart := ⟨by decide, by decide⟩
  exact ⟨hapart, by decide, (schema_defines_once aggregate).names hapart⟩

end AggregateGateway
