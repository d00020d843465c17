import AggregateGateway.Proofs.Map.OrderedMap
import AggregateGateway.Resolver.Graph

/-!
The laws of laying definitions over each other. Order counts in all of them. A map is known by its keys and by its
look-up, and both sides of every law have the same keys in the same order, and under each key what the law says of the
values; so the laws of maps follow from those of their values, one level of nesting after another.
-/

namespace AggregateGateway

universe u

/-- Laying over is associative, leaves a value that is laid over itself as it is, and what lies on top gains nothing
from being laid under as well. -/
class LawfulOverlay (α : Type u) [Overlay α] : Prop where
  assoc : ∀ a b c : α, overlay (overlay a b) c = overlay a (overlay b c)
  self : ∀ a : α, overlay a a = a
  absorb : ∀ a b : α, overlay a (overlay b a) = overlay a b

/-! ### Values that are laid over as a whole -/

instance : LawfulOverlay FieldSpec := ⟨fun _ _ _ => rfl, fun _ => rfl, fun _ _ => rfl⟩

instance : LawfulOverlay FieldResolver := ⟨fun _ _ _ => rfl, fun _ => rfl, fun _ _ => rfl⟩

/-! ### Maps -/

namespace OrderedMap

variable {V : Type u} [Overlay V]

theorem empty_overlay (m : OrderedMap V) : Overlay.overlay empty m = m := by
  apply ext_keys
  · rw [keys_overlay]
    exact Entries.nil_keysThen m.keys
  · intro key
    rw [get?_overlay, get?_empty, Option.merge_none_left]

theorem overlay_empty (m : OrderedMap V) : Overlay.overlay m empty = m := by
  apply ext_keys
  · rw [keys_overlay]
    exact Entries.keysThen_nil m.keys
  · intro key
    rw [get?_overlay, get?_empty, Option.merge_none_right]

variable [LawfulOverlay V]

theorem overlay_assoc (a b c : OrderedMap V) :
    Overlay.overlay (Overlay.overlay a b) c = Overlay.overlay a (Overlay.overlay b c) := by
  apply ext_keys
  · simp only [keys_overlay, Entries.keysThen_assoc]
  · intro key
    have hvalues : Std.Associative (Overlay.overlay : V → V → V) := ⟨LawfulOverlay.assoc⟩
    simp only [get?_overlay]
    exact (Option.associative_merge _).assoc _ _ _

theorem overlay_self (m : OrderedMap V) : Overlay.overlay m m = m := by
  apply ext_keys
  · rw [keys_overlay, Entries.keysThen_of_subset fun _ hkey => hkey]
  · intro key
    have hvalues : Std.IdempotentOp (Overlay.overlay : V → V → V) := ⟨LawfulOverlay.self⟩
    rw [get?_overlay]
    exact (Option.idempotentOp_merge _).idempotent _

theorem overlay_absorb (a b : OrderedMap V) : Overlay.overlay a (Overlay.overlay b a) = Overlay.overlay a b := by
  apply ext_keys
  · -- All keys of the map on top are there when it comes a second time.
    have hsubset : ∀ key ∈ a.keys, key ∈ Entries.keysThen a.keys b.keys :=
      fun key hkey => Entries.mem_keysThen.mpr (.inl hkey)
    rw [keys_overlay, keys_overlay, keys_overlay, ← Entries.keysThen_assoc, Entries.keysThen_of_subset hsubset]
  · intro key
    simp only [get?_overlay]
    cases a.get? key with
    | none => rw [Option.merge_none_left, Option.merge_none_left, Option.merge_none_right]
    | some value =>
      cases b.get? key with
      | none => rw [Option.merge_none_left, Option.merge_some_some, LawfulOverlay.self, Option.merge_none_right]
      | some other => rw [Option.merge_some_some, Option.merge_some_some, LawfulOverlay.absorb, Option.merge_some_some]

instance : LawfulOverlay (OrderedMap V) := ⟨overlay_assoc, overlay_self, overlay_absorb⟩

end OrderedMap

theorem TypeDefinition.methods_overlay (fixed declared : TypeDefinition) :
    (overlay fixed declared).methods = overlay fixed.methods declared.methods := rfl

instance : LawfulOverlay TypeDefinition where
  assoc a b c := congrArg TypeDefinition.mk (LawfulOverlay.assoc a.methods b.methods c.methods)
  self a := congrArg TypeDefinition.mk (LawfulOverlay.self a.methods)
  absorb a b := congrArg TypeDefinition.mk (LawfulOverlay.absorb a.methods b.methods)

/-! ### Main statement -/

/-- How maps of `V` are laid over each other: which keys they have in which order, which values, and which laws follow
from that. -/
structure LaysOver (V : Type u) [Overlay V] : Prop where
  /-- The keys of the fixed side come first, and those that only the declared side has follow; both keep their order. -/
  keys : ∀ fixed declared : OrderedMap V, (overlay fixed declared).keys =
    fixed.keys ++ declared.keys.filter fun key => key ∉ fixed.keys
  both : ∀ (fixed declared : OrderedMap V) (key : String) (value other : V), fixed.get? key = some value →
    declared.get? key = some other → (overlay fixed declared).get? key = some (overlay value other)
  fixedOnly : ∀ (fixed declared : OrderedMap V) (key : String), declared.get? key = none →
    (overlay fixed declared).get? key = fixed.get? key
  declaredOnly : ∀ (fixed declared : OrderedMap V) (key : String), fixed.get? key = none →
    (overlay fixed declared).get? key = declared.get? key
  assoc : ∀ a b c : OrderedMap V, overlay (overlay a b) c = overlay a (overlay b c)
  emptyFixed : ∀ m : OrderedMap V, overlay .empty m = m
  emptyDeclared : ∀ m : OrderedMap V, overlay m .empty = m
  self : ∀ m : OrderedMap V, overlay m m = m
  absorb : ∀ a b : OrderedMap V, overlay a (overlay b a) = overlay a b

theorem LaysOver.of_lawful {V : Type u} [Overlay V] [LawfulOverlay V] : LaysOver V where
  keys fixed declared := OrderedMap.keys_overlay fixed declared
  both fixed declared key value other hfixed hdeclared := by
    rw [OrderedMap.get?_overlay, hfixed, hdeclared, Option.merge_some_some]
  fixedOnly fixed declared key hdeclared := by
    rw [OrderedMap.get?_overlay, hdeclared, Option.merge_none_right]
  declaredOnly fixed declared key hfixed := by
    rw [OrderedMap.get?_overlay, hfixed, Option.merge_none_left]
  assoc := OrderedMap.overlay_assoc
  emptyFixed := OrderedMap.empty_overlay
  emptyDeclared := OrderedMap.overlay_empty
  self := OrderedMap.overlay_self
  absorb := OrderedMap.overlay_absorb

/-- Fields, types and the resolvers of types are laid over each other lawfully: fields and resolvers as a whole, and
types by their fields. -/
theorem overlay_is_lawful :
    LaysOver FieldSpec ∧ LaysOver TypeDefinition ∧ LaysOver FieldResolver ∧ LaysOver (OrderedMap FieldResolver) ∧
      (∀ fixed declared : FieldSpec, overlay fixed declared = fixed) ∧
      (∀ fixed declared : FieldResolver, overlay fixed declared = fixed) ∧
      ∀ fixed declared : TypeDefinition, (overlay fixed declared).methods = overlay fixed.methods declared.methods :=
  ⟨.of_lawful, .of_lawful, .of_lawful, .of_lawful, fun _ _ => rfl, fun _ _ => rfl, TypeDefinition.methods_overlay⟩

/-- A type that both sides declare keeps the order of the fixed side, and its own fields of the declared side follow. -/
example :
    let fixed : OrderedMap TypeDefinition := .ofList [("Result", ⟨.ofList [("id", .ofType "ID!")]⟩)]
    let declared : OrderedMap TypeDefinition := .ofList [("Line", ⟨.empty⟩),
      ("Result", ⟨.ofList [("reason", .ofType "String"), ("id", .ofType "String")]⟩)]
    overlay fixed declared = .ofList
      [("Result", ⟨.ofList [("id", .ofType "ID!"), ("reason", .ofType "String")]⟩), ("Line", ⟨.empty⟩)] := by
  decide

end AggregateGateway
