import AggregateGateway.Model.Aggregate

/-!
Laying system definitions over declared ones. Where both have an entry the system side wins, and maps are laid over
each other entry by entry; entries that only the declared side has come after those of the system side.
-/

namespace AggregateGateway

universe u

/-- Types whose values can be laid over each other. -/
class Overlay (α : Type u) where
  /-- `overlay fixed declared` is `declared` with `fixed` on top. -/
  overlay : α → α → α

export Overlay (overlay)

/-- A field is laid over another as a whole. -/
instance : Overlay FieldSpec := ⟨fun fixed _ => fixed⟩

/-- Maps are laid over each other entry by entry, then come the entries of the declared side alone. -/
def OrderedMap.overlay {α : Type u} [Overlay α] (fixed declared : OrderedMap α) : OrderedMap α :=
  declared.entries.foldl
    (fun merged (key, value) => if merged.contains key then merged else merged.insert key value)
    (fixed.map fun key value =>
      match declared.get? key with
      | some other => Overlay.overlay value other
      | none => value)

instance {α : Type u} [Overlay α] : Overlay (OrderedMap α) := ⟨OrderedMap.overlay⟩

instance : Overlay TypeDefinition := ⟨fun fixed declared => ⟨overlay fixed.methods declared.methods⟩⟩

end AggregateGateway
