import DebugOutline.Proofs.Lookup

/-! Changes of an outline that leave a view of every object as it was. A pass over all objects
leaves whatever its single steps leave. -/
namespace DebugOutline

/-- What an entry alone says about an object, and where it stands in the outline. -/
def Node.skeleton (node : Node) : Node where
  kind := node.kind
  offset := node.offset
  tag := node.tag
  parent := node.parent
  children := node.children
  lines := node.lines
  level := node.level
  unit := node.unit

namespace Outline

/-- Both outlines have the same index and objects of the same numbers, and every object looks the
same through `view`. -/
structure Keeps (view : Node → α) (before after : Outline) : Prop where
  size : after.size = before.size
  find : ∀ offset, after.find? offset = before.find? offset
  node : ∀ id, view (after.node id) = view (before.node id)

namespace Keeps

variable {view : Node → α} {outline before middle after : Outline}

theorem refl (view : Node → α) (outline : Outline) : Keeps view outline outline :=
  ⟨rfl, fun _ => rfl, fun _ => rfl⟩

theorem trans (first : Keeps view before middle) (second : Keeps view middle after) :
    Keeps view before after where
  size := second.size.trans first.size
  find offset := (second.find offset).trans (first.find offset)
  node id := (second.node id).trans (first.node id)

theorem symm (kept : Keeps view before after) : Keeps view after before where
  size := kept.size.symm
  find offset := (kept.find offset).symm
  node id := (kept.node id).symm

/-- What looks the same looks the same through a coarser view. -/
theorem weaken (kept : Keeps view before after) (coarse : Node → β)
    (coarser : ∀ a b, view a = view b → coarse a = coarse b) : Keeps coarse before after where
  size := kept.size
  find := kept.find
  node id := coarser _ _ (kept.node id)

theorem modify (outline : Outline) (id : Nat) {change : Node → Node}
    (same : view (change (outline.node id)) = view (outline.node id)) :
    Keeps view outline (outline.modify id change) where
  size := size_modify outline id change
  find := find?_modify outline id change
  node other := by
    rw [node_modify]
    split
    · rename_i changed
      rw [changed.1, same]
    · rfl

/-- A pass leaves what each of its steps leaves. -/
theorem foldl {step : Outline → β → Outline}
    (kept : ∀ outline item, Keeps view outline (step outline item)) (items : List β)
    (outline : Outline) : Keeps view outline (items.foldl step outline) := by
  induction items generalizing outline with
  | nil => exact refl view outline
  | cons item rest ih => exact (kept outline item).trans (ih (step outline item))

theorem ids (kept : Keeps view before after) : after.ids = before.ids := by
  simp [Outline.ids, kept.size]

/-- A field that the view shows is the same in both outlines. -/
theorem read (kept : Keeps view before after) (field : Node → β) (shown : α → β)
    (seen : ∀ node, shown (view node) = field node) (id : Nat) :
    field (after.node id) = field (before.node id) := by
  rw [← seen, ← seen, kept.node]

section Skeleton

variable (kept : Keeps Node.skeleton before after) (id : Nat)
include kept

theorem kind : (after.node id).kind = (before.node id).kind :=
  kept.read Node.kind Node.kind (fun _ => rfl) id

theorem offset : (after.node id).offset = (before.node id).offset :=
  kept.read Node.offset Node.offset (fun _ => rfl) id

theorem tag : (after.node id).tag = (before.node id).tag :=
  kept.read Node.tag Node.tag (fun _ => rfl) id

theorem parent : (after.node id).parent = (before.node id).parent :=
  kept.read Node.parent Node.parent (fun _ => rfl) id

theorem children : (after.node id).children = (before.node id).children :=
  kept.read Node.children Node.children (fun _ => rfl) id

theorem lines : (after.node id).lines = (before.node id).lines :=
  kept.read Node.lines Node.lines (fun _ => rfl) id

theorem level : (after.node id).level = (before.node id).level :=
  kept.read Node.level Node.level (fun _ => rfl) id

theorem unit : (after.node id).unit = (before.node id).unit :=
  kept.read Node.unit Node.unit (fun _ => rfl) id

end Skeleton

end Keeps

end Outline

end DebugOutline
