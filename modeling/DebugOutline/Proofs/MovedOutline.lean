import DebugOutline.Proofs.Moving

/-! Two outlines with the same objects, where the offsets of entries in one of them were moved.
Adding objects, resolving offsets and all passes over the outlines keep them so: they look at
offsets only to find objects, and copy them. -/
namespace DebugOutline

open Dwarf (Entry LineRow UnitRecord)

section Fields

namespace Node

variable (f : UInt64 → UInt64) (node : Node)

@[simp] theorem kind_move : (node.move f).kind = node.kind := rfl

@[simp] theorem tag_move : (node.move f).tag = node.tag := rfl

@[simp] theorem parent_move : (node.move f).parent = node.parent := rfl

@[simp] theorem children_move : (node.move f).children = node.children := rfl

@[simp] theorem lines_move : (node.move f).lines = node.lines := rfl

@[simp] theorem name_move : (node.move f).name = node.name := rfl

@[simp] theorem qualifier_move : (node.move f).qualifier = node.qualifier := rfl

@[simp] theorem line_move : (node.move f).line = node.line := rfl

@[simp] theorem file_move : (node.move f).file = node.file := rfl

@[simp] theorem typeId_move : (node.move f).typeId = node.typeId := rfl

@[simp] theorem referenceId_move : (node.move f).referenceId = node.referenceId := rfl

@[simp] theorem isGenerated_move : (node.move f).isGenerated = node.isGenerated := rfl

@[simp] theorem isGlobal_move : (node.move f).isGlobal = node.isGlobal := rfl

@[simp] theorem isTemplate_move : (node.move f).isTemplate = node.isTemplate := rfl

@[simp] theorem level_move : (node.move f).level = node.level := rfl

@[simp] theorem unit_move : (node.move f).unit = node.unit := rfl

@[simp] theorem detail_move : (node.move f).detail = node.detail := rfl

@[simp] theorem auxiliaryForm?_move : (node.move f).auxiliaryForm? = node.auxiliaryForm? := rfl

@[simp] theorem function?_move : (node.move f).function? = node.function? := rfl

@[simp] theorem templateArgument?_move :
    (node.move f).templateArgument? = node.templateArgument? := rfl

@[simp] theorem isPack_move : (node.move f).isPack = node.isPack := rfl

@[simp] theorem isVariadic_move : (node.move f).isVariadic = node.isVariadic := rfl

@[simp] theorem isStatic_move : (node.move f).isStatic = node.isStatic := rfl

@[simp] theorem access_move : (node.move f).access = node.access := rfl

@[simp] theorem qualifiedName_move : (node.move f).qualifiedName = node.qualifiedName := rfl

@[simp] theorem linkClass?_move : (node.move f).linkClass? = node.linkClass? := rfl

end Node

theorem Node.adopt_move (f : UInt64 → UInt64) (owner : Node) (id : Nat) (kind : Kind) :
    (owner.move f).adopt id kind = (owner.adopt id kind).move f := by
  unfold adopt
  split <;> rfl

end Fields

namespace Outline

/-- The same objects, with the offsets of entries moved. -/
def Moved (f : UInt64 → UInt64) (outline moved : Outline) : Prop :=
  moved.nodes = outline.nodes.map (Node.move f)

namespace Moved

variable {f : UInt64 → UInt64} {outline moved : Outline} {id : Nat}
  (same : Moved f outline moved)
include same

theorem size : moved.size = outline.size := by
  rw [Outline.size, same, Array.size_map]
  rfl

theorem node (id : Nat) : moved.node id = (outline.node id).move f := by
  rw [node_eq_getD, node_eq_getD, same, Array.getElem?_map]
  cases outline.nodes[id]? <;> rfl

theorem ids : moved.ids = outline.ids := by
  rw [Outline.ids, same.size, Outline.ids]

theorem modify (id : Nat) {change changed : Node → Node}
    (alike : ∀ node : Node, changed (node.move f) = (change node).move f) :
    Moved f (outline.modify id change) (moved.modify id changed) := by
  have nodes : moved.nodes = outline.nodes.map (Node.move f) := same
  unfold Moved Outline.modify
  refine Array.ext (by simp [nodes]) fun position inside known => ?_
  simp only [Array.getElem_map, Array.getElem_modify, nodes]
  split
  · exact alike _
  · rfl

theorem levelUnder (parent : NodeId) (kind : Kind) :
    moved.levelUnder parent kind = outline.levelUnder parent kind := by
  unfold Outline.levelUnder
  rw [same.node]
  rfl

theorem insert (node : Node) (parent : NodeId) :
    Moved f (outline.insert node parent).2 (moved.insert (node.move f) parent).2 := by
  have placed : moved.placed (node.move f) parent = (outline.placed node parent).move f := by
    unfold Outline.placed
    rw [Node.kind_move, same.levelUnder]
    rfl
  have pushed : Moved f { outline with nodes := outline.nodes.push (outline.placed node parent) }
      { moved with nodes := moved.nodes.push (moved.placed (node.move f) parent) } := by
    unfold Moved
    rw [same, placed, Array.map_push]
  let adopt (owner : Node) := owner.adopt outline.size node.kind
  have alike (owner : Node) : adopt (owner.move f) = (adopt owner).move f :=
    Node.adopt_move f owner outline.size node.kind
  unfold Moved
  rw [nodes_insert, nodes_insert, same.size]
  exact pushed.modify parent alike

end Moved

/-- The same objects under the same offsets, as far as these are named. -/
structure Matches (f : UInt64 → UInt64) (named : List UInt64) (outline moved : Outline) : Prop where
  objects : Moved f outline moved
  find : ∀ offset ∈ named, moved.find? (f offset) = outline.find? offset

namespace Matches

variable {f : UInt64 → UInt64} {named : List UInt64} {outline moved : Outline} {id : Nat}
  (same : Matches f named outline moved)
include same

theorem modify (id : Nat) {change changed : Node → Node}
    (alike : ∀ node : Node, changed (node.move f) = (change node).move f) :
    Matches f named (outline.modify id change) (moved.modify id changed) where
  objects := same.objects.modify id alike
  find := same.find

theorem insert (increasing : Dwarf.Increasing f named) {node : Node}
    (own : node.kind ≠ .codeLine → node.tag.isSome ∧ node.offset ∈ named)
    (parent : NodeId) :
    Matches f named (outline.insert node parent).2 (moved.insert (node.move f) parent).2 where
  objects := same.objects.insert node parent
  find offset member := by
    rw [find?_insert, find?_insert, Node.kind_move, same.objects.size, same.find offset member]
    by_cases row : node.kind = .codeLine
    · simp [row]
    · obtain ⟨tagged, offsets⟩ := own row
      have apart : (node.move f).offset = f node.offset := if_pos tagged
      simp only [apart, increasing.inj offsets member]

end Matches

end Outline

/-! ### Placing entries -/

namespace Draft

variable {f : UInt64 → UInt64} {named : List UInt64} {outline moved : Outline} {entry : Entry}
  {currentUnit : Option NodeId} (unit : UnitRecord) (unitIndex : Nat)

section Matching

variable (same : Outline.Matches f named outline moved)
include same

theorem parentOf_move (outer : ∀ offset ∈ entry.parent, offset ∈ named)
    (currentUnit : Option NodeId) :
    parentOf moved (entry.move f) currentUnit = parentOf outline entry currentUnit := by
  have found : (entry.parent.map f).bind moved.find? = entry.parent.bind outline.find? := by
    cases nested : entry.parent with
    | none => rfl
    | some offset => exact same.find offset (outer offset nested)
  unfold parentOf
  rw [show (entry.move f).parent = entry.parent.map f from rfl, found]
  rfl

theorem roleUnder?_move (entry : Entry) (parent : NodeId) :
    roleUnder? moved (entry.move f) parent = roleUnder? outline entry parent := by
  unfold roleUnder?
  rw [same.objects.node]
  rfl

theorem markTemplate_move (parent : NodeId) :
    Outline.Matches f named (markTemplate outline parent) (markTemplate moved parent) := by
  have makes : makesTemplate (moved.node parent) = makesTemplate (outline.node parent) := by
    rw [same.objects.node]
    rfl
  unfold markTemplate
  rw [makes]
  split
  · exact same.modify parent fun _ => rfl
  · exact same

theorem addRows_move (increasing : Dwarf.Increasing f named) (owner : NodeId) :
    Outline.Matches f named (addRows unit unitIndex owner outline)
      (addRows (unit.move f) unitIndex owner moved) := by
  unfold addRows
  rw [← Array.foldl_toList, ← Array.foldl_toList]
  refine List.foldl_rel (r := Outline.Matches f named) same fun row _ before after same => ?_
  exact same.insert increasing (fun notRow => absurd rfl notRow) owner

/-- Placing the object of an entry. -/
theorem place_move (increasing : Dwarf.Increasing f named) (role : Role)
    (own : entry.offset ∈ named) (parent : NodeId) :
    Outline.Matches f named (place outline unit unitIndex entry role parent)
      (place moved (unit.move f) unitIndex (entry.move f) role parent) := by
  have isAggregate : (moved.node parent).kind.isAggregate =
      (outline.node parent).kind.isAggregate := by
    rw [same.objects.node, Node.kind_move]
  have isOf := Reading.node_isOf unit unitIndex entry role (outline.node parent).kind.isAggregate
  unfold place
  dsimp only
  rw [isAggregate, Reading.value_move, same.objects.size]
  have inserted := same.insert increasing
    (fun _ => ⟨by rw [isOf.tag]; rfl, isOf.offset ▸ own⟩) parent
  unfold afterPlacing
  split
  · exact addRows_move unit unitIndex inserted increasing outline.size
  · exact markTemplate_move inserted parent
  · exact inserted

end Matching

/-- Two drafts from the same entries, where those of one of them were moved. -/
structure Moves (f : UInt64 → UInt64) (named : List UInt64) (draft moved : Draft) : Prop where
  outline : Outline.Matches f named draft.outline moved.outline
  dropped : ∀ offset ∈ named, moved.dropped.contains (f offset) = draft.dropped.contains offset
  warnings : moved.warnings = draft.warnings

namespace Moves

variable {draft other : Draft} {unit : UnitRecord} {unitIndex : Nat}
  (moves : Moves f named draft other)
include moves

theorem drop (increasing : Dwarf.Increasing f named) {entry : Entry} (own : entry.offset ∈ named) :
    Moves f named (draft.drop entry) (other.drop (entry.move f)) where
  outline := moves.outline
  dropped offset member := by
    have same : (f entry.offset == f offset) = (entry.offset == offset) := by
      rw [Bool.eq_iff_iff, beq_iff_eq, beq_iff_eq]
      exact increasing.inj own member
    simp only [Draft.drop, Std.HashSet.contains_insert, moves.dropped offset member,
      Entry.move, same]
  warnings := moves.warnings

theorem warn (warnings : List Warning) :
    Moves f named (draft.warn warnings) (other.warn warnings) where
  outline := moves.outline
  dropped := moves.dropped
  warnings := by rw [Draft.warn, Draft.warn, moves.warnings]

theorem addEntry (increasing : Dwarf.Increasing f named) (unit : UnitRecord) (unitIndex : Nat)
    {entry : Entry} (all : ∀ offset ∈ entry.offsets, offset ∈ named)
    (currentUnit : Option NodeId) :
    Moves f named (Draft.addEntry unit unitIndex (draft, currentUnit) entry).1
        (Draft.addEntry (unit.move f) unitIndex (other, currentUnit) (entry.move f)).1 ∧
      (Draft.addEntry (unit.move f) unitIndex (other, currentUnit) (entry.move f)).2 =
        (Draft.addEntry unit unitIndex (draft, currentUnit) entry).2 := by
  have own : entry.offset ∈ named := all _ List.mem_cons_self
  have outer : ∀ offset ∈ entry.parent, offset ∈ named := fun offset nested =>
    all offset (by simp [Entry.offsets, Option.mem_def.mp nested])
  have nested : (entry.move f).parent.any other.dropped.contains =
      entry.parent.any draft.dropped.contains := by
    simp only [Entry.move, Option.any_map]
    cases given : entry.parent with
    | none => rfl
    | some offset => exact moves.dropped offset (outer offset given)
  cases outside : entry.parent.any draft.dropped.contains with
  | true =>
    rw [addEntry_nested outside, addEntry_nested (nested.trans outside)]
    exact ⟨moves.drop increasing own, rfl⟩
  | false =>
    have parent := parentOf_move moves.outline outer currentUnit
    cases known : Draft.roleUnder? draft.outline entry
        (parentOf draft.outline entry currentUnit) with
    | none =>
      have unknown := ofTag?_of_roleUnder? known
      rw [addEntry_unknown outside unknown, addEntry_unknown (nested.trans outside) unknown]
      exact ⟨(moves.warn _).drop increasing own, rfl⟩
    | some role =>
      have also := (roleUnder?_move moves.outline entry _).trans known
      have isAggregate : (other.outline.node
          (parentOf draft.outline entry currentUnit)).kind.isAggregate =
          (draft.outline.node (parentOf draft.outline entry currentUnit)).kind.isAggregate := by
        rw [moves.outline.objects.node, Node.kind_move]
      rw [addEntry_known unit unitIndex outside rfl known,
        addEntry_known (unit.move f) unitIndex (nested.trans outside) parent also, isAggregate,
        Reading.warnings_move]
      refine ⟨⟨place_move unit unitIndex moves.outline increasing role own _, moves.dropped,
        (moves.warn _).warnings⟩, ?_⟩
      rw [moves.outline.objects.size]

theorem warnOfNothing : Moves f named draft.warnOfNothing other.warnOfNothing := by
  unfold Draft.warnOfNothing
  rw [moves.outline.objects.node, Node.children_move]
  split
  · exact moves.warn _
  · exact moves

end Moves

/-- Going over the moved entries of moved units is moving each of them where it is met. -/
theorem addUnits_move (draft : Draft) (units : List UnitRecord) :
    draft.addUnits (units.map (UnitRecord.move f)) 0 = units.zipIdx.foldl (fun draft indexed =>
      (indexed.1.entries.toList.foldl (fun state entry =>
        addEntry (indexed.1.move f) indexed.2 state (entry.move f)) (draft, none)).1) draft := by
  rw [addUnits, List.zipIdx_map, List.foldl_map]
  simp only [addUnit, UnitRecord.move, Prod.map, Array.foldl_map, Array.foldl_toList, id_eq]

/-- What the units give when their entries are moved. -/
theorem moves_ofUnits (input : String) (units : List UnitRecord)
    (increasing : Dwarf.Increasing f (Dwarf.offsets units)) :
    Moves f (Dwarf.offsets units) (ofUnits input units)
      (ofUnits input (units.map (UnitRecord.move f))) := by
  have start : Moves f (Dwarf.offsets units) (.start input) (.start input) := by
    refine ⟨⟨?_, ?_⟩, ?_, rfl⟩
    · simp [Outline.Moved, start, Outline.empty, Node.move]
    · simp [start, Outline.empty, Outline.find?]
    · simp [start]
  have inStep : InStep units (fun other : Draft => (other, none))
      (fun unit position state entry => addEntry (unit.move f) position state (entry.move f))
      Prod.fst
      (fun _ draft other => Moves f (Dwarf.offsets units) draft other)
      (fun _ _ state other => Moves f (Dwarf.offsets units) state.1 other.1 ∧ other.2 = state.2) :=
    { entered := fun _ moves => ⟨moves, rfl⟩
      stepped := by
        rintro unit position done rest entry ⟨draft, _⟩ ⟨other, currentUnit⟩ recorded split - -
          ⟨moves, rfl⟩
        refine moves.addEntry increasing unit position (fun offset names => ?_) currentUnit
        exact List.mem_flatMap.mpr ⟨entry, List.mem_flatMap.mpr
          ⟨unit, List.mem_of_getElem? recorded, Item.listed recorded split⟩, names⟩
      left := And.left }
  have all := (inStep.run _ _ (.empty units input) start).2
  rw [ofUnits_eq, ofUnits_eq, addUnits_move]
  exact all.warnOfNothing

end Draft

end DebugOutline
