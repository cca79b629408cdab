import DebugOutline.Proofs.MovedPasses
import DebugOutline.Report

/-! The text of two outlines with the same objects, where the offsets of entries in one of them were
moved. Nothing that is selected, printed or counted depends on offsets, unless the options show
them. -/
namespace DebugOutline

open Dwarf (Entry UnitRecord)

variable {f : UInt64 → UInt64}

namespace Outline

variable {outline moved : Outline}

/-! ### What is selected -/

namespace Moved

variable (same : Moved f outline moved)
include same

theorem isListed (id : NodeId) : moved.isListed id = outline.isListed id := by
  unfold Outline.isListed
  simp only [same.node]
  rfl

theorem children (id : NodeId) : moved.children id = outline.children id := by
  unfold Outline.children
  rw [same.node, Node.children_move, funext same.isListed]

theorem below (id : NodeId) : moved.below id = outline.below id := by
  unfold Outline.below
  rw [same.children, same.node]
  rfl

theorem combine (siblings : List NodeId) : moved.combine siblings = outline.combine siblings := by
  have declaring (id : NodeId) :
      moved.declaringSibling? siblings id = outline.declaringSibling? siblings id := by
    unfold Outline.declaringSibling? Outline.isWithin
    simp only [same.node, same.ancestry]
    rfl
  simp only [Outline.combine, declaring]

theorem visited (options : Options) (id : NodeId) :
    moved.visited options id = outline.visited options id := by
  simp only [Outline.visited, same.children, same.combine, same.node]
  rfl

theorem contextBelow (filters : Filters) (depth : Nat) (id : NodeId) :
    moved.contextBelow filters depth id = outline.contextBelow filters depth id := by
  induction depth generalizing id with
  | zero => rfl
  | succ depth ih =>
    simp only [Outline.contextBelow, same.node, Node.name_move, same.below, funext ih]

theorem visit (options : Options) (context : Std.HashSet NodeId) (limit : Nat) (id : NodeId)
    (depth : Nat) (forced : Bool) : moved.visit options context limit id depth forced =
      outline.visit options context limit id depth forced := by
  induction limit generalizing id depth forced with
  | zero => rfl
  | succ limit ih =>
    simp only [Outline.visit, Outline.isForced, same.node, same.visited, ih]
    rfl

theorem selectFrom (options : Options) (start : NodeId) :
    moved.selectFrom options start = outline.selectFrom options start := by
  simp only [Outline.selectFrom, Outline.context, same.contextBelow, same.size, same.visited,
    same.visit]

theorem count (kind : Kind) : moved.count kind = outline.count kind := by
  unfold Outline.count
  rw [show moved.nodes = outline.nodes.map (Node.move f) from same, Array.countP_map]
  rfl

theorem tally (options : Options) (selection : List Shown) :
    moved.tally options selection = outline.tally options selection := by
  simp only [Outline.tally, Tally.ofAll, Tally.ofSelection, Tally.ofCounts, same.count,
    same.node, Node.kind_move]

theorem compileUnits : moved.compileUnits = outline.compileUnits := by
  simp only [Outline.compileUnits, same.node, Node.children_move, Node.kind_move]

theorem type? (id : NodeId) : moved.type? id = (outline.type? id).map (Node.move f) := by
  unfold Outline.type?
  rw [same.node, Node.typeId_move, Option.map_map]
  cases (outline.node id).typeId with
  | none => rfl
  | some target => exact congrArg some (same.node target)

theorem usingWord? (id : NodeId) : moved.usingWord? id = outline.usingWord? id := by
  simp only [Outline.usingWord?, same.node, Node.detail_move, same.type?, Option.map_map]
  rfl

theorem usingName (id : NodeId) : moved.usingName id = outline.usingName id := by
  unfold Outline.usingName
  rw [same.type?]
  cases outline.type? id with
  | none => simp [same.node]
  | some target => simp [same.node, same.scopePath]

theorem parentIsTemplate (id : NodeId) :
    moved.parentIsTemplate id = outline.parentIsTemplate id := by
  simp [Outline.parentIsTemplate, same.node]

theorem declaringFunction? (id : NodeId) :
    moved.declaringFunction? id = (outline.declaringFunction? id).map (Node.move f) := by
  unfold Outline.declaringFunction?
  rw [same.node, Node.referenceId_move]
  cases (outline.node id).referenceId with
  | none => rfl
  | some target =>
    by_cases function : (outline.node target).kind = .function <;>
      simp [same.node, Option.filter, function]

end Moved

end Outline

/-! ### What is printed -/

/-- Layouts of such outlines that show no offsets. -/
structure Layout.Moved (f : UInt64 → UInt64) (layout moved : Layout) : Prop where
  objects : Outline.Moved f layout.outline moved.outline
  options : moved.options = layout.options
  lineWidth : moved.lineWidth = layout.lineWidth
  levelWidth : moved.levelWidth = layout.levelWidth
  tagWidth : moved.tagWidth = layout.tagWidth
  noOffsets : layout.shows .dwarfOffset = false
  noParents : layout.shows .dwarfParent = false

theorem Outline.Moved.layout {outline moved : Outline} (same : Moved f outline moved)
    {options : Options} (noOffsets : options.shows .dwarfOffset = false)
    (noParents : options.shows .dwarfParent = false) :
    Layout.Moved f (.of outline options) (.of moved options) := by
  have nodes : moved.nodes = outline.nodes.map (Node.move f) := same
  refine ⟨same, rfl, ?_, ?_, ?_, noOffsets, noParents⟩ <;>
    simp only [Layout.of, nodes, Array.foldl_map] <;> rfl

namespace Layout.Moved

variable {layout moved : Layout} (same : Layout.Moved f layout moved)
include same

theorem shows (option : ShowOption) : moved.shows option = layout.shows option := by
  rw [Layout.shows, same.options]
  rfl

theorem leftColumns (node : Node) : moved.leftColumns (node.move f) = layout.leftColumns node := by
  simp [Layout.leftColumns, Layout.entryColumns, Layout.offsetColumn, Layout.parentColumn,
    Layout.levelColumn, Layout.tagColumn, Layout.flagColumn, Layout.tagName, same.shows,
    same.noOffsets, same.noParents, same.levelWidth, same.tagWidth]
  rfl

theorem leftWidth : moved.leftWidth = layout.leftWidth := by
  rw [Layout.leftWidth, same.objects.node, same.leftColumns, Layout.leftWidth]

theorem typeMark (type : Option NodeId) : moved.typeMark type = layout.typeMark type := by
  simp [Layout.typeMark, same.shows, same.noOffsets]

theorem followAliases (limit : Nat) (type : NodeId) :
    Layout.followAliases moved.outline limit type =
      Layout.followAliases layout.outline limit type := by
  induction limit generalizing type with
  | zero => rfl
  | succ limit ih => simp only [Layout.followAliases, same.objects.node, Node.typeId_move,
      Node.kind_move, ih]

theorem resolvedType (id : NodeId) : moved.resolvedType id = layout.resolvedType id := by
  simp only [Layout.resolvedType, same.shows, same.objects.node, same.objects.size,
    Node.typeId_move, funext (same.followAliases _)]

theorem typed (id : NodeId) (qualified : Bool) (missing : String) :
    moved.typed id qualified missing = layout.typed id qualified missing := by
  unfold Layout.typed
  simp only [same.typeMark, same.resolvedType]
  cases layout.resolvedType id with
  | none => rfl
  | some type => simp [same.objects.node]

theorem valueType (id : NodeId) : moved.valueType id = layout.valueType id := by
  simp only [Layout.valueType, same.typed, Layout.void, same.shows]

/-! ### One object -/

theorem namespaceLine (id : NodeId) : moved.namespaceLine id = layout.namespaceLine id := by
  simp only [Layout.namespaceLine, same.objects.scopePath]

theorem aggregateLines (id : NodeId) : moved.aggregateLines id = layout.aggregateLines id := by
  unfold Layout.aggregateLines
  simp only [same.objects.node, same.objects.auxiliaryChildren, same.objects.type?]
  refine congrArg (_ :: ·) (congrArg (_ ++ ·) (List.map_congr_left fun base _ => ?_))
  cases layout.outline.type? base <;> rfl

theorem enumLines (id : NodeId) : moved.enumLines id = layout.enumLines id := by
  unfold Layout.enumLines
  rw [same.objects.type?]
  cases layout.outline.type? id <;>
    simp [same.objects.node, same.objects.auxiliaryChildren, Layout.enumeratorValue, same.shows,
      same.noOffsets, same.typeMark]

theorem aliasLine (id : NodeId) : moved.aliasLine id = layout.aliasLine id := by
  simp [Layout.aliasLine, same.objects.node, same.valueType, same.typed]

theorem functionLines (id : NodeId) : moved.functionLines id = layout.functionLines id := by
  unfold Layout.functionLines
  rw [same.objects.declaringFunction?]
  cases layout.outline.declaringFunction? id <;>
    simp [same.objects.node, same.objects.scopePath, same.valueType]

theorem symbolLine (id : NodeId) : moved.symbolLine id = layout.symbolLine id := by
  have symbolName : moved.symbolName ((layout.outline.node id).move f) =
      layout.symbolName (layout.outline.node id) := by
    simp [Layout.symbolName, same.objects.scopePath, same.shows]
  simp [Layout.symbolLine, Layout.isInClass, same.objects.node, symbolName,
    same.objects.parentIsTemplate, same.valueType]

theorem templateParameterLines (id : NodeId) :
    moved.templateParameterLines id = layout.templateParameterLines id := by
  have argument : moved.argument? = layout.argument? := by
    funext id
    simp [Layout.argument?, same.objects.node, same.valueType, same.typeMark]
  simp [Layout.templateParameterLines, same.objects.node, argument]

theorem usingLine (id : NodeId) : moved.usingLine id = layout.usingLine id := by
  simp [Layout.usingLine, same.objects.node, same.typeMark, same.objects.usingWord?,
    same.objects.usingName]

theorem objectLines (id : NodeId) : moved.objectLines id = layout.objectLines id := by
  simp [Layout.objectLines, same.objects.node, same.namespaceLine, same.aggregateLines,
    same.enumLines, same.aliasLine, same.functionLines, same.symbolLine,
    same.templateParameterLines, same.usingLine, Layout.blockLines, Layout.codeLines,
    Layout.primitiveLines, same.shows]

theorem shownLines (shown : Shown) : moved.shownLines shown = layout.shownLines shown := by
  simp [Layout.shownLines, same.objects.node, same.objectLines, same.leftColumns, same.leftWidth,
    same.lineWidth, Layout.lineNumber, Layout.treeIndent, same.shows]

theorem header : moved.header = layout.header := by
  simp [Layout.header, same.leftWidth, Outline.inputFile, same.objects.node]

/-! ### Pages -/

theorem writeAll (page : Page) (selection : List Shown) :
    Page.writeAll moved page selection = Page.writeAll layout page selection := by
  have write : Page.write moved = Page.write layout := by
    funext page shown
    simp [Page.write, Page.announce, same.objects.node, same.leftWidth, same.shownLines]
  rw [Page.writeAll, write]
  rfl

theorem render (selection : List Shown) : moved.render selection = layout.render selection := by
  rw [Layout.render, same.header, same.writeAll]
  rfl

theorem unitPages (file : Option String) (units : List NodeId) :
    Outline.unitPages moved file units = Outline.unitPages layout file units := by
  induction units generalizing file with
  | nil => rfl
  | cons unit rest ih =>
    simp only [Outline.unitPages, same.header, same.writeAll, same.options,
      same.objects.selectFrom, ih]

end Layout.Moved

/-! ### Reports -/

namespace Outline.Moved

variable {outline moved : Outline} (same : Moved f outline moved) {options : Options}
  (noOffsets : options.shows .dwarfOffset = false) (noParents : options.shows .dwarfParent = false)
include same noOffsets noParents

theorem splitFiles (directory : String) : moved.splitFiles options .text directory =
    outline.splitFiles options .text directory := by
  simp only [Outline.splitFiles, same.compileUnits, Outline.unitContents,
    (same.layout noOffsets noParents).unitPages, Outline.splitPath, same.node, Node.name_move]

theorem writeFormats {m : Type → Type} [Monad m] (disk : Disk m) (formats : List OutputFormat)
    (isText : ∀ format ∈ formats, format = .text) :
    moved.writeFormats disk options formats = outline.writeFormats disk options formats := by
  have directory : moved.splitDirectory options = outline.splitDirectory options := by
    simp [Outline.splitDirectory, Outline.inputFile, same.node]
  induction formats with
  | nil => rfl
  | cons format rest ih =>
    obtain ⟨own, later⟩ := List.forall_mem_cons.mp isText
    subst own
    simp only [Outline.writeFormats, Outline.writeSplit, directory,
      same.splitFiles noOffsets noParents, ih later]

end Outline.Moved

/-- An input file says the same wherever its entries stand. If its entries are moved, with
everything that names them, so that no two of the offsets named change their order, then there are
the same warnings; the objects are the same but for the offsets of entries in them; and whatever is
printed as text, written to split files or counted is the same, unless the options show offsets. -/
theorem report_move (input : String) (units : List UnitRecord) (f : UInt64 → UInt64)
    (increasing : Dwarf.Increasing f (Dwarf.offsets units)) :
    let moved := units.map (UnitRecord.move f)
    (∀ void, (Outline.build input moved void).2 = (Outline.build input units void).2 ∧
      (Outline.build input moved void).1.nodes =
        (Outline.build input units void).1.nodes.map (Node.move f)) ∧
    ∀ {m : Type → Type} [Monad m] (disk : Disk m) (options : Options),
      options.shows .dwarfOffset = false → options.shows .dwarfParent = false →
      (∀ format ∈ options.outputs, format = .text) →
        Report.ofUnits disk input moved options = Report.ofUnits disk input units options := by
  intro moved
  have warnings (void : String) :
      (Outline.build input moved void).2 = (Outline.build input units void).2 :=
    (Draft.moves_ofUnits input units increasing).warnings
  refine ⟨fun void => ⟨warnings void, Outline.moved_build input units increasing void⟩, ?_⟩
  intro m _ disk options noOffsets noParents isText
  have same := Outline.moved_sort input units increasing options.void options.sort
  have noted := warnings options.void
  unfold Report.ofUnits
  generalize Outline.build input units options.void = here at same noted ⊢
  generalize Outline.build input moved options.void = there at same noted ⊢
  obtain ⟨built, _⟩ := here
  obtain ⟨movedBuilt, _⟩ := there
  cases noted
  have selection := same.selectFrom options Outline.root
  have texts : options.outputs.map ((movedBuilt.sort options.sort).render options
        ((built.sort options.sort).select options)) =
      options.outputs.map ((built.sort options.sort).render options
        ((built.sort options.sort).select options)) := by
    refine List.map_congr_left fun format listed => ?_
    rw [isText format listed]
    exact (same.layout noOffsets noParents).render _
  simp only [Outline.select, selection, same.tally,
    same.writeFormats noOffsets noParents disk options.outputs isText]
  rw [← Outline.select, texts]

/-- A structure with a member that points back to it, and a reference that leads nowhere. -/
private def ringUnit : UnitRecord where
  entries := #[
    { offset := 11, tag := .compileUnit },
    { offset := 20, tag := .structureType, parent := some 11 },
    { offset := 24, tag := .memberEntry, parent := some 20,
      attributes := [⟨.type, .ref4, .reference 30⟩] },
    { offset := 30, tag := .pointerType, parent := some 11,
      attributes := [⟨.type, .ref4, .reference 20⟩] },
    { offset := 34, tag := .variableEntry, parent := some 11,
      attributes := [⟨.type, .ref4, .reference 40⟩] }]

/-- The structure says the same a thousand bytes further on. -/
theorem report_move_ring :
    (Outline.build "a.o" [ringUnit.move (· + 1000)] "void").1.nodes =
        (Outline.build "a.o" [ringUnit] "void").1.nodes.map (Node.move (· + 1000)) ∧
      Report.ofUnits (m := Id) ⟨fun _ => .error .notFound, fun _ => false, fun _ _ => false,
          fun _ => false⟩ "a.o" [ringUnit.move (· + 1000)] { summary := true } =
        Report.ofUnits (m := Id) ⟨fun _ => .error .notFound, fun _ => false, fun _ _ => false,
          fun _ => false⟩ "a.o" [ringUnit] { summary := true } := by
  have increasing : Dwarf.Increasing (· + 1000) (Dwarf.offsets [ringUnit]) := by
    decide +kernel
  obtain ⟨built, reports⟩ := report_move "a.o" [ringUnit] (· + 1000) increasing
  exact ⟨(built "void").2, reports _ { summary := true } rfl rfl (by decide)⟩

end DebugOutline
