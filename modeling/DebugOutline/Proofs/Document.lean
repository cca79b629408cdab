import DebugOutline.Proofs.Renaming
import DebugOutline.Render.Yaml

/-! The document of an object and all that is below it does not depend on what else the outline
holds, nor on the numbers that objects and units have there. -/
namespace DebugOutline

theorem Node.compareBy_rename {shift : Renaming} (still : shift.Still) (key : SortKey)
    (a b : Node) : (a.rename shift).compareBy key (b.rename shift) = a.compareBy key b := by
  have offsets : (a.rename shift).compareOffset (b.rename shift) = a.compareOffset b := by
    simp only [compareOffset, offset_rename still]
  cases key <;> simp only [compareBy, offsets] <;> rfl

namespace Outline

variable {shift : Renaming} {part whole : Outline} {id : Nat}

/-! ### Sorting -/

theorem LinksInside.sort (linked : part.LinksInside) (key : SortKey) :
    (part.sort key).LinksInside := by
  intro id target
  simp only [objects, ids, size_sort, node_sort]
  exact linked id target

/-- Sorting the whole sorts the part. -/
theorem Embeds.sort (held : Embeds shift part whole) (still : shift.Still) (key : SortKey) :
    Embeds shift (part.sort key) (whole.sort key) where
  valid := held.valid.sort key
  linked := held.linked.sort key
  size := by simpa using held.size
  object id inside notRoot := by
    rw [size_sort] at inside
    have same := held.object id inside notRoot
    have order : ∀ a ∈ (part.node id).children.toList, ∀ b ∈ (part.node id).children.toList,
        part.ordered key a b = whole.ordered key (shift.object a) (shift.object b) := by
      intro a first b second
      obtain ⟨known, notFile⟩ := held.children_lt first
      obtain ⟨present, alsoNotFile⟩ := held.children_lt second
      simp only [ordered, held.object a known notFile, held.object b present alsoNotFile,
        Node.compareBy_rename still]
    have sorted := List.map_mergeSort order
    rw [node_sort, node_sort, same]
    simp [Node.rename, sorted]
  file := by
    obtain ⟨input, own, all⟩ := held.file
    refine ⟨input, ?_, ?_⟩
    · rw [node_sort, ← own]
      rfl
    · rw [node_sort, ← all]
      rfl

/-! ### The fields of an object -/

theorem Document.dwarfOf_rename (still : shift.Still) (node : Node) :
    dwarfOf (node.rename shift) = dwarfOf node := by
  unfold dwarfOf
  rw [Node.offset_rename still]
  rfl

namespace Embeds

open Document

variable (held : Embeds shift part whole)
include held

theorem declaringFunction? (inside : id < part.size) (notRoot : id ≠ root) :
    whole.declaringFunction? (shift.object id) =
      (part.declaringFunction? id).map (Node.rename shift) := by
  unfold Outline.declaringFunction?
  rw [held.object id inside notRoot]
  cases refers : (part.node id).referenceId with
  | none => simp [Node.rename, refers]
  | some target =>
    obtain ⟨known, notFile⟩ := held.linked.of_reference refers
    simp only [Node.rename, refers, Option.map_some, held.object target known notFile,
      Option.filter_some]
    split <;> rfl

theorem documentArgument? (inside : id < part.size) :
    Document.argument? whole (shift.object id) = Document.argument? part id := by
  unfold Document.argument?
  rw [held.templateArgument? inside, held.type? inside]
  cases part.type? id <;> rfl

theorem isInClass (inside : id < part.size) :
    Layout.isInClass whole (whole.node (shift.object id)) =
      Layout.isInClass part (part.node id) := by
  unfold Layout.isInClass
  rw [held.parent inside]
  cases named : (part.node id).parent with
  | none => rfl
  | some owner =>
    simp only [Option.map_some, Option.any_some,
      held.kind (held.valid.parent_lt_size inside owner named)]

theorem typeField (inside : id < part.size) :
    Document.typeField whole (shift.object id) = Document.typeField part id := by
  unfold Document.typeField
  dsimp only
  rw [held.type? inside, held.kind inside]
  cases part.type? id <;> rfl

theorem usingWord? (inside : id < part.size) :
    whole.usingWord? (shift.object id) = part.usingWord? id := by
  unfold Outline.usingWord?
  dsimp only
  rw [held.type? inside, held.detail inside]
  cases part.type? id <;> rfl

theorem usingName (inside : id < part.size) :
    whole.usingName (shift.object id) = part.usingName id := by
  unfold Outline.usingName
  rw [held.type? inside, held.name inside]
  unfold Outline.type?
  cases typed : (part.node id).typeId with
  | none => rfl
  | some target =>
    have known := (held.linked.of_type typed).1
    simp only [Option.map_some, Node.rename]
    cases named : (part.node target).parent with
    | none => rfl
    | some owner =>
      have present := held.valid.parent_lt_size known owner named
      simp only [Option.map_some, held.kind present, held.scopePath present]

section Fields

variable (inside : id < part.size) (notRoot : id ≠ root)
include inside notRoot

theorem functionAttributes (info : FunctionInfo) :
    Document.functionAttributes whole (shift.object id) info =
      Document.functionAttributes part id info := by
  unfold Document.functionAttributes
  rw [held.declaringFunction? inside notRoot, held.object id inside notRoot]
  cases part.declaringFunction? id <;> rfl

theorem classAttributes : Document.classAttributes whole (shift.object id) =
    Document.classAttributes part id := by
  unfold Document.classAttributes
  dsimp only
  rw [held.auxiliaryChildren inside notRoot, List.flatMap_map, held.object id inside notRoot]
  refine congrArg (List.cons _) (congrArg (listOf _) (List.flatMap_congr ?_))
  intro base member
  have named := held.valid.of_parent (held.valid.of_mem_auxiliaryChildren member)
  rw [held.type? named.1, held.object base named.1 named.2.1]
  cases part.type? base <;> rfl

theorem enumAttributes (isClass : Bool) :
    Document.enumAttributes whole (shift.object id) isClass =
      Document.enumAttributes part id isClass := by
  unfold Document.enumAttributes
  dsimp only
  rw [held.auxiliaryChildren inside notRoot, List.flatMap_map]
  refine congrArg (List.cons _) (congrArg (listOf _) (List.flatMap_congr ?_))
  intro enumerator member
  have named := held.valid.of_parent (held.valid.of_mem_auxiliaryChildren member)
  rw [held.object enumerator named.1 named.2.1]
  rfl

theorem templateAttributes (argument : TemplateArgument) :
    Document.templateAttributes whole (shift.object id) argument =
      Document.templateAttributes part id argument := by
  have arguments : (whole.node (shift.object id)).children.toList.filterMap
      (Document.argument? whole) =
      (part.node id).children.toList.filterMap (Document.argument? part) := by
    rw [held.object id inside notRoot, Node.rename, Array.toList_map, List.filterMap_map]
    apply List.filterMap_congr
    intro child member
    exact held.documentArgument? (held.children_lt member).1
  unfold Document.templateAttributes
  rw [arguments, held.documentArgument? inside]

theorem attributes : Document.attributes whole (shift.object id) =
    Document.attributes part id := by
  unfold Document.attributes
  dsimp only
  rw [held.isInClass inside, held.classAttributes inside notRoot, held.kind inside,
    held.detail inside]
  simp only [held.functionAttributes inside notRoot, held.enumAttributes inside notRoot,
    held.templateAttributes inside notRoot]
  rw [held.object id inside notRoot]
  rfl

theorem commonFields (still : shift.Still) : Document.commonFields whole (shift.object id) =
    Document.commonFields part id := by
  unfold Document.commonFields
  dsimp only
  rw [held.typeField inside, held.attributes inside notRoot, held.object id inside notRoot,
    dwarfOf_rename still]
  rfl

theorem fields (still : shift.Still) : Document.fields whole (shift.object id) =
    Document.fields part id := by
  have common := held.commonFields inside notRoot still
  unfold Document.fields primitiveFields usingFields
  dsimp only
  rw [common, held.usingWord? inside, held.usingName inside, held.object id inside notRoot,
    dwarfOf_rename still]
  rfl

end Fields

/-! ### An object with all that is below it -/

/-- Limits that are large enough make no difference. -/
theorem item (still : shift.Still) {limit longer : Nat} (enough : part.size ≤ limit + id)
    (plenty : part.size ≤ longer + id) (inside : id < part.size) (notRoot : id ≠ root)
    (level : Nat) : Document.item whole longer (shift.object id) level =
      Document.item part limit id level := by
  induction limit generalizing longer id level with
  | zero => omega
  | succ limit ih =>
    obtain ⟨longer, rfl⟩ := Nat.exists_eq_add_one_of_ne_zero (by omega : longer ≠ 0)
    have below : ∀ child ∈ part.below id, Document.item whole longer (shift.object child)
        (level + 1) = Document.item part limit child (level + 1) := by
      intro child member
      obtain ⟨known, notFile, earlier⟩ := held.valid.of_parent (held.valid.of_mem_below member)
      exact ih (by omega) (by omega) known notFile (level + 1)
    rw [Document.item, Document.item, held.fields inside notRoot still,
      held.below inside notRoot, List.isEmpty_map, List.flatMap_map, List.flatMap_congr below]

/-- An object and all that is below it make the same item in the part and in the whole. -/
theorem yamlItem (still : shift.Still) (inside : id < part.size) (notRoot : id ≠ root)
    (level : Nat) : whole.yamlItem (shift.object id) level = part.yamlItem id level := by
  have room := held.size
  unfold Outline.yamlItem
  rw [held.item still (Nat.le_add_right _ _) (by omega) inside notRoot]

end Embeds

end Outline

end DebugOutline
