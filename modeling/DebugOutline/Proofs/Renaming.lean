import DebugOutline.Proofs.Ancestry
import DebugOutline.Proofs.Placing

/-! An outline inside a larger one: its objects under other numbers, with its units counted on and
the offsets of its entries moved, below the same input file. Whatever is read off an object of the
part, by way of its parents, children and links, is read off the same object of the whole. -/
namespace DebugOutline

/-- How an outline is taken into a larger one. -/
structure Renaming where
  /-- How far objects are moved; the input file stays object 0. -/
  objects : Nat := 0
  /-- How far units are moved. -/
  units : Nat := 0
  /-- Where entries are moved. -/
  offset : UInt64 → UInt64 := id

namespace Renaming

/-- Entries stay where they are. -/
def Still (shift : Renaming) : Prop := ∀ offset, shift.offset offset = offset

/-- The number of an object in the whole. -/
def object (shift : Renaming) (id : Nat) : Nat :=
  if id = Outline.root then Outline.root else id + shift.objects

/-- An outline at the start of a larger one. -/
def first : Renaming := {}

/-- An outline that goes behind so many objects, the input file included, and units. -/
def behind (objects units : Nat) : Renaming := { objects := objects - 1, units := units }

@[simp] theorem object_first : first.object = id := by
  funext number
  unfold object
  split
  · rename_i same
    exact same.symm
  · rfl

variable {shift : Renaming} {id other : Nat}

@[simp] theorem object_root : shift.object Outline.root = Outline.root := if_pos rfl

theorem object_of_ne (notRoot : id ≠ Outline.root) :
    shift.object id = id + shift.objects := if_neg notRoot

theorem object_injective (shift : Renaming) : Function.Injective shift.object := by
  intro id other same
  unfold object Outline.root at same
  split_ifs at same <;> omega

@[simp] theorem object_inj : shift.object id = shift.object other ↔ id = other :=
  shift.object_injective.eq_iff

@[simp] theorem object_eq_root : shift.object id = Outline.root ↔ id = Outline.root := by
  rw [← shift.object_root, object_inj, shift.object_root]

end Renaming

/-- An object of the part as it stands in the whole. Line rows have no entry whose offset could
move. -/
def Node.rename (shift : Renaming) (node : Node) : Node :=
  { node with
    offset := if node.kind = .codeLine then node.offset else shift.offset node.offset
    parent := node.parent.map shift.object
    children := node.children.map shift.object
    lines := node.lines.map shift.object
    typeOffset := node.typeOffset.map shift.offset
    typeId := node.typeId.map shift.object
    referenceOffset := node.referenceOffset.map shift.offset
    referenceId := node.referenceId.map shift.object
    unit := node.unit + shift.units }

theorem Node.rename_first (node : Node) : node.rename .first = node := by
  have still : Renaming.first.offset = id := rfl
  have units : Renaming.first.units = 0 := rfl
  simp [rename, still, units]

@[simp] theorem Node.kind_rename (shift : Renaming) (node : Node) :
    (node.rename shift).kind = node.kind := rfl

theorem Node.offset_rename {shift : Renaming} (still : shift.Still) (node : Node) :
    (node.rename shift).offset = node.offset := by
  simp [rename, still node.offset]

/-- The object of an input file, before anything is listed under it. -/
def Node.ofInput (input : String) : Node := { kind := .inputFile, offset := 0, name := input }

namespace Outline

variable {shift : Renaming} {part whole : Outline} {id child target : Nat}

/-! ### Inside a tree -/

theorem WellFormed.parent_lt_size (valid : part.WellFormed) (inside : id < part.size) :
    ∀ owner ∈ (part.node id).parent, owner < part.size :=
  fun _ named => Nat.lt_trans (valid.of_parent named).2.2 inside

theorem WellFormed.of_mem_below (valid : part.WellFormed) (member : child ∈ part.below id) :
    (part.node child).parent = some id := by
  unfold Outline.below Outline.children at member
  rcases List.mem_append.mp member with listed | row
  · exact (valid.mem_children.mp (List.mem_filter.mp listed).1).1
  · exact (valid.mem_lines.mp row).1

theorem WellFormed.of_mem_auxiliaryChildren (valid : part.WellFormed) {form : AuxiliaryForm}
    (member : child ∈ part.auxiliaryChildren id form) : (part.node child).parent = some id :=
  (valid.mem_children.mp (List.mem_filter.mp member).1).1

theorem LinksInside.of_type (linked : part.LinksInside)
    (typed : (part.node id).typeId = some target) : target < part.size ∧ target ≠ root :=
  have known := mem_objects.mp (linked id target (.inl typed))
  ⟨known.1, known.2.1⟩

theorem LinksInside.of_reference (linked : part.LinksInside)
    (refers : (part.node id).referenceId = some target) : target < part.size ∧ target ≠ root :=
  have known := mem_objects.mp (linked id target (.inr refers))
  ⟨known.1, known.2.1⟩

/-! ### A part of a whole -/

/-- Every object of a tree stands in the whole under its new number, and what it is linked to is
part of the tree. Of the input file only the name is shared: the whole may list more under it. -/
structure Embeds (shift : Renaming) (part whole : Outline) : Prop where
  valid : part.WellFormed
  linked : part.LinksInside
  size : part.size + shift.objects ≤ whole.size
  object : ∀ id < part.size, id ≠ root →
    whole.node (shift.object id) = (part.node id).rename shift
  file : ∃ input, (part.node root).withoutChildren = .ofInput input ∧
    (whole.node root).withoutChildren = .ofInput input

namespace Embeds

variable (held : Embeds shift part whole)
include held

/-- What the whole shares with the part of any object, the input file included. -/
theorem frame (inside : id < part.size) : ∃ children isTemplate unit offset,
    whole.node (shift.object id) = { (part.node id).rename shift with
      children := children, isTemplate := isTemplate, unit := unit, offset := offset } := by
  by_cases first : id = root
  · subst first
    obtain ⟨input, own, also⟩ := held.file
    have shape {node : Node} (same : node.withoutChildren = .ofInput input) : node =
        { Node.ofInput input with children := node.children, isTemplate := node.isTemplate } := by
      rw [← same]
      rfl
    rw [Renaming.object_root, shape own, shape also]
    exact ⟨(whole.node root).children, (whole.node root).isTemplate, 0, 0,
      by simp [Node.rename, Node.ofInput]⟩
  · exact ⟨_, _, _, _, held.object id inside first⟩

/-- A field that numbers and lists do not enter is the same in both. -/
theorem read (field : Node → α) (seen : ∀ (node : Node) children isTemplate unit offset,
      field { node.rename shift with
        children := children, isTemplate := isTemplate, unit := unit, offset := offset } =
      field node) (inside : id < part.size) :
    field (whole.node (shift.object id)) = field (part.node id) := by
  obtain ⟨_, _, _, _, same⟩ := held.frame inside
  rw [same, seen]

theorem kind (inside : id < part.size) :
    (whole.node (shift.object id)).kind = (part.node id).kind :=
  held.read Node.kind (fun _ _ _ _ _ => rfl) inside

theorem name (inside : id < part.size) :
    (whole.node (shift.object id)).name = (part.node id).name :=
  held.read Node.name (fun _ _ _ _ _ => rfl) inside

theorem tag (inside : id < part.size) :
    (whole.node (shift.object id)).tag = (part.node id).tag :=
  held.read Node.tag (fun _ _ _ _ _ => rfl) inside

theorem detail (inside : id < part.size) :
    (whole.node (shift.object id)).detail = (part.node id).detail :=
  held.read Node.detail (fun _ _ _ _ _ => rfl) inside

theorem isGlobal (inside : id < part.size) :
    (whole.node (shift.object id)).isGlobal = (part.node id).isGlobal :=
  held.read Node.isGlobal (fun _ _ _ _ _ => rfl) inside

theorem level (inside : id < part.size) :
    (whole.node (shift.object id)).level = (part.node id).level :=
  held.read Node.level (fun _ _ _ _ _ => rfl) inside

theorem parent (inside : id < part.size) :
    (whole.node (shift.object id)).parent = (part.node id).parent.map shift.object := by
  obtain ⟨_, _, _, _, same⟩ := held.frame inside
  rw [same]
  rfl

theorem typeId (inside : id < part.size) :
    (whole.node (shift.object id)).typeId = (part.node id).typeId.map shift.object := by
  obtain ⟨_, _, _, _, same⟩ := held.frame inside
  rw [same]
  rfl

theorem templateArgument? (inside : id < part.size) :
    (whole.node (shift.object id)).templateArgument? = (part.node id).templateArgument? :=
  held.read Node.templateArgument? (fun _ _ _ _ _ => rfl) inside

theorem auxiliaryForm? (inside : id < part.size) :
    (whole.node (shift.object id)).auxiliaryForm? = (part.node id).auxiliaryForm? :=
  held.read Node.auxiliaryForm? (fun _ _ _ _ _ => rfl) inside

theorem isPack (inside : id < part.size) :
    (whole.node (shift.object id)).isPack = (part.node id).isPack :=
  held.read Node.isPack (fun _ _ _ _ _ => rfl) inside

theorem linkClass? (inside : id < part.size) :
    (whole.node (shift.object id)).linkClass? = (part.node id).linkClass? :=
  held.read Node.linkClass? (fun _ _ _ _ _ => rfl) inside

theorem object_lt (inside : id < part.size) : shift.object id < whole.size := by
  have enough := held.size
  unfold Renaming.object Outline.root
  split <;> omega

/-! ### Around an object -/

theorem chain (inside : id < part.size) (limit : Nat) :
    whole.chain limit (some (shift.object id)) =
      (part.chain limit (some id)).map shift.object := by
  induction limit generalizing id with
  | zero => rfl
  | succ limit ih =>
    rw [Outline.chain, Outline.chain, List.map_cons, held.parent inside]
    cases named : (part.node id).parent with
    | none => cases limit <;> rfl
    | some parent =>
      have earlier := (held.valid.of_parent named).2.2
      rw [Option.map_some, ih (Nat.lt_trans earlier inside)]

theorem ancestry (inside : id < part.size) :
    whole.ancestry (shift.object id) = (part.ancestry id).map shift.object := by
  have larger : part.size ≤ whole.size := Nat.le_trans (Nat.le_add_right _ _) held.size
  unfold Outline.ancestry
  rw [held.chain inside, held.valid.chain_congr (Nat.lt_of_lt_of_le inside larger) inside]

omit held in
private theorem takeWhile_congr {p q : α → Bool} {list : List α}
    (same : ∀ item ∈ list, p item = q item) : list.takeWhile p = list.takeWhile q := by
  induction list with
  | nil => rfl
  | cons first rest ih =>
    rw [List.takeWhile_cons, List.takeWhile_cons, same first List.mem_cons_self,
      ih fun item member => same item (List.mem_cons_of_mem _ member)]

theorem scopeNames (inside : id < part.size) :
    whole.scopeNames (shift.object id) = part.scopeNames id := by
  have known : ∀ outer ∈ part.ancestry id, outer < part.size :=
    fun outer member => Nat.lt_of_le_of_lt (held.valid.mem_ancestry_le member) inside
  have goesOn : ∀ outer ∈ part.ancestry id,
      (!(whole.node (shift.object outer)).kind.endsScopes) = !(part.node outer).kind.endsScopes :=
    fun outer member => by rw [held.kind (known outer member)]
  unfold Outline.scopeNames
  dsimp only
  rw [held.ancestry inside, List.takeWhile_map, List.map_map]
  unfold Function.comp
  rw [takeWhile_congr goesOn]
  congr 1
  apply List.map_congr_left
  intro outer member
  exact held.name (known outer ((List.takeWhile_sublist _).subset member))

theorem scopePath (inside : id < part.size) :
    whole.scopePath (shift.object id) = part.scopePath id := by
  unfold Outline.scopePath
  rw [held.scopeNames inside]

theorem qualifierUnder {parent : Option NodeId} (inside : ∀ owner ∈ parent, owner < part.size) :
    whole.qualifierUnder (parent.map shift.object) = part.qualifierUnder parent := by
  cases parent with
  | none => rfl
  | some owner =>
    have known := inside owner rfl
    simp only [Option.map_some, Outline.qualifierUnder, held.kind known, held.scopeNames known]

theorem isListed (inside : id < part.size) :
    whole.isListed (shift.object id) = part.isListed id := by
  unfold Outline.isListed
  simp only [Node.isAuxiliary, held.kind inside, held.parent inside, Option.any_map]
  cases named : (part.node id).parent with
  | none => rfl
  | some owner =>
    simp only [Option.any_some, held.isPack (held.valid.parent_lt_size inside owner named)]

/-! ### Below an object -/

theorem children_lt (member : child ∈ (part.node id).children.toList) :
    child < part.size ∧ child ≠ root :=
  have named := held.valid.of_parent (held.valid.mem_children.mp member).1
  ⟨named.1, named.2.1⟩

/-- Those children of an object that are chosen by what the whole shares with the part. -/
theorem filter_children (inside : id < part.size) (notRoot : id ≠ root)
    {chosen choose : NodeId → Bool}
    (same : ∀ child < part.size, chosen (shift.object child) = choose child) :
    (whole.node (shift.object id)).children.toList.filter chosen =
      ((part.node id).children.toList.filter choose).map shift.object := by
  rw [held.object id inside notRoot, Node.rename, Array.toList_map, List.filter_map]
  congr 1
  apply List.filter_congr
  intro child member
  exact same child (held.children_lt member).1

theorem children (inside : id < part.size) (notRoot : id ≠ root) :
    whole.children (shift.object id) = (part.children id).map shift.object :=
  held.filter_children inside notRoot fun _ known => held.isListed known

theorem auxiliaryChildren (inside : id < part.size) (notRoot : id ≠ root) (form : AuxiliaryForm) :
    whole.auxiliaryChildren (shift.object id) form =
      (part.auxiliaryChildren id form).map shift.object :=
  held.filter_children inside notRoot fun _ known => by rw [held.auxiliaryForm? known]

theorem below (inside : id < part.size) (notRoot : id ≠ root) :
    whole.below (shift.object id) = (part.below id).map shift.object := by
  unfold Outline.below
  rw [held.children inside notRoot, held.object id inside notRoot, List.map_append]
  simp [Node.rename]

theorem type? (inside : id < part.size) :
    whole.type? (shift.object id) = (part.type? id).map (Node.rename shift) := by
  unfold Outline.type?
  rw [held.typeId inside]
  cases typed : (part.node id).typeId with
  | none => rfl
  | some target =>
    obtain ⟨known, notRoot⟩ := held.linked.of_type typed
    simp only [Option.map_some, held.object target known notRoot]

end Embeds

end Outline

end DebugOutline
