import Mathlib
import DebugOutline.Outline.Order

/-! What the objects of an outline are after one of them was changed, one was added or all were
sorted. Everything else about these operations follows from here. -/
namespace DebugOutline

/-- The owner of an object that was just added. -/
def Node.adopt (owner : Node) (id : Nat) (kind : Kind) : Node :=
  if kind = .codeLine then { owner with lines := owner.lines.push id }
  else { owner with children := owner.children.push id }

variable {id parent : Nat} {kind : Kind} {outline : Outline}

namespace Node

@[simp] theorem adopt_kind (owner : Node) : (owner.adopt id kind).kind = owner.kind := by
  unfold adopt; split <;> rfl

@[simp] theorem adopt_parent (owner : Node) : (owner.adopt id kind).parent = owner.parent := by
  unfold adopt; split <;> rfl

@[simp] theorem adopt_level (owner : Node) : (owner.adopt id kind).level = owner.level := by
  unfold adopt; split <;> rfl

@[simp] theorem adopt_offset (owner : Node) : (owner.adopt id kind).offset = owner.offset := by
  unfold adopt; split <;> rfl

theorem adopt_children (owner : Node) : (owner.adopt id kind).children.toList =
    owner.children.toList ++ if kind = .codeLine then [] else [id] := by
  unfold adopt; split <;> simp

theorem adopt_lines (owner : Node) : (owner.adopt id kind).lines.toList =
    owner.lines.toList ++ if kind = .codeLine then [id] else [] := by
  unfold adopt; split <;> simp

end Node

namespace Outline

theorem node_eq_getD (outline : Outline) (id : Nat) :
    outline.node id = outline.nodes[id]?.getD default :=
  Array.getD_eq_getD_getElem?

/-- Numbers that no object has stand for nothing in particular. -/
theorem node_of_size_le (outside : outline.size ≤ id) :
    outline.node id = default := by
  have missing : outline.nodes[id]? = none := Array.getElem?_eq_none outside
  simp [node_eq_getD, missing]

/-- An empty outline has the object of the input file, and no other. -/
theorem node_empty_cases (input : String) (id : Nat) :
    (empty input).node id = { kind := .inputFile, offset := 0, name := input } ∨
      (empty input).node id = default := by
  cases id with
  | zero => exact .inl rfl
  | succ id => exact .inr (node_of_size_le (Nat.le_add_left 1 id))

theorem lt_size_of_node_ne (known : outline.node id ≠ default) :
    id < outline.size := by
  by_contra outside
  exact known (node_of_size_le (Nat.le_of_not_lt outside))

@[simp] theorem mem_ids : id ∈ outline.ids ↔ id < outline.size := by
  simp [ids]

/-! ### One object changed -/

@[simp] theorem size_modify (outline : Outline) (id : Nat) (change : Node → Node) :
    (outline.modify id change).size = outline.size := by
  simp [modify, size]

@[simp] theorem find?_modify (outline : Outline) (id : Nat) (change : Node → Node)
    (offset : UInt64) : (outline.modify id change).find? offset = outline.find? offset := rfl

theorem node_modify (outline : Outline) (id other : Nat) (change : Node → Node) :
    (outline.modify id change).node other =
      if other = id ∧ id < outline.size then change (outline.node other)
      else outline.node other := by
  simp only [node_eq_getD, modify, Array.getElem?_modify]
  by_cases same : id = other
  · subst same
    by_cases inside : id < outline.size
    · have present : id < outline.nodes.size := inside
      simp [inside, present]
    · have missing : outline.nodes[id]? = none := Array.getElem?_eq_none (Nat.le_of_not_lt inside)
      simp [inside, missing]
  · simp [same, Ne.symm same]

/-! ### One object added -/

/-- An object as it stands in the outline once it was added under `parent`. -/
def placed (outline : Outline) (node : Node) (parent : Nat) : Node :=
  { node with parent := some parent, level := outline.levelUnder parent node.kind }

@[simp] theorem insert_id (outline : Outline) (node : Node) (parent : Nat) :
    (outline.insert node parent).1 = outline.size := by
  unfold insert
  split <;> rfl

@[simp] theorem size_insert (outline : Outline) (node : Node) (parent : Nat) :
    (outline.insert node parent).2.size = outline.size + 1 := by
  unfold insert
  split <;> simp [size]

theorem ids_insert (outline : Outline) (node : Node) (parent : Nat) :
    (outline.insert node parent).2.ids = outline.ids ++ [outline.size] := by
  simp [ids, List.range_succ]

theorem nodes_insert (outline : Outline) (node : Node) (parent : Nat) :
    (outline.insert node parent).2.nodes =
      (outline.nodes.push (outline.placed node parent)).modify parent fun owner =>
        owner.adopt outline.size node.kind := by
  unfold insert Node.adopt placed
  by_cases row : node.kind = .codeLine <;> simp [row]

/-- Adding an object puts it last and lists it with its owner; nothing else changes. -/
theorem node_insert (inside : parent < outline.size) (node : Node)
    (id : Nat) : (outline.insert node parent).2.node id =
      if id = outline.size then outline.placed node parent
      else if id = parent then (outline.node id).adopt outline.size node.kind
      else outline.node id := by
  have apart : parent ≠ outline.size := Nat.ne_of_lt inside
  have present : parent < outline.nodes.size := inside
  have last : outline.nodes.size = outline.size := rfl
  simp only [node_eq_getD, nodes_insert, Array.getElem?_modify, Array.getElem?_push, last]
  by_cases added : id = outline.size
  · simp [added, apart]
  · by_cases owner : id = parent
    · subst owner
      simp [added, present]
    · simp [added, owner, Ne.symm owner]

theorem node_insert_self (inside : parent < outline.size) (node : Node) :
    (outline.insert node parent).2.node outline.size = outline.placed node parent := by
  simp [node_insert inside]

theorem find?_insert (outline : Outline) (node : Node) (parent : Nat) (offset : UInt64) :
    (outline.insert node parent).2.find? offset =
      if node.kind ≠ .codeLine ∧ node.offset = offset then some outline.size
      else outline.find? offset := by
  unfold insert find?
  by_cases row : node.kind = .codeLine
  · simp [row]
  · simp [row, Std.HashMap.getElem?_insert]

/-! ### Everything sorted -/

@[simp] theorem size_sort (outline : Outline) (key : SortKey) :
    (outline.sort key).size = outline.size := by
  simp [sort, size]

@[simp] theorem find?_sort (outline : Outline) (key : SortKey) (offset : UInt64) :
    (outline.sort key).find? offset = outline.find? offset := rfl

/-- Sorting reorders the children of every object and does nothing else. -/
theorem node_sort (outline : Outline) (key : SortKey) (id : Nat) :
    (outline.sort key).node id = { outline.node id with children :=
      ((outline.node id).children.toList.mergeSort (outline.ordered key)).toArray } := by
  simp only [node_eq_getD, sort, Array.getElem?_map]
  by_cases inside : id < outline.nodes.size
  · simp [inside]
  · have empty : (default : Node).children.toList = [] := rfl
    simp only [Array.getElem?_eq_none (Nat.le_of_not_lt inside), Option.map_none, Option.getD_none,
      empty, List.mergeSort_nil]
    rfl

@[simp] theorem name_sort (outline : Outline) (key : SortKey) (id : Nat) :
    ((outline.sort key).node id).name = (outline.node id).name := by
  rw [node_sort]

@[simp] theorem lines_sort (outline : Outline) (key : SortKey) (id : Nat) :
    ((outline.sort key).node id).lines = (outline.node id).lines := by
  rw [node_sort]

end Outline

end DebugOutline
