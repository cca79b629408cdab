import DebugOutline.Proofs.WellFormed

/-! The order of siblings. Each key compares by numbers and texts one after the other, so it is a
total preorder, and only siblings with one offset can tie. Sorting an object in its place looks at
nothing that sorting changes; that is why all objects can be sorted at once. Where siblings have
offsets of their own, the order they came in does not matter. -/
namespace DebugOutline

variable {key : SortKey} {a b : Node}

namespace Node

/-! ### The comparisons -/

instance : Std.TransCmp compareLine := inferInstanceAs (Std.TransCmp (compareOn Node.line))

instance : Std.TransCmp compareName := inferInstanceAs (Std.TransCmp (compareOn Node.name))

instance : Std.TransCmp compareKind :=
  inferInstanceAs (Std.TransCmp (compareOn fun node : Node => node.kind.name))

instance : Std.TransCmp compareOffset := inferInstanceAs (Std.TransCmp (compareOn Node.offset))

/-- Every key orders objects by a total preorder. -/
instance transCmp_compareBy (key : SortKey) : Std.TransCmp (compareBy key) :=
  match key with
  | .line => inferInstanceAs (Std.TransCmp (compareLex (compareLex (compareLex
      compareLine compareName) compareKind) compareOffset))
  | .name => inferInstanceAs (Std.TransCmp (compareLex (compareLex (compareLex
      compareName compareLine) compareKind) compareOffset))
  | .offset => inferInstanceAs (Std.TransCmp compareOffset)

/-- Objects tie only where they have the same offset. -/
theorem offset_eq_of_compareBy (tie : a.compareBy key b = .eq) : a.offset = b.offset := by
  have last : a.compareOffset b = .eq := by
    cases key with
    | line => exact (Ordering.then_eq_eq.mp tie).2
    | name => exact (Ordering.then_eq_eq.mp tie).2
    | offset => exact tie
  exact Std.LawfulEqOrd.eq_of_compare last

/-- An object without its list of children. -/
def unordered (node : Node) : Node := { node with children := #[] }

/-- How objects compare does not depend on their children. -/
theorem compareBy_unordered (key : SortKey) (a b : Node) :
    a.unordered.compareBy key b.unordered = a.compareBy key b := by
  cases key <;> rfl

end Node

namespace Outline

variable {outline before middle after : Outline} {first second : SortKey} {id : Nat}

theorem ext_node (size : after.size = before.size)
    (nodes : ∀ id, after.node id = before.node id) (index : after.index = before.index) :
    after = before := by
  obtain ⟨old, table⟩ := before
  obtain ⟨new, other⟩ := after
  obtain rfl : other = table := index
  congr 1
  refine Array.ext size fun id inside known => ?_
  have same := nodes id
  rw [node_eq_getD, node_eq_getD, Array.getElem?_eq_getElem inside,
    Array.getElem?_eq_getElem known] at same
  exact same

/-! ### Outlines that differ in the order of siblings alone -/

/-- The same objects with the same children in another order, and nothing else changed. -/
structure Reorders (before after : Outline) : Prop where
  index : after.index = before.index
  size : after.size = before.size
  fields : ∀ id, (after.node id).unordered = (before.node id).unordered
  children : ∀ id, (after.node id).children.toList.Perm (before.node id).children.toList

theorem compareBy_congr (same : ∀ id, (after.node id).unordered = (before.node id).unordered)
    (key : SortKey) (a b : Nat) :
    (after.node a).compareBy key (after.node b) =
      (before.node a).compareBy key (before.node b) := by
  rw [← Node.compareBy_unordered, same, same, Node.compareBy_unordered]

theorem ordered_congr (same : ∀ id, (after.node id).unordered = (before.node id).unordered)
    (key : SortKey) : after.ordered key = before.ordered key := by
  funext a b
  exact congrArg Ordering.isLE (compareBy_congr same key a b)

theorem ordered_total (outline : Outline) (key : SortKey) (a b : Nat) :
    (outline.ordered key a b || outline.ordered key b a) = true := by
  have swapped : (outline.node b).compareBy key (outline.node a) =
      ((outline.node a).compareBy key (outline.node b)).swap := Std.OrientedCmp.eq_swap
  rw [ordered, ordered, swapped]
  cases (outline.node a).compareBy key (outline.node b) <;> rfl

theorem ordered_trans (outline : Outline) (key : SortKey) (a b c : Nat)
    (first : outline.ordered key a b = true) (second : outline.ordered key b c = true) :
    outline.ordered key a c = true :=
  Std.TransCmp.isLE_trans first second

/-! ### All objects at once -/

theorem children_sort (outline : Outline) (key : SortKey) (id : Nat) :
    ((outline.sort key).node id).children.toList =
      (outline.node id).children.toList.mergeSort (outline.ordered key) := by
  rw [node_sort]

theorem reorders_sort (outline : Outline) (key : SortKey) :
    outline.Reorders (outline.sort key) where
  index := rfl
  size := size_sort outline key
  fields id := by
    rw [node_sort]
    rfl
  children id := by
    rw [children_sort]
    exact List.mergeSort_perm _ _

/-- The children of every object stand in the order of the key, and where two of them tie, they
stand as they stood before. -/
structure SortedBy (key : SortKey) (before after : Outline) : Prop where
  reorders : before.Reorders after
  ascending : ∀ id, (after.node id).children.toList.Pairwise fun a b =>
    (after.node a).compareBy key (after.node b) ≠ .gt
  stable : ∀ id sibling, (after.node id).children.toList.filter (fun child =>
      (after.node sibling).compareBy key (after.node child) == .eq) =
    (before.node id).children.toList.filter fun child =>
      (before.node sibling).compareBy key (before.node child) == .eq

/-- Those that tie with one object are in order already, so sorting leaves them as they stand. -/
theorem filter_mergeSort (outline : Outline) (key : SortKey) (sibling : Nat)
    (children : List Nat) :
    (children.mergeSort (outline.ordered key)).filter (fun child =>
        (outline.node sibling).compareBy key (outline.node child) == .eq) =
      children.filter fun child =>
        (outline.node sibling).compareBy key (outline.node child) == .eq := by
  set tied : Nat → Bool := fun child =>
    (outline.node sibling).compareBy key (outline.node child) == .eq with defined
  have level : (children.filter tied).Pairwise fun a b => outline.ordered key a b = true := by
    refine List.pairwise_of_forall_mem_list fun a first b second => ?_
    have here : (outline.node sibling).compareBy key (outline.node a) = .eq := by
      simpa [defined] using (List.mem_filter.mp first).2
    have there : (outline.node sibling).compareBy key (outline.node b) = .eq := by
      simpa [defined] using (List.mem_filter.mp second).2
    have back : (outline.node a).compareBy key (outline.node sibling) = .eq :=
      Std.OrientedCmp.eq_comm.mp here
    have equal := Std.TransCmp.eq_trans back there
    simp [ordered, equal]
  have within : (children.filter tied).Sublist (children.mergeSort (outline.ordered key)) :=
    List.sublist_mergeSort (ordered_trans outline key) (ordered_total outline key) level
      List.filter_sublist
  have kept := within.filter tied
  rw [List.filter_filter] at kept
  simp only [Bool.and_self] at kept
  exact (kept.eq_of_length ((List.mergeSort_perm _ _).filter tied).length_eq.symm).symm

theorem sortedBy_sort (outline : Outline) (key : SortKey) :
    outline.SortedBy key (outline.sort key) where
  reorders := reorders_sort outline key
  ascending id := by
    rw [children_sort]
    have ordered := List.pairwise_mergeSort (ordered_trans outline key) (ordered_total outline key)
      (outline.node id).children.toList
    refine ordered.imp fun {a b} before => ?_
    rw [compareBy_congr (reorders_sort outline key).fields]
    exact Ordering.isLE_iff_ne_gt.mp before
  stable id sibling := by
    rw [children_sort]
    simp only [compareBy_congr (reorders_sort outline key).fields]
    exact filter_mergeSort outline key sibling _

/-! ### One object after the other -/

/-- Sort the children of one object. They are compared while they are taken out of it. -/
def sortChildren (key : SortKey) (outline : Outline) (id : NodeId) : Outline :=
  if (outline.node id).children.size < 2 then outline
  else
    (outline.modify id Node.unordered).modify id fun node =>
      { node with children := ((outline.node id).children.toList.mergeSort
          ((outline.modify id Node.unordered).ordered key)).toArray }

@[simp] theorem size_sortChildren (key : SortKey) (outline : Outline) (id : Nat) :
    (sortChildren key outline id).size = outline.size := by
  unfold sortChildren
  split <;> simp

theorem index_sortChildren (key : SortKey) (outline : Outline) (id : Nat) :
    (sortChildren key outline id).index = outline.index := by
  unfold sortChildren
  split <;> rfl

/-- The object becomes what it is when all are sorted, and no other object changes. -/
theorem node_sortChildren (inside : id < outline.size) (key : SortKey) (other : Nat) :
    (sortChildren key outline id).node other =
      if other = id then (outline.sort key).node other else outline.node other := by
  have free : (outline.modify id Node.unordered).ordered key = outline.ordered key :=
    ordered_congr (Keeps.modify outline id rfl).node key
  unfold sortChildren
  split
  · rename_i few
    split
    · rename_i own
      subst own
      have short : (outline.node other).children.toList.length < 2 := few
      have still : (outline.node other).children.toList.mergeSort (outline.ordered key) =
          (outline.node other).children.toList := by
        match (outline.node other).children.toList, short with
        | [], _ => exact List.mergeSort_nil
        | [only], _ => exact List.mergeSort_singleton only
      rw [node_sort, still]
    · rfl
  · rw [free, node_modify, node_modify, size_modify]
    by_cases own : other = id
    · subst own
      simp only [inside, and_self, if_true, node_sort]
      rfl
    · simp [own]

/-- Those before `limit` are sorted, the others wait. -/
theorem node_foldl_sortChildren (outline : Outline) (key : SortKey) {limit : Nat}
    (known : limit ≤ outline.size) :
    ((List.range limit).foldl (sortChildren key) outline).size = outline.size ∧
      ((List.range limit).foldl (sortChildren key) outline).index = outline.index ∧
      ∀ other, ((List.range limit).foldl (sortChildren key) outline).node other =
        if other < limit then (outline.sort key).node other else outline.node other := by
  induction limit with
  | zero => exact ⟨rfl, rfl, fun other => by simp⟩
  | succ limit ih =>
    obtain ⟨size, index, nodes⟩ := ih (Nat.le_of_succ_le known)
    rw [List.range_succ, List.foldl_append, List.foldl_cons, List.foldl_nil]
    set reached := (List.range limit).foldl (sortChildren key) outline
    refine ⟨by rw [size_sortChildren, size], by rw [index_sortChildren, index], fun other => ?_⟩
    -- What is sorted already compares as before, so the next one meets the order of the start.
    have fields (id : Nat) : (reached.node id).unordered = (outline.node id).unordered := by
      rw [nodes]
      split
      · exact (reorders_sort outline key).fields id
      · rfl
    have order := ordered_congr fields key
    have present : limit < reached.size := by omega
    rw [node_sortChildren present]
    by_cases own : other = limit
    · subst own
      have waiting : reached.node other = outline.node other := by simp [nodes]
      simp [node_sort, waiting, order]
    · have apart : other < limit + 1 ↔ other < limit := by grind
      simp [own, nodes, apart]

/-- Sorting one object after the other, each compared through what the steps before it left, sorts
all of them. -/
theorem foldl_sortChildren (outline : Outline) (key : SortKey) :
    outline.ids.foldl (sortChildren key) outline = outline.sort key := by
  obtain ⟨size, index, nodes⟩ := node_foldl_sortChildren outline key (Nat.le_refl outline.size)
  refine ext_node (size.trans (size_sort outline key).symm) (fun id => ?_) index
  rw [ids, nodes]
  split
  · rfl
  · rename_i outside
    rw [node_of_size_le (by simpa using outside), node_of_size_le (by simpa using outside)]

/-! ### Offsets that tell siblings apart -/

/-- No two children of an object have the same offset. -/
def DistinctOffsets (outline : Outline) : Prop :=
  ∀ id, ((outline.node id).children.toList.map fun child => (outline.node child).offset).Nodup

/-- With a total order on the siblings of each object, only their set matters. -/
theorem DistinctOffsets.sort_eq (distinct : before.DistinctOffsets)
    (reorders : before.Reorders after) (key : SortKey) : after.sort key = before.sort key := by
  refine ext_node (by simpa using reorders.size) (fun id => ?_) reorders.index
  have sorted : (after.node id).children.toList.mergeSort (after.ordered key) =
      (before.node id).children.toList.mergeSort (before.ordered key) := by
    rw [ordered_congr reorders.fields]
    refine List.Perm.eq_of_pairwise (fun a b first second le ge => ?_)
      (List.pairwise_mergeSort (ordered_trans before key) (ordered_total before key) _)
      (List.pairwise_mergeSort (ordered_trans before key) (ordered_total before key) _)
      ((List.mergeSort_perm _ _).trans ((reorders.children id).trans
        (List.mergeSort_perm _ _).symm))
    have member := (reorders.children id).mem_iff.mp (List.mem_mergeSort.mp first)
    have tie := Std.OrientedCmp.isLE_antisymm le ge
    exact List.inj_on_of_nodup_map (distinct id) member (List.mem_mergeSort.mp second)
      (Node.offset_eq_of_compareBy tie)
  have rest := reorders.fields id
  rw [node_sort, node_sort, sorted]
  unfold Node.unordered at rest
  simp only [Node.mk.injEq] at rest ⊢
  simp [rest]

/-- Sorting by a key is a stable sort by a total preorder, in place or all at once, that reorders
the children of every object and touches nothing else. Where siblings have offsets of their own,
the order they came in leaves no trace, be it that of another key. -/
theorem sort_canonical (outline : Outline) :
    (∀ key, Std.TransCmp (Node.compareBy key)) ∧
      (∀ key, outline.SortedBy key (outline.sort key)) ∧
      (∀ key, outline.ids.foldl (sortChildren key) outline = outline.sort key) ∧
      (outline.DistinctOffsets →
        (∀ first second, (outline.sort first).sort second = outline.sort second) ∧
        ∀ other, outline.Reorders other → ∀ key, other.sort key = outline.sort key) := by
  refine ⟨Node.transCmp_compareBy, sortedBy_sort outline, foldl_sortChildren outline,
    fun distinct => ⟨fun first second => ?_, fun other reorders key => ?_⟩⟩
  · exact distinct.sort_eq (reorders_sort outline first) second
  · exact distinct.sort_eq reorders key

/-- A unit with a variable, a class, a function and an alias, in this order. -/
private def fourSiblings : Outline :=
  [{ kind := .variable, offset := 64, name := "var", line := 3 },
    { kind := .classType, offset := 80, name := "Klass", line := 1 },
    { kind := .function, offset := 32, name := "func", line := 4 },
    { kind := .alias, offset := 48, name := "alias", line := 2 }].foldl
    (fun outline node => (outline.insert node 1).2)
    ((empty "a.o").insert { kind := .compileUnit, offset := 11, name := "a.cpp" } root).2

/-- Sorted by name and then by line, the four siblings stand as if sorted by line alone. -/
theorem sort_canonical_siblings :
    (fourSiblings.node 1).children.toList = [2, 3, 4, 5] ∧ fourSiblings.DistinctOffsets ∧
      (fourSiblings.sort .name).sort .line = fourSiblings.sort .line := by
  have distinct : fourSiblings.DistinctOffsets := by
    intro id
    by_cases inside : id < fourSiblings.size
    · have few : fourSiblings.size = 6 := by decide
      have each : ∀ id < 6, ((fourSiblings.node id).children.toList.map fun child =>
        (fourSiblings.node child).offset).Nodup := by decide +kernel
      exact each id (few ▸ inside)
    · rw [node_of_size_le (Nat.le_of_not_lt inside)]
      exact List.nodup_nil
  exact ⟨by decide +kernel, distinct, ((sort_canonical fourSiblings).2.2.2 distinct).1 .name .line⟩

end Outline

end DebugOutline
