import DebugOutline.Proofs.Change

/-! The objects of an outline form a tree, its lists of children and line rows agree with the
parents that objects name, and its index leads to the last object with an offset. Adding an object
and sorting keep it so, and so does every change that leaves objects in their places. -/
namespace DebugOutline

namespace Outline

/-- The objects that stand for entries: all but the input file and the line rows. -/
def objects (outline : Outline) : List NodeId :=
  outline.ids.filter fun id => id != root && (outline.node id).kind != .codeLine

/-- Object 0 is the only one without a parent, and parents are older than their children. Every
other object is listed once, by its parent, among the line rows if it is one and among the children
if not. The index finds the last object with an offset. -/
structure WellFormed (outline : Outline) : Prop where
  root_present : 0 < outline.size
  root_parent : (outline.node root).parent = none
  parent_earlier : ∀ id < outline.size, id ≠ root →
    ∃ parent < id, (outline.node id).parent = some parent
  children_count : ∀ owner id, (outline.node owner).children.toList.count id =
    if (outline.node id).parent = some owner ∧ (outline.node id).kind ≠ .codeLine then 1 else 0
  lines_count : ∀ owner id, (outline.node owner).lines.toList.count id =
    if (outline.node id).parent = some owner ∧ (outline.node id).kind = .codeLine then 1 else 0
  level : ∀ id parent, (outline.node id).parent = some parent → (outline.node id).level =
    if parent = root ∨ (outline.node id).kind = .compileUnit then 0
    else (outline.node parent).level + 1
  find : ∀ offset, outline.find? offset =
    (outline.objects.filter fun id => (outline.node id).offset == offset).getLast?

variable {outline before after : Outline} {id parent owner : Nat}

theorem mem_objects : id ∈ outline.objects ↔
    id < outline.size ∧ id ≠ root ∧ (outline.node id).kind ≠ .codeLine := by
  simp [objects]

namespace WellFormed

theorem of_parent (valid : outline.WellFormed) (named : (outline.node id).parent = some parent) :
    id < outline.size ∧ id ≠ root ∧ parent < id := by
  have inside : id < outline.size := lt_size_of_node_ne fun outside => by
    rw [outside] at named
    cases named
  have notRoot : id ≠ root := by
    intro same
    subst same
    rw [valid.root_parent] at named
    cases named
  obtain ⟨earlier, less, same⟩ := valid.parent_earlier id inside notRoot
  have identical : earlier = parent := Option.some.inj (same.symm.trans named)
  exact ⟨inside, notRoot, identical ▸ less⟩

theorem mem_children (valid : outline.WellFormed) :
    id ∈ (outline.node owner).children.toList ↔
      (outline.node id).parent = some owner ∧ (outline.node id).kind ≠ .codeLine := by
  rw [← List.count_pos_iff, valid.children_count]
  split <;> simp_all

theorem mem_lines (valid : outline.WellFormed) :
    id ∈ (outline.node owner).lines.toList ↔
      (outline.node id).parent = some owner ∧ (outline.node id).kind = .codeLine := by
  rw [← List.count_pos_iff, valid.lines_count]
  split <;> simp_all

theorem children_nodup (valid : outline.WellFormed) (owner : Nat) :
    (outline.node owner).children.toList.Nodup := by
  rw [List.nodup_iff_count_le_one]
  intro id
  rw [valid.children_count]
  split <;> omega

theorem lines_nodup (valid : outline.WellFormed) (owner : Nat) :
    (outline.node owner).lines.toList.Nodup := by
  rw [List.nodup_iff_count_le_one]
  intro id
  rw [valid.lines_count]
  split <;> omega

/-- What the index leads to is the object of an entry with that offset. -/
theorem find_sound (valid : outline.WellFormed) (found : outline.find? offset = some id) :
    id ∈ outline.objects ∧ (outline.node id).offset = offset := by
  rw [valid.find] at found
  have member := List.mem_of_getLast? found
  simpa using List.mem_filter.mp member

theorem find_lt_size (valid : outline.WellFormed) (found : outline.find? offset = some id) :
    id < outline.size :=
  (mem_objects.mp (valid.find_sound found).1).1

end WellFormed

/-! ### Nothing added yet -/

private theorem node_empty (input : String) (id : Nat) :
    ((empty input).node id).parent = none ∧ ((empty input).node id).children = #[] ∧
      ((empty input).node id).lines = #[] := by
  rcases node_empty_cases input id with same | same <;> rw [same] <;> exact ⟨rfl, rfl, rfl⟩

theorem WellFormed.empty (input : String) : (Outline.empty input).WellFormed where
  root_present := Nat.zero_lt_one
  root_parent := rfl
  parent_earlier id inside notRoot := absurd (Nat.lt_one_iff.mp inside) notRoot
  children_count owner id := by simp [node_empty]
  lines_count owner id := by simp [node_empty]
  level id parent named := by simp [node_empty] at named
  find offset := by
    have none : (Outline.empty input).objects = [] := rfl
    rw [none]
    exact Std.HashMap.getElem?_empty

/-! ### One object added -/

/-- Objects that were there before keep everything but their lists. -/
theorem insert_keeps (inside : parent < outline.size) (node : Node) (older : id ≠ outline.size) :
    ((outline.insert node parent).2.node id).kind = (outline.node id).kind ∧
      ((outline.insert node parent).2.node id).parent = (outline.node id).parent ∧
      ((outline.insert node parent).2.node id).level = (outline.node id).level ∧
      ((outline.insert node parent).2.node id).offset = (outline.node id).offset := by
  rw [node_insert inside, if_neg older]
  split <;> simp

theorem objects_insert (inside : parent < outline.size) (node : Node) :
    (outline.insert node parent).2.objects =
      outline.objects ++ if node.kind = .codeLine then [] else [outline.size] := by
  have notRoot : outline.size ≠ root := Nat.ne_of_gt (Nat.zero_lt_of_lt inside)
  have older : outline.ids.filter (fun id =>
      id != root && ((outline.insert node parent).2.node id).kind != .codeLine) =
      outline.objects := by
    apply List.filter_congr
    intro id member
    have known : id < outline.size := mem_ids.mp member
    rw [(insert_keeps inside node (Nat.ne_of_lt known)).1]
  rw [objects, ids_insert, List.filter_append, older]
  congr 1
  have own : ((outline.insert node parent).2.node outline.size).kind = node.kind := by
    rw [node_insert_self inside]
    rfl
  by_cases row : node.kind = .codeLine <;> simp [own, row, notRoot]

namespace WellFormed

/-- A list that every object keeps of the objects of some kinds under it stays complete and without
repetition: the new object is in the list of its parent, if it is of such a kind. -/
private theorem count_insert (lists : Node → List NodeId) (listed : Kind → Prop)
    [DecidablePred listed] (inside : parent < outline.size) (node : Node)
    (blank : lists (outline.placed node parent) = [])
    (grown : lists ((outline.node parent).adopt outline.size node.kind) =
      lists (outline.node parent) ++ if listed node.kind then [outline.size] else [])
    (counted : ∀ owner id, (lists (outline.node owner)).count id =
      if (outline.node id).parent = some owner ∧ listed (outline.node id).kind then 1 else 0)
    (earlier : ∀ owner, (outline.node owner).parent ≠ some outline.size)
    (owner id : Nat) :
    (lists ((outline.insert node parent).2.node owner)).count id =
      if ((outline.insert node parent).2.node id).parent = some owner ∧
        listed ((outline.insert node parent).2.node id).kind then 1 else 0 := by
  have unborn : (outline.node outline.size).parent = none := by
    rw [node_of_size_le (Nat.le_refl _)]
    rfl
  have lists_insert : lists ((outline.insert node parent).2.node owner) =
      if owner = outline.size then []
      else lists (outline.node owner) ++
        if owner = parent ∧ listed node.kind then [outline.size] else [] := by
    rw [node_insert inside]
    by_cases own : owner = outline.size
    · simp [own, blank]
    · by_cases same : owner = parent
      · subst same
        simp [own, grown]
      · simp [own, same]
  rw [lists_insert]
  by_cases added : id = outline.size
  · subst added
    rw [node_insert_self inside]
    have absent : (lists (outline.node owner)).count outline.size = 0 := by
      simp [counted, unborn]
    by_cases own : owner = outline.size
    · have apart : parent ≠ outline.size := Nat.ne_of_lt inside
      simp [own, placed, apart]
    · by_cases same : parent = owner
      · subst same
        by_cases kinds : listed node.kind <;> simp [own, placed, kinds, absent]
      · simp [own, placed, same, Ne.symm same, absent]
  · obtain ⟨kind, named, -, -⟩ := insert_keeps inside node added
    rw [kind, named]
    by_cases own : owner = outline.size
    · simp [own, earlier]
    · have other :
          (if owner = parent ∧ listed node.kind then [outline.size] else []).count id = 0 := by
        split <;> simp [Ne.symm added]
      simp [own, List.count_append, other, counted]

/-- Adding an object that brings no lists of its own keeps the tree. -/
theorem insert (valid : outline.WellFormed) {node : Node} (noChildren : node.children = #[])
    (noLines : node.lines = #[]) (inside : parent < outline.size) :
    (outline.insert node parent).2.WellFormed where
  root_present := by
    simp
  root_parent := by
    have older : root ≠ outline.size := Nat.ne_of_lt valid.root_present
    rw [(insert_keeps inside node older).2.1, valid.root_parent]
  parent_earlier id known notRoot := by
    rw [size_insert] at known
    by_cases added : id = outline.size
    · subst added
      exact ⟨parent, inside, by rw [node_insert_self inside]; rfl⟩
    · rw [(insert_keeps inside node added).2.1]
      exact valid.parent_earlier id (by omega) notRoot
  children_count := by
    apply count_insert (fun node => node.children.toList) (· ≠ .codeLine) inside node
    · simp [placed, noChildren]
    · rw [Node.adopt_children]
      by_cases row : node.kind = .codeLine <;> simp [row]
    · exact valid.children_count
    · intro owner named
      have earlier := valid.of_parent named
      omega
  lines_count := by
    apply count_insert (fun node => node.lines.toList) (· = .codeLine) inside node
    · simp [placed, noLines]
    · rw [Node.adopt_lines]
    · exact valid.lines_count
    · intro owner named
      have earlier := valid.of_parent named
      omega
  level id owner named := by
    by_cases added : id = outline.size
    · subst added
      rw [node_insert_self inside] at named ⊢
      have same : owner = parent := (Option.some.inj named).symm
      subst same
      have level := (insert_keeps inside node (Nat.ne_of_lt inside)).2.2.1
      rw [level]
      rfl
    · obtain ⟨kind, parents, level, -⟩ := insert_keeps inside node added
      rw [parents] at named
      obtain ⟨known, -, earlier⟩ := valid.of_parent named
      have older : owner ≠ outline.size := Nat.ne_of_lt (Nat.lt_trans earlier known)
      rw [kind, level, (insert_keeps inside node older).2.2.1]
      exact valid.level id owner named
  find offset := by
    have older : outline.objects.filter (fun id =>
        ((outline.insert node parent).2.node id).offset == offset) =
        outline.objects.filter fun id => (outline.node id).offset == offset := by
      apply List.filter_congr
      intro id member
      have known := (mem_objects.mp member).1
      rw [(insert_keeps inside node (Nat.ne_of_lt known)).2.2.2]
    have own : ((outline.insert node parent).2.node outline.size).offset = node.offset := by
      rw [node_insert_self inside]
      rfl
    rw [find?_insert, objects_insert inside, List.filter_append, older]
    by_cases row : node.kind = .codeLine
    · simp [row, valid.find]
    · by_cases same : node.offset = offset <;> simp [row, own, same, valid.find]

end WellFormed

/-! ### Objects changed in place -/

theorem Keeps.objects (kept : Keeps Node.skeleton before after) :
    after.objects = before.objects := by
  unfold Outline.objects
  rw [kept.ids]
  apply List.filter_congr
  intro id _
  rw [kept.kind]

/-- The tree is a matter of skeletons. -/
theorem WellFormed.of_keeps (valid : before.WellFormed) (kept : Keeps Node.skeleton before after) :
    after.WellFormed := by
  constructor
  case root_present => simpa only [kept.size] using valid.root_present
  case root_parent => simpa only [kept.parent] using valid.root_parent
  case parent_earlier => simpa only [kept.size, kept.parent] using valid.parent_earlier
  case children_count =>
    simpa only [kept.children, kept.parent, kept.kind] using valid.children_count
  case lines_count => simpa only [kept.lines, kept.parent, kept.kind] using valid.lines_count
  case level => simpa only [kept.level, kept.parent, kept.kind] using valid.level
  case find => simpa only [kept.find, kept.objects, kept.offset] using valid.find

/-! ### Everything sorted -/

/-- Sorting keeps the tree: lists are reordered, not changed. -/
theorem WellFormed.sort (valid : outline.WellFormed) (key : SortKey) :
    (outline.sort key).WellFormed := by
  have objects : (outline.sort key).objects = outline.objects := by
    simp [Outline.objects, Outline.ids, node_sort]
  constructor
  case root_present => simpa using valid.root_present
  case root_parent => simpa [node_sort] using valid.root_parent
  case parent_earlier => simpa [node_sort] using valid.parent_earlier
  case children_count =>
    intro owner id
    have sorted := List.mergeSort_perm (outline.node owner).children.toList (outline.ordered key)
    simpa [node_sort, sorted.count_eq] using valid.children_count owner id
  case lines_count => simpa [node_sort] using valid.lines_count
  case level => simpa [node_sort] using valid.level
  case find => simpa [node_sort, objects] using valid.find

end Outline

end DebugOutline
