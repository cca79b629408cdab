import DebugOutline.Proofs.Ancestry
import DebugOutline.Selection

/-! The walk over everything that is listed. It gets to each visible object once, whether or not
definitions are moved next to their declarations, since moving them only reorders siblings. -/
namespace DebugOutline

namespace Outline

variable {outline : Outline} {options : Options} {siblings placed : List Nat}
  {declared : Nat → List Nat} {id child below limit depth steps : Nat}

/-! ### Definitions next to their declarations -/

/-- Every sibling that was put down stays, none is put down twice, and nothing else is put down. -/
structure Extends (siblings before after : List NodeId) : Prop where
  keeps : before ⊆ after
  nodup : before.Nodup → after.Nodup
  inside : before ⊆ siblings → after ⊆ siblings

namespace Extends

variable {before middle after : List Nat}

theorem refl (siblings before : List Nat) : Extends siblings before before :=
  ⟨List.Subset.refl _, fun distinct => distinct, fun inside => inside⟩

theorem trans (first : Extends siblings before middle) (second : Extends siblings middle after) :
    Extends siblings before after where
  keeps _ member := second.keeps (first.keeps member)
  nodup distinct := second.nodup (first.nodup distinct)
  inside inner := second.inside (first.inside inner)

/-- A pass over siblings extends what each step extends. -/
theorem foldl {step : List Nat → Nat → List Nat}
    (grows : ∀ placed, ∀ id ∈ siblings, Extends siblings placed (step placed id))
    (ids : List Nat) (inside : ids ⊆ siblings) (before : List Nat) :
    Extends siblings before (ids.foldl step before) := by
  induction ids generalizing before with
  | nil => exact refl siblings before
  | cons id rest ih =>
    obtain ⟨member, inner⟩ := List.cons_subset.mp inside
    exact (grows before id member).trans (ih inner (step before id))

end Extends

theorem place_extends (closed : ∀ id, declared id ⊆ siblings) (depth : Nat) (placed : List Nat)
    (member : id ∈ siblings) : Extends siblings placed (place declared depth placed id) := by
  induction depth generalizing placed id with
  | zero => exact .refl siblings placed
  | succ depth ih =>
    unfold place
    split
    · exact .refl siblings placed
    · rename_i missing
      refine Extends.trans ?_ (.foldl (fun placed id member => ih placed member) _ (closed id) _)
      constructor
      · exact List.subset_append_left _ _
      · intro distinct
        refine List.Nodup.append distinct (List.nodup_singleton id) ?_
        simpa using missing
      · intro inside
        exact List.append_subset.mpr ⟨inside, by simpa using member⟩

theorem mem_place (closed : ∀ id, declared id ⊆ siblings) (depth : Nat) (placed : List Nat) :
    id ∈ place declared (depth + 1) placed id := by
  unfold place
  split
  · rename_i present
    simpa using present
  · have all := Extends.foldl
      (fun placed id member => place_extends closed depth placed member) _ (closed id)
      (placed ++ [id])
    exact all.keeps (by simp)

theorem foldl_place_extends (closed : ∀ id, declared id ⊆ siblings) (depth : Nat) (ids : List Nat)
    (inside : ids ⊆ siblings) (placed : List Nat) :
    Extends siblings placed (ids.foldl (place declared depth) placed) :=
  .foldl (fun placed _ member => place_extends closed depth placed member) ids inside placed

theorem subset_foldl_place (closed : ∀ id, declared id ⊆ siblings) (depth : Nat) (ids : List Nat)
    (inside : ids ⊆ siblings) (placed : List Nat) :
    ids ⊆ ids.foldl (place declared (depth + 1)) placed := by
  induction ids generalizing placed with
  | nil => exact List.nil_subset _
  | cons id rest ih =>
    have inner := (List.cons_subset.mp inside).2
    refine List.cons_subset.mpr ⟨?_, ih inner _⟩
    exact (foldl_place_extends closed (depth + 1) rest inner _).keeps
      (mem_place closed depth placed)

/-- Moving definitions loses no sibling and repeats none. -/
theorem combine_perm (outline : Outline) (distinct : siblings.Nodup) :
    (outline.combine siblings).Perm siblings := by
  unfold combine
  dsimp only
  split
  · exact .refl _
  · rename_i moved
    set declaring := siblings.map fun id => (id, outline.declaringSibling? siblings id) with pairs
    have taken (choose : NodeId × Option NodeId → Bool) :
        (declaring.filter choose).map (·.1) ⊆ siblings := by
      intro id member
      obtain ⟨pair, listed, rfl⟩ := List.mem_map.mp member
      obtain ⟨id, known, rfl⟩ := List.mem_map.mp (List.mem_filter.mp listed).1
      exact known
    obtain ⟨depth, length⟩ : ∃ depth, siblings.length = depth + 1 := by
      refine Nat.exists_eq_succ_of_ne_zero fun none => moved ?_
      simp [pairs, List.length_eq_zero_iff.mp none]
    have closed (sibling : Nat) := taken fun pair => pair.2 == some sibling
    have order := List.append_subset.mpr ⟨taken fun pair => pair.2.isNone, List.Subset.refl _⟩
    rw [length]
    have extended := foldl_place_extends closed (depth + 1) _ order []
    have complete := subset_foldl_place closed depth _ order []
    refine (List.perm_ext_iff_of_nodup (extended.nodup List.nodup_nil) distinct).mpr fun id => ?_
    exact ⟨fun member => extended.inside (List.nil_subset _) member,
      fun member => complete (List.mem_append_right _ member)⟩

/-! ### The objects below one -/

namespace WellFormed

variable (valid : outline.WellFormed)
include valid

theorem mem_below : child ∈ outline.below id ↔
    (outline.node child).parent = some id ∧ outline.isListed child = true := by
  have rows : (outline.node child).kind = .codeLine → outline.isListed child = true := by
    intro row
    simp [isListed, Node.isAuxiliary, row]
  simp only [below, children, List.mem_append, List.mem_filter, valid.mem_children, valid.mem_lines]
  by_cases row : (outline.node child).kind = .codeLine <;> simp [row, rows]

theorem below_nodup (id : Nat) : (outline.below id).Nodup := by
  refine ((valid.children_nodup id).filter _).append (valid.lines_nodup id) ?_
  intro child listed row
  exact (valid.mem_children.mp (List.mem_filter.mp listed).1).2 (valid.mem_lines.mp row).2

theorem visited_perm (options : Options) (id : Nat) :
    (outline.visited options id).Perm (outline.below id) := by
  unfold visited
  dsimp only
  apply List.Perm.append_right
  split
  · exact combine_perm outline ((valid.children_nodup id).filter _)
  · exact .refl _

theorem mem_visited : child ∈ outline.visited options id ↔
    (outline.node child).parent = some id ∧ outline.isListed child = true := by
  rw [(valid.visited_perm options id).mem_iff, valid.mem_below]

end WellFormed

/-! ### The walk -/

/-- Everything that is listed from `id` down, shown or not. -/
def walk (outline : Outline) (options : Options) : Nat → NodeId → Nat → List Shown
  | 0, _, _ => []
  | limit + 1, id, depth =>
    ⟨id, depth⟩ :: (outline.visited options id).flatMap fun child =>
      outline.walk options limit child (depth + 1)

section Walk

variable (valid : outline.WellFormed) (options : Options)
include valid

/-- Children are younger than their parents, so as many steps as there are younger objects reach
the end of every walk. -/
theorem mem_walk (enough : outline.size ≤ id + limit) (inside : id < outline.size) (depth : Nat)
    {shown : Shown} : shown ∈ outline.walk options limit id depth ↔
      ∃ steps, outline.Leads (fun _ => True) id shown.id steps ∧ shown.depth = depth + steps := by
  induction limit generalizing id depth with
  | zero => omega
  | succ limit ih =>
    have further {child : Nat} (named : (outline.node child).parent = some id) := by
      have known := valid.of_parent named
      exact ih (by omega) known.1 (depth + 1)
    rw [walk, List.mem_cons, List.mem_flatMap]
    constructor
    · rintro (rfl | ⟨child, visited, member⟩)
      · exact ⟨0, .here inside, rfl⟩
      · obtain ⟨named, listed⟩ := valid.mem_visited.mp visited
        obtain ⟨steps, leads, deep⟩ := (further named).mp member
        exact ⟨steps + 1, .down trivial named listed leads, by omega⟩
    · rintro ⟨steps, leads, deep⟩
      cases leads with
      | here => exact .inl (by cases shown; simpa using deep)
      | down _ named listed rest =>
        refine .inr ⟨_, valid.mem_visited.mpr ⟨named, listed⟩, (further named).mpr ?_⟩
        exact ⟨_, rest, by omega⟩

theorem walk_nodup (enough : outline.size ≤ id + limit) (inside : id < outline.size) (depth : Nat) :
    ((outline.walk options limit id depth).map Shown.id).Nodup := by
  induction limit generalizing id depth with
  | zero => exact List.nodup_nil
  | succ limit ih =>
    have under {child : Nat} (visited : child ∈ outline.visited options id) {shown : Nat}
        (member : shown ∈ (outline.walk options limit child (depth + 1)).map Shown.id) :
        child ∈ outline.ancestry shown := by
      have known := valid.of_parent (valid.mem_visited.mp visited).1
      obtain ⟨found, listed, rfl⟩ := List.mem_map.mp member
      obtain ⟨steps, leads, -⟩ := (mem_walk valid options (by omega) known.1 (depth + 1)).mp listed
      exact leads.mem_ancestry valid
    rw [walk, List.map_cons, List.map_flatMap, List.nodup_cons]
    constructor
    · intro again
      obtain ⟨child, visited, member⟩ := List.mem_flatMap.mp again
      have older : child ≤ id := valid.mem_ancestry_le (under visited member)
      have younger := (valid.of_parent (valid.mem_visited.mp visited).1).2.2
      exact absurd older (Nat.not_le_of_lt younger)
    · refine List.nodup_flatMap.mpr ⟨?_, ?_⟩
      · intro child visited
        have known := valid.of_parent (valid.mem_visited.mp visited).1
        exact ih (by omega) known.1 (depth + 1)
      · have distinct := (valid.visited_perm options id).nodup_iff.mpr (valid.below_nodup id)
        refine distinct.pairwise_of_forall_ne fun child visited other also apart => ?_
        intro shown member again
        exact apart (valid.sibling_unique (valid.mem_visited.mp visited).1
          (valid.mem_visited.mp also).1 (under visited member) (under also again))

end Walk

end Outline

end DebugOutline
