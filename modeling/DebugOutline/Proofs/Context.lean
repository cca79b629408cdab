import DebugOutline.Proofs.Walk

/-! The context of tree filters: what is visible, holds something that a tree filter accepts, and is
neither accepted itself nor nested in anything accepted. -/
namespace DebugOutline

namespace Filters

variable {filters : Filters} {name : String}

theorem hasTree_of_acceptsTree (accepted : filters.acceptsTree name = true) :
    filters.hasTree = true := by
  by_contra none
  simp [hasTree] at none
  simp [acceptsTree, none] at accepted

theorem isActive_of_acceptsTree (accepted : filters.acceptsTree name = true) :
    filters.isActive = true := by
  simp [isActive, hasTree_of_acceptsTree accepted]

end Filters

namespace Outline

variable {outline : Outline} {filters : Filters} {id other child limit : Nat}

/-- A tree filter accepts the name of an object. The input file does not count. -/
def Accepted (outline : Outline) (filters : Filters) (id : NodeId) : Prop :=
  id ≠ root ∧ filters.acceptsTree (outline.node id).name = true

/-- Something accepted is reached from an object. -/
def Holds (outline : Outline) (filters : Filters) (id : NodeId) : Prop :=
  ∃ target steps, outline.Leads (fun _ => True) id target steps ∧ outline.Accepted filters target

/-! ### One step down -/

theorem contextBelow_of_accepted (accepted : outline.Accepted filters id) :
    outline.contextBelow filters (limit + 1) id = (true, []) := by
  rw [contextBelow]
  exact if_pos accepted

private theorem contextBelow_of_passed (passed : ¬ outline.Accepted filters id) :
    outline.contextBelow filters (limit + 1) id =
      let answers := (outline.below id).map (outline.contextBelow filters limit)
      (answers.any (·.1),
        if answers.any (·.1) then id :: answers.flatMap (·.2) else answers.flatMap (·.2)) := by
  rw [contextBelow]
  exact if_neg passed

theorem contextBelow_fst (passed : ¬ outline.Accepted filters id) :
    (outline.contextBelow filters (limit + 1) id).1 = true ↔
      ∃ child ∈ outline.below id, (outline.contextBelow filters limit child).1 = true := by
  simp [contextBelow_of_passed passed]

theorem mem_contextBelow_snd (passed : ¬ outline.Accepted filters id) :
    other ∈ (outline.contextBelow filters (limit + 1) id).2 ↔
      (other = id ∧ (outline.contextBelow filters (limit + 1) id).1 = true) ∨
        ∃ child ∈ outline.below id, other ∈ (outline.contextBelow filters limit child).2 := by
  rw [contextBelow_of_passed passed]
  dsimp only
  split <;> simp_all

/-! ### All steps -/

section Steps

variable (valid : outline.WellFormed)
include valid

theorem contextBelow_holds (enough : outline.size ≤ id + limit) (inside : id < outline.size) :
    (outline.contextBelow filters limit id).1 = true ↔ outline.Holds filters id := by
  induction limit generalizing id with
  | zero => omega
  | succ limit ih =>
    by_cases accepted : outline.Accepted filters id
    · rw [contextBelow_of_accepted accepted]
      exact ⟨fun _ => ⟨id, 0, .here inside, accepted⟩, fun _ => rfl⟩
    rw [contextBelow_fst accepted]
    constructor
    · rintro ⟨child, listed, found⟩
      obtain ⟨named, shown⟩ := valid.mem_below.mp listed
      have known := valid.of_parent named
      obtain ⟨target, steps, leads, accepts⟩ := (ih (by omega) known.1).mp found
      exact ⟨target, steps + 1, .down trivial named shown leads, accepts⟩
    · rintro ⟨target, steps, leads, accepts⟩
      cases leads with
      | here => exact absurd accepts accepted
      | down _ named shown rest =>
        have known := valid.of_parent named
        refine ⟨_, valid.mem_below.mpr ⟨named, shown⟩, (ih (by omega) known.1).mpr ?_⟩
        exact ⟨target, _, rest, accepts⟩

theorem mem_contextBelow (enough : outline.size ≤ id + limit) (inside : id < outline.size) :
    other ∈ (outline.contextBelow filters limit id).2 ↔
      (∃ steps, outline.Leads (fun id => ¬ outline.Accepted filters id) id other steps) ∧
        ¬ outline.Accepted filters other ∧ outline.Holds filters other := by
  induction limit generalizing id with
  | zero => omega
  | succ limit ih =>
    by_cases accepted : outline.Accepted filters id
    · rw [contextBelow_of_accepted accepted]
      constructor
      · intro none
        cases none
      · rintro ⟨⟨steps, leads⟩, passed, -⟩
        cases leads with
        | here => exact absurd accepted passed
        | down passed => exact absurd accepted passed
    rw [mem_contextBelow_snd accepted, contextBelow_holds valid enough inside]
    constructor
    · rintro (⟨rfl, holds⟩ | ⟨child, listed, member⟩)
      · exact ⟨⟨0, .here inside⟩, accepted, holds⟩
      · obtain ⟨named, shown⟩ := valid.mem_below.mp listed
        have known := valid.of_parent named
        obtain ⟨⟨steps, leads⟩, rest⟩ := (ih (by omega) known.1).mp member
        exact ⟨⟨steps + 1, .down accepted named shown leads⟩, rest⟩
    · rintro ⟨⟨steps, leads⟩, rest⟩
      cases leads with
      | here => exact .inl ⟨rfl, rest.2⟩
      | down _ named shown leads =>
        have known := valid.of_parent named
        exact .inr ⟨_, valid.mem_below.mpr ⟨named, shown⟩,
          (ih (by omega) known.1).mpr ⟨⟨_, leads⟩, rest⟩⟩

end Steps

/-- The context is made of the visible objects that hold something accepted, as long as nothing
around them, nor they themselves, are accepted. -/
theorem contains_context (valid : outline.WellFormed) (id : Nat) :
    (outline.context filters).contains id = true ↔ outline.isVisible id = true ∧
      (∀ outer ∈ outline.ancestry id, ¬ outline.Accepted filters outer) ∧
      outline.Holds filters id := by
  have enough : outline.size ≤ root + outline.size := Nat.le_add_left _ _
  have reached : id ∈ (outline.contextBelow filters outline.size root).2 ↔ _ :=
    mem_contextBelow valid enough valid.root_present
  simp only [valid.leads_root_iff] at reached
  unfold context
  split
  · rw [Std.HashSet.contains_ofList, List.contains_iff_mem, reached, valid.ancestry_eq_cons id,
      List.forall_mem_cons, List.tail_cons]
    constructor
    · rintro ⟨⟨_, _, visible, outside, _⟩, passed, holds⟩
      exact ⟨visible, ⟨passed, outside⟩, holds⟩
    · rintro ⟨visible, ⟨passed, outside⟩, target, steps, leads, accepted⟩
      have within := valid.mem_ancestry_le (leads.mem_ancestry valid)
      have inside := Nat.lt_of_le_of_lt within leads.inside
      exact ⟨⟨_, inside, visible, outside, rfl⟩, passed, target, steps, leads, accepted⟩
  · rename_i none
    constructor
    · intro member
      simp at member
    · rintro ⟨-, -, target, steps, -, accepted⟩
      exact absurd (Filters.hasTree_of_acceptsTree accepted.2) none

end Outline

end DebugOutline
