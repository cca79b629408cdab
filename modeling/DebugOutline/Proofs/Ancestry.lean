import DebugOutline.Proofs.WellFormed

/-! What an object is nested in, and which objects a walk down the outline gets to. -/
namespace DebugOutline

namespace Outline

/-- An object and what it is nested in, from the inside out, without the input file. -/
def scopes (outline : Outline) (id : NodeId) : List NodeId :=
  (outline.ancestry id).filter (· != root)

/-- An object is visible if it and everything it is nested in are listed. -/
def isVisible (outline : Outline) (id : NodeId) : Bool := (outline.scopes id).all outline.isListed

/-- A walk from one object down to another over listed objects, in so many steps. It goes on only
below objects with a property. -/
inductive Leads (outline : Outline) (through : NodeId → Prop) : NodeId → NodeId → Nat → Prop where
  | here {id : NodeId} (inside : id < outline.size) : Leads outline through id id 0
  | down {id child below : NodeId} {steps : Nat} (allowed : through id)
      (named : (outline.node child).parent = some id) (listed : outline.isListed child = true)
      (rest : Leads outline through child below steps) :
      Leads outline through id below (steps + 1)

variable {outline : Outline} {id parent child other below steps more : Nat} {through : Nat → Prop}

namespace WellFormed

variable (valid : outline.WellFormed)
include valid

/-! ### Ancestry -/

theorem chain_congr {limit longer : Nat} (enough : id < limit) (plenty : id < longer) :
    outline.chain limit (some id) = outline.chain longer (some id) := by
  induction id using Nat.strong_induction_on generalizing limit longer with
  | _ id ih =>
    obtain ⟨limit, rfl⟩ := Nat.exists_eq_succ_of_ne_zero (Nat.ne_zero_of_lt enough)
    obtain ⟨longer, rfl⟩ := Nat.exists_eq_succ_of_ne_zero (Nat.ne_zero_of_lt plenty)
    rw [chain, chain]
    cases named : (outline.node id).parent with
    | none => cases limit <;> cases longer <;> rfl
    | some parent =>
      have earlier := (valid.of_parent named).2.2
      rw [ih parent earlier (Nat.lt_of_lt_of_le earlier (Nat.le_of_lt_succ enough))
        (Nat.lt_of_lt_of_le earlier (Nat.le_of_lt_succ plenty))]

theorem ancestry_of_none (outside : (outline.node id).parent = none) :
    outline.ancestry id = [id] := by
  unfold ancestry
  obtain ⟨limit, size⟩ := Nat.exists_eq_succ_of_ne_zero (Nat.ne_of_gt valid.root_present)
  rw [size, chain, outside]
  cases limit <;> rfl

theorem ancestry_of_parent (named : (outline.node id).parent = some parent) :
    outline.ancestry id = id :: outline.ancestry parent := by
  obtain ⟨inside, -, earlier⟩ := valid.of_parent named
  unfold ancestry
  obtain ⟨limit, size⟩ := Nat.exists_eq_succ_of_ne_zero (Nat.ne_zero_of_lt inside)
  have enough : parent < limit := by omega
  have plenty : parent < outline.size := by omega
  rw [← chain_congr valid enough plenty, size, chain, named]

theorem ancestry_eq_cons (id : Nat) : outline.ancestry id = id :: (outline.ancestry id).tail := by
  cases named : (outline.node id).parent with
  | none => simp [valid.ancestry_of_none named]
  | some parent => simp [valid.ancestry_of_parent named]

theorem mem_ancestry_self (id : Nat) : id ∈ outline.ancestry id := by
  rw [valid.ancestry_eq_cons]
  exact List.mem_cons_self

theorem mem_ancestry_le (member : other ∈ outline.ancestry id) : other ≤ id := by
  induction id using Nat.strong_induction_on with
  | _ id ih =>
    cases named : (outline.node id).parent with
    | none =>
      rw [valid.ancestry_of_none named] at member
      exact Nat.le_of_eq (List.mem_singleton.mp member)
    | some parent =>
      have earlier := (valid.of_parent named).2.2
      rw [valid.ancestry_of_parent named] at member
      rcases List.mem_cons.mp member with same | outer
      · exact Nat.le_of_eq same
      · exact Nat.le_trans (ih parent earlier outer) (Nat.le_of_lt earlier)

theorem ancestry_trans (outer : other ∈ outline.ancestry child)
    (inner : child ∈ outline.ancestry id) : other ∈ outline.ancestry id := by
  induction id using Nat.strong_induction_on with
  | _ id ih =>
    rw [valid.ancestry_eq_cons] at inner
    rcases List.mem_cons.mp inner with rfl | inner
    · exact outer
    cases named : (outline.node id).parent with
    | none => simp [valid.ancestry_of_none named] at inner
    | some parent =>
      rw [valid.ancestry_of_parent named] at inner ⊢
      exact List.mem_cons_of_mem _ (ih parent (valid.of_parent named).2.2 inner)

/-- Of two objects that a third is nested in, one is nested in the other. -/
theorem ancestry_linear (first : other ∈ outline.ancestry id)
    (second : child ∈ outline.ancestry id) :
    other ∈ outline.ancestry child ∨ child ∈ outline.ancestry other := by
  induction id using Nat.strong_induction_on with
  | _ id ih =>
    rw [valid.ancestry_eq_cons] at first second
    rcases List.mem_cons.mp first with rfl | first
    · exact .inr ((valid.ancestry_eq_cons other) ▸ second)
    rcases List.mem_cons.mp second with rfl | second
    · refine .inl ?_
      rw [valid.ancestry_eq_cons]
      exact List.mem_cons_of_mem _ first
    cases named : (outline.node id).parent with
    | none => simp [valid.ancestry_of_none named] at first
    | some parent =>
      rw [valid.ancestry_of_parent named] at first second
      exact ih parent (valid.of_parent named).2.2 first second

/-- No object is nested in two children of one object. -/
theorem sibling_unique (first : (outline.node child).parent = some parent)
    (second : (outline.node other).parent = some parent)
    (within : child ∈ outline.ancestry id) (also : other ∈ outline.ancestry id) :
    child = other := by
  have nested {a b : Nat} (named : (outline.node a).parent = some parent)
      (same : (outline.node b).parent = some parent) (member : b ∈ outline.ancestry a) : a = b := by
    rw [valid.ancestry_of_parent named] at member
    rcases List.mem_cons.mp member with same | outer
    · exact same.symm
    · have upper := valid.mem_ancestry_le outer
      have lower := (valid.of_parent same).2.2
      omega
  rcases valid.ancestry_linear within also with inner | outer
  · exact (nested second first inner).symm
  · exact nested first second outer

/-! ### Scopes -/

theorem scopes_root : outline.scopes root = [] := by
  simp [scopes, valid.ancestry_of_none valid.root_parent]

theorem scopes_of_parent (named : (outline.node id).parent = some parent) :
    outline.scopes id = id :: outline.scopes parent := by
  have notRoot := (valid.of_parent named).2.1
  simp [scopes, valid.ancestry_of_parent named, notRoot]

end WellFormed

/-! ### Walks down -/

namespace Leads

theorem inside (leads : outline.Leads through id below steps) : below < outline.size := by
  induction leads with
  | here inside => exact inside
  | down _ _ _ _ ih => exact ih

theorem snoc (leads : outline.Leads through id parent steps) (allowed : through parent)
    (named : (outline.node below).parent = some parent) (listed : outline.isListed below = true)
    (inside : below < outline.size) : outline.Leads through id below (steps + 1) := by
  induction leads with
  | here => exact .down allowed named listed (.here inside)
  | down first child shown _ ih => exact .down first child shown (ih allowed named)

theorem mem_ancestry (valid : outline.WellFormed) (leads : outline.Leads through id below steps) :
    id ∈ outline.ancestry below := by
  induction leads with
  | here => exact valid.mem_ancestry_self _
  | down _ named _ _ ih =>
    refine valid.ancestry_trans ?_ ih
    rw [valid.ancestry_of_parent named]
    exact List.mem_cons_of_mem _ (valid.mem_ancestry_self _)

/-- Each step goes one scope inwards. -/
theorem scopes (valid : outline.WellFormed) (leads : outline.Leads through id below steps) :
    (outline.isVisible id = true → outline.isVisible below = true) ∧
      (outline.scopes below).length = (outline.scopes id).length + steps ∧
      ((∀ outer ∈ (outline.ancestry id).tail, through outer) →
        ∀ outer ∈ (outline.ancestry below).tail, through outer) := by
  induction leads with
  | here => simp
  | down allowed named listed _ ih =>
    obtain ⟨visible, length, passed⟩ := ih
    rw [valid.scopes_of_parent named] at length
    refine ⟨?_, by simp at length; omega, ?_⟩
    · intro seen
      apply visible
      unfold isVisible at seen ⊢
      rw [valid.scopes_of_parent named, List.all_cons, listed, seen]
      rfl
    · intro before
      apply passed
      rw [valid.ancestry_of_parent named, List.tail_cons, valid.ancestry_eq_cons]
      exact List.forall_mem_cons.mpr ⟨allowed, before⟩

end Leads

/-- A walk from the file gets to the visible objects whose scopes it may go through, and needs as
many steps as there are scopes. -/
theorem WellFormed.leads_root_iff (valid : outline.WellFormed) :
    outline.Leads through root id steps ↔ id < outline.size ∧ outline.isVisible id = true ∧
      (∀ outer ∈ (outline.ancestry id).tail, through outer) ∧
      steps = (outline.scopes id).length := by
  constructor
  · intro leads
    obtain ⟨visible, length, passed⟩ := leads.scopes valid
    rw [valid.scopes_root] at length
    refine ⟨leads.inside, visible ?_, passed ?_, by simpa using length.symm⟩
    · simp [isVisible, valid.scopes_root]
    · simp [valid.ancestry_of_none valid.root_parent]
  · rintro ⟨inside, visible, passed, rfl⟩
    induction id using Nat.strong_induction_on with
    | _ id ih =>
      by_cases first : id = root
      · subst first
        rw [valid.scopes_root]
        exact .here inside
      · obtain ⟨parent, earlier, named⟩ := valid.parent_earlier id inside first
        rw [isVisible, valid.scopes_of_parent named, List.all_cons, Bool.and_eq_true] at visible
        rw [valid.ancestry_of_parent named, List.tail_cons, valid.ancestry_eq_cons,
          List.forall_mem_cons] at passed
        rw [valid.scopes_of_parent named]
        have above := ih parent earlier (Nat.lt_trans earlier inside) visible.2 passed.2
        exact above.snoc passed.1 named visible.1 inside

/-- From a visible object a walk gets to whatever is visible in it. -/
theorem WellFormed.exists_leads_iff (valid : outline.WellFormed)
    (visible : outline.isVisible id = true) :
    (∃ steps, outline.Leads (fun _ => True) id below steps) ↔
      below < outline.size ∧ outline.isWithin below id = true ∧ outline.isVisible below = true := by
  rw [isWithin, List.contains_iff_mem]
  constructor
  · rintro ⟨steps, leads⟩
    exact ⟨leads.inside, leads.mem_ancestry valid, (leads.scopes valid).1 visible⟩
  · rintro ⟨inside, within, seen⟩
    induction below using Nat.strong_induction_on with
    | _ below ih =>
      rw [valid.ancestry_eq_cons] at within
      rcases List.mem_cons.mp within with rfl | within
      · exact ⟨0, .here inside⟩
      cases named : (outline.node below).parent with
      | none => simp [valid.ancestry_of_none named] at within
      | some parent =>
        have earlier := (valid.of_parent named).2.2
        rw [valid.ancestry_of_parent named, List.tail_cons] at within
        rw [isVisible, valid.scopes_of_parent named, List.all_cons, Bool.and_eq_true] at seen
        obtain ⟨steps, leads⟩ := ih parent earlier (Nat.lt_trans earlier inside) within seen.2
        exact ⟨steps + 1, leads.snoc trivial named seen.1 inside⟩

end Outline

end DebugOutline
