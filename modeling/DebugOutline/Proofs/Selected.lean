import DebugOutline.Proofs.Context
import DebugOutline.Proofs.Tree

/-! Which objects are selected. The walk that selects is the walk over everything listed, less the
objects that are not shown; whether one is shown is a matter of the objects around it and in it. -/
namespace DebugOutline

namespace Outline

variable {outline : Outline} {options : Options} {filters : Filters} {id parent limit depth : Nat}

/-- A tree filter accepts an object or something around it. -/
def isWithinAccepted (outline : Outline) (filters : Filters) (id : NodeId) : Bool :=
  (outline.scopes id).any fun scope => filters.acceptsTree (outline.node scope).name

/-- A tree filter accepts something visible in an object. -/
def holdsAccepted (outline : Outline) (filters : Filters) (id : NodeId) : Bool :=
  outline.ids.any fun inner => inner != id && outline.isWithin inner id &&
    outline.isVisible inner && filters.acceptsTree (outline.node inner).name

/-- The rule of the selection. Without filters the options choose among visible objects. With
filters, everything accepted as a tree is selected with what is around it and in it, and of the
rest what is chosen and accepted by name. -/
def isSelected (outline : Outline) (options : Options) (id : NodeId) : Bool :=
  outline.isVisible id &&
    if options.filters.isActive then
      outline.isWithinAccepted options.filters id || outline.holdsAccepted options.filters id ||
        (outline.node id).isChosen options && options.filters.accepts (outline.node id).name
    else (outline.node id).isChosen options

/-! ### One object -/

/-- Whether the walk shows an object. `forced` says that a tree filter accepted something around. -/
def isShown (outline : Outline) (options : Options) (forced : Bool) (id : NodeId) : Bool :=
  let filters := options.filters
  let name := (outline.node id).name
  forced && outline.isForced options id ||
    filters.isActive && (outline.context filters).contains id ||
    filters.isActive && filters.acceptsTree name ||
    !forced && (outline.node id).isChosen options && (!filters.isActive || filters.accepts name)

/-- Whether a tree filter accepts something around an object. -/
def isForcedAt (outline : Outline) (options : Options) (id : NodeId) : Bool :=
  (outline.scopes id).tail.any fun scope => options.filters.acceptsTree (outline.node scope).name

theorem isWithinAccepted_eq_false : outline.isWithinAccepted filters id = false ↔
    ∀ outer ∈ outline.ancestry id, ¬ outline.Accepted filters outer := by
  simp [isWithinAccepted, scopes, Accepted]

section Valid

variable (valid : outline.WellFormed)
include valid

theorem isWithinAccepted_of_parent (filters : Filters)
    (named : (outline.node id).parent = some parent) : outline.isWithinAccepted filters id =
      (filters.acceptsTree (outline.node id).name || outline.isWithinAccepted filters parent) := by
  rw [isWithinAccepted, valid.scopes_of_parent named]
  rfl

theorem isWithinAccepted_of_context (filters : Filters)
    (member : (outline.context filters).contains id = true) :
    outline.isWithinAccepted filters id = false :=
  isWithinAccepted_eq_false.mpr ((contains_context valid id).mp member).2.1

/-- Something accepted is reached from a visible object if it is accepted or holds it. -/
theorem holds_iff (inside : id < outline.size) (notRoot : id ≠ root)
    (visible : outline.isVisible id = true) : outline.Holds filters id ↔
      filters.acceptsTree (outline.node id).name = true ∨
        outline.holdsAccepted filters id = true := by
  constructor
  · rintro ⟨target, steps, leads, -, accepted⟩
    by_cases same : target = id
    · exact .inl (same ▸ accepted)
    · obtain ⟨inside, within, seen⟩ := (valid.exists_leads_iff visible).mp ⟨steps, leads⟩
      refine .inr (List.any_eq_true.mpr ⟨target, mem_ids.mpr inside, ?_⟩)
      simp [same, within, seen, accepted]
  · rintro (accepted | holds)
    · exact ⟨id, 0, .here inside, notRoot, accepted⟩
    · obtain ⟨target, known, found⟩ := List.any_eq_true.mp holds
      simp only [Bool.and_eq_true] at found
      obtain ⟨⟨⟨apart, within⟩, seen⟩, accepted⟩ := found
      obtain ⟨steps, leads⟩ :=
        (valid.exists_leads_iff visible).mpr ⟨mem_ids.mp known, within, seen⟩
      refine ⟨target, steps, leads, ?_, accepted⟩
      rintro rfl
      exact notRoot (Nat.le_zero.mp (valid.mem_ancestry_le (leads.mem_ancestry valid)))

/-- The context of a visible object. -/
theorem contains_context_eq (inside : id < outline.size) (notRoot : id ≠ root)
    (visible : outline.isVisible id = true) : (outline.context filters).contains id =
      (!outline.isWithinAccepted filters id && outline.holdsAccepted filters id) := by
  rw [Bool.eq_iff_iff, contains_context valid, holds_iff valid inside notRoot visible,
    ← isWithinAccepted_eq_false, Bool.and_eq_true, Bool.not_eq_true']
  constructor
  · rintro ⟨-, outside, accepted | holds⟩
    · have passed := isWithinAccepted_eq_false.mp outside id (valid.mem_ancestry_self id)
      exact absurd ⟨notRoot, accepted⟩ passed
    · exact ⟨outside, holds⟩
  · rintro ⟨outside, holds⟩
    exact ⟨visible, outside, .inr holds⟩

/-- One step of the walk that selects. It shows an object by the rule, and passes on whether a tree
filter accepted the object or something around it. -/
theorem visit_succ (named : (outline.node id).parent = some parent) (limit depth : Nat) :
    outline.visit options (outline.context options.filters) (limit + 1) id depth
        (outline.isWithinAccepted options.filters parent) =
      (if outline.isShown options (outline.isForcedAt options id) id then [⟨id, depth⟩] else []) ++
        (outline.visited options id).flatMap fun child =>
          outline.visit options (outline.context options.filters) limit child (depth + 1)
            (outline.isWithinAccepted options.filters id) := by
  have around := isWithinAccepted_of_parent valid options.filters named
  have forcedHere : outline.isForcedAt options id =
      outline.isWithinAccepted options.filters parent := by
    rw [isForcedAt, valid.scopes_of_parent named]
    rfl
  rw [visit, forcedHere]
  set forced := outline.isWithinAccepted options.filters parent
  dsimp only
  by_cases inForced : (forced && outline.isForced options id) = true
  · have shown : outline.isShown options forced id = true := by simp [isShown, inForced]
    have further : outline.isWithinAccepted options.filters id = true := by
      simp [around, (Bool.and_eq_true_iff.mp inForced).1]
    rw [if_pos inForced, if_pos shown, further]
    rfl
  rw [if_neg inForced]
  by_cases inContext :
      (options.filters.isActive && (outline.context options.filters).contains id) = true
  · have shown : outline.isShown options forced id = true := by simp [isShown, inContext]
    have further := isWithinAccepted_of_context valid options.filters
      (Bool.and_eq_true_iff.mp inContext).2
    rw [if_pos inContext, if_pos shown, further]
    rfl
  rw [if_neg inContext]
  by_cases accepted :
      (options.filters.isActive && options.filters.acceptsTree (outline.node id).name) = true
  · have shown : outline.isShown options forced id = true := by simp [isShown, accepted]
    have further : outline.isWithinAccepted options.filters id = true := by
      simp [around, (Bool.and_eq_true_iff.mp accepted).2]
    rw [if_pos accepted, if_pos shown, further]
    rfl
  rw [if_neg accepted]
  -- A tree filter that accepts a name is active, so nothing changes for what is below.
  have further : outline.isWithinAccepted options.filters id = forced := by
    cases named : options.filters.acceptsTree (outline.node id).name with
    | false => simp [around, named, forced]
    | true => simp [named, Filters.isActive_of_acceptsTree named] at accepted
  have shown : outline.isShown options forced id =
      (!forced && (outline.node id).isChosen options &&
        (!options.filters.isActive || options.filters.accepts (outline.node id).name)) := by
    simp only [Bool.not_eq_true] at inForced inContext accepted
    simp [isShown, inForced, inContext, accepted]
  rw [further, shown]
  split <;> rfl

/-- The walk that selects is the walk over everything, less the objects that are not shown. -/
theorem visit_eq_filter (named : (outline.node id).parent = some parent)
    (enough : outline.size ≤ id + limit) (depth : Nat) :
    outline.visit options (outline.context options.filters) limit id depth
        (outline.isWithinAccepted options.filters parent) =
      (outline.walk options limit id depth).filter fun shown =>
        outline.isShown options (outline.isForcedAt options shown.id) shown.id := by
  induction limit generalizing id parent depth with
  | zero => rfl
  | succ limit ih =>
    rw [visit_succ valid named, walk, List.filter_cons, List.filter_flatMap]
    have below : ∀ child ∈ outline.visited options id,
        outline.visit options (outline.context options.filters) limit child (depth + 1)
          (outline.isWithinAccepted options.filters id) =
        (outline.walk options limit child (depth + 1)).filter fun shown =>
          outline.isShown options (outline.isForcedAt options shown.id) shown.id := by
      intro child member
      have under := (valid.mem_visited.mp member).1
      have younger := (valid.of_parent under).2.2
      exact ih under (by omega) (depth + 1)
    rw [List.flatMap_congr below]
    split <;> rfl

/-- The selection is the walk from the file, without the file and without what is not shown. -/
theorem select_eq_filter (options : Options) : outline.select options =
    (outline.walk options (outline.size + 1) root 0).tail.filter fun shown =>
      outline.isShown options (outline.isForcedAt options shown.id) shown.id := by
  have none : false = outline.isWithinAccepted options.filters root := by
    simp [isWithinAccepted, valid.scopes_root]
  unfold select selectFrom
  dsimp only
  rw [if_pos rfl, walk, List.tail_cons, List.filter_flatMap]
  apply List.flatMap_congr
  intro child member
  rw [none]
  exact visit_eq_filter valid (valid.mem_visited.mp member).1 (Nat.le_add_left _ _) 1

theorem mem_select {shown : Shown} : shown ∈ outline.select options ↔
    shown.id ≠ root ∧ shown.id < outline.size ∧ outline.isVisible shown.id = true ∧
      shown.depth = (outline.scopes shown.id).length ∧
      outline.isShown options (outline.isForcedAt options shown.id) shown.id = true := by
  have enough : outline.size ≤ root + (outline.size + 1) := by omega
  have all : shown ∈ outline.walk options (outline.size + 1) root 0 ↔ _ :=
    mem_walk valid options enough valid.root_present 0
  have distinct := walk_nodup valid options enough valid.root_present 0
  have first : outline.walk options (outline.size + 1) root 0 =
      ⟨root, 0⟩ :: (outline.walk options (outline.size + 1) root 0).tail := by
    rw [walk]
    rfl
  simp only [valid.leads_root_iff] at all
  rw [first, List.mem_cons] at all
  rw [first, List.map_cons, List.nodup_cons] at distinct
  rw [select_eq_filter valid options, List.mem_filter]
  constructor
  · rintro ⟨member, isShown⟩
    have notRoot : shown.id ≠ root := fun same =>
      distinct.1 (List.mem_map.mpr ⟨shown, member, same⟩)
    obtain ⟨steps, ⟨inside, visible, -, rfl⟩, deep⟩ := all.mp (.inr member)
    exact ⟨notRoot, inside, visible, by omega, isShown⟩
  · rintro ⟨notRoot, inside, visible, deep, isShown⟩
    refine ⟨?_, isShown⟩
    have member := all.mpr ⟨_, ⟨inside, visible, fun _ _ => trivial, rfl⟩, by omega⟩
    rcases member with rfl | member
    · exact absurd rfl notRoot
    · exact member

theorem select_nodup (options : Options) : ((outline.select options).map Shown.id).Nodup := by
  have enough : outline.size ≤ root + (outline.size + 1) := by omega
  have distinct := walk_nodup valid options enough valid.root_present 0
  rw [select_eq_filter valid options]
  exact distinct.sublist ((List.filter_sublist.trans (List.tail_sublist _)).map _)

/-- Of the visible objects, those are shown that the rule selects. -/
theorem isShown_eq_isSelected (inside : id < outline.size) (notRoot : id ≠ root)
    (notRow : (outline.node id).kind ≠ .codeLine) (visible : outline.isVisible id = true) :
    outline.isShown options (outline.isForcedAt options id) id = outline.isSelected options id := by
  obtain ⟨parent, -, named⟩ := valid.parent_earlier id inside notRoot
  have within := isWithinAccepted_of_parent valid options.filters named
  have forced : outline.isForcedAt options id =
      outline.isWithinAccepted options.filters parent := by
    rw [isForcedAt, valid.scopes_of_parent named]
    rfl
  have free : outline.isForced options id = true := by simp [isForced, notRow]
  rw [isShown, isSelected, contains_context_eq valid inside notRoot visible, forced, free, visible,
    within]
  cases active : options.filters.isActive with
  | false =>
    have none (name : String) : options.filters.acceptsTree name = false := by
      by_contra accepted
      simp [Filters.isActive_of_acceptsTree (Bool.not_eq_false _ ▸ accepted)] at active
    have outside : outline.isWithinAccepted options.filters parent = false := by
      simp [isWithinAccepted, none]
    simp [outside]
  | true =>
    cases outline.isWithinAccepted options.filters parent <;>
      cases options.filters.acceptsTree (outline.node id).name <;>
      cases outline.holdsAccepted options.filters id <;> simp

end Valid

private theorem filter_eq_singleton {all : List Shown} {shown : Shown}
    (distinct : (all.map Shown.id).Nodup) (member : shown ∈ all) :
    all.filter (fun other => other.id == shown.id) = [shown] := by
  induction all with
  | nil => cases member
  | cons first rest ih =>
    obtain ⟨fresh, later⟩ := List.nodup_cons.mp distinct
    rcases List.mem_cons.mp member with rfl | member
    · have none : rest.filter (fun other => other.id == shown.id) = [] := by
        rw [List.filter_eq_nil_iff]
        intro other listed same
        exact fresh (List.mem_map.mpr ⟨other, listed, beq_iff_eq.mp same⟩)
      simp [none]
    · have apart : first.id ≠ shown.id := fun same =>
        fresh (List.mem_map.mpr ⟨shown, member, same.symm⟩)
      simp [apart, ih later member]

/-- The selection lists what the rule selects, once and as deep as it is nested, and nothing else.
Line rows have a rule of their own. -/
theorem select_exact (grown : Grown outline) (options : Options) (inside : id < outline.size)
    (notRoot : id ≠ root) (notRow : (outline.node id).kind ≠ .codeLine) :
    (outline.select options).filter (fun shown => shown.id == id) =
      if outline.isSelected options id then [⟨id, (outline.scopes id).length⟩] else [] := by
  have valid := grown.wellFormed
  split
  · rename_i selected
    have visible := (Bool.and_eq_true_iff.mp selected).1
    rw [← isShown_eq_isSelected valid inside notRoot notRow visible] at selected
    have member : ⟨id, (outline.scopes id).length⟩ ∈ outline.select options :=
      (mem_select valid).mpr ⟨notRoot, inside, visible, rfl, selected⟩
    exact filter_eq_singleton (select_nodup valid options) member
  · rename_i left
    rw [List.filter_eq_nil_iff]
    intro shown member same
    obtain ⟨-, -, visible, -, isShown⟩ := (mem_select valid).mp member
    rw [beq_iff_eq.mp same] at visible isShown
    rw [isShown_eq_isSelected valid inside notRoot notRow visible] at isShown
    exact left isShown

/-- A unit with one variable in it, of which only the variable is accepted. -/
private def namedOutline : Outline :=
  (Outline.build "a.o" [{ entries := #[
    { offset := 11, tag := .compileUnit },
    { offset := 30, tag := .variableEntry, attributes := [⟨.name, .string, .string "x"⟩] }] }]
    "void").1

private def namedOptions : Options := { filters := { treeAny := ["x"] } }

theorem select_exact_context : Grown namedOutline ∧ 1 < namedOutline.size ∧ 1 ≠ root ∧
    (namedOutline.node 1).kind ≠ .codeLine ∧
    (namedOutline.select namedOptions).filter (fun shown => shown.id == 1) = [⟨1, 1⟩] := by
  have grown : Grown namedOutline := .build _ _ _
  have inside : 1 < namedOutline.size := by decide +kernel
  have notRow : (namedOutline.node 1).kind ≠ .codeLine := by decide +kernel
  refine ⟨grown, inside, by decide, notRow, ?_⟩
  rw [select_exact grown namedOptions inside (by decide) notRow]
  decide +kernel

end Outline

end DebugOutline
