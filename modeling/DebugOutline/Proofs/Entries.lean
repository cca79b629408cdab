import DebugOutline.Proofs.Growth

/-! The entries of all units as one stream, which of them have objects, and what it means for an
object to stand for an entry. Placing an entry gives it an object and leaves older objects to stand
for theirs. -/
namespace DebugOutline

open Dwarf (Entry UnitRecord)

/-- An entry and the position of its unit. -/
structure Item where
  entry : Entry
  unit : Nat

namespace Item

def ofUnit (unit : UnitRecord) (position : Nat) : List Item :=
  unit.entries.toList.map fun entry => ⟨entry, position⟩

/-- The entries of all units, in order. -/
def ofUnits (units : List UnitRecord) : List Item :=
  units.zipIdx.flatMap fun indexed => ofUnit indexed.1 indexed.2

/-- No offset comes twice, and what an entry is nested in comes before it. -/
structure InOrder (items : List Item) : Prop where
  distinct : (items.map (·.entry.offset)).Nodup
  outerFirst : ∀ position (inside : position < items.length),
    items[position].entry.parent.all ((items.take position).map (·.entry.offset)).contains

/-- The entry at the offset that another gives as its parent. -/
def IsParent (items : List Item) (item outer : Item) : Prop :=
  outer ∈ items ∧ item.entry.parent = some outer.entry.offset

/-- Neither the entry nor anything it is nested in has a tag that stands for nothing. -/
def IsKept (items : List Item) (item : Item) : Prop :=
  ∀ outer, Relation.ReflTransGen (IsParent items) item outer →
    (Role.ofTag? outer.entry.tag).isSome

open scoped Classical in
/-- The entries of `part` that have objects. -/
noncomputable def kept (items part : List Item) : List Item :=
  part.filter fun item => IsKept items item

variable {items done rest : List Item} {item outer : Item}

theorem isKept_iff : IsKept items item ↔ (Role.ofTag? item.entry.tag).isSome ∧
    ∀ outer, IsParent items item outer → IsKept items outer := by
  constructor
  · intro kept
    exact ⟨kept item .refl, fun outer parent top path => kept top (.head parent path)⟩
  · rintro ⟨known, outside⟩ top path
    rcases path.cases_head with same | ⟨outer, parent, path⟩
    · exact same ▸ known
    · exact outside outer parent top path

theorem mem_kept : item ∈ kept items done ↔ item ∈ done ∧ IsKept items item := by
  simp [kept]

theorem kept_append_of (isKept : IsKept items item) :
    kept items (done ++ [item]) = kept items done ++ [item] := by
  simp [kept, isKept]

theorem kept_append_of_not (left : ¬ IsKept items item) :
    kept items (done ++ [item]) = kept items done := by
  simp [kept, left]

theorem InOrder.parent_before (ordered : InOrder items) (split : items = done ++ item :: rest)
    {offset : UInt64} (nested : item.entry.parent = some offset) :
    ∃ outer ∈ done, outer.entry.offset = offset := by
  subst split
  have earlier := ordered.outerFirst done.length (by simp)
  simpa [nested] using earlier

/-- Entries with the same offset are the same. -/
theorem InOrder.eq_of_offset (ordered : InOrder items) (first : item ∈ items)
    (second : outer ∈ items) (same : item.entry.offset = outer.entry.offset) : item = outer :=
  List.inj_on_of_nodup_map ordered.distinct first second same

end Item

namespace Outline

/-- A unit object that the unit at a position gave. -/
def isUnitOf (outline : Outline) (unit id : Nat) : Bool :=
  (outline.node id).kind == .compileUnit && (outline.node id).unit == unit

/-- The last unit object before `id` that the unit at a position gave. -/
def unitBefore? (outline : Outline) (unit id : Nat) : Option NodeId :=
  (outline.objects.filter fun other => other < id && outline.isUnitOf unit other).getLast?

/-- Whether the object `id` of an entry belongs under `owner`: the object of its parent entry or,
where it has none, the file for a unit and the unit before it for anything else. -/
def BelongsUnder (outline : Outline) (item : Item) (id owner : Nat) : Prop :=
  match item.entry.parent with
  | some offset => owner ∈ outline.objects ∧ (outline.node owner).offset = offset
  | none => owner =
      if item.entry.tag = .compileUnit then root else (outline.unitBefore? item.unit id).getD root

/-- An object that stands for an entry, in the place that the entry has among the others. -/
structure Represents (outline : Outline) (id : Nat) (item : Item) : Prop where
  offset : (outline.node id).offset = item.entry.offset
  tag : (outline.node id).tag = some item.entry.tag
  unit : (outline.node id).unit = item.unit
  isUnit : (outline.node id).kind = .compileUnit ↔ item.entry.tag = .compileUnit
  parent : ∃ owner, (outline.node id).parent = some owner ∧ outline.BelongsUnder item id owner

end Outline

namespace Draft

variable {unit : UnitRecord} {entry : Entry} {role : Role} {parent id unitIndex : Nat}
  {before after : Outline} {item : Item}

/-! ### One entry -/

section Step

variable (placed : Placed unit unitIndex entry role parent before after)
include placed

/-- Placing an entry adds one object; its rows do not count. -/
theorem Placed.objects (notRow : role.kind ≠ .codeLine) (inside : 0 < before.size) :
    after.objects = before.objects ++ [before.size] := by
  have older : before.ids.filter (fun id =>
      id != Outline.root && (after.node id).kind != .codeLine) = before.objects := by
    apply List.filter_congr
    intro id member
    rw [placed.read Node.kind (fun _ => rfl) (Outline.mem_ids.mp member)]
  have rows : (List.range' (before.size + 1) (ownRows unit role).length).filter
      (fun id => id != Outline.root && (after.node id).kind != .codeLine) = [] := by
    apply List.filter_eq_nil_iff.mpr
    intro id member
    obtain ⟨k, last, same⟩ := List.mem_range'.mp member
    obtain ⟨level, row⟩ := placed.row k last
    rw [Nat.one_mul] at same
    simp [same, row, Node.ofRow]
  have ids : after.ids = before.ids ++
      before.size :: List.range' (before.size + 1) (ownRows unit role).length := by
    rw [Outline.ids, Outline.ids, placed.size, List.range_eq_range', List.range_eq_range',
      Nat.add_assoc, ← List.range'_append_1, Nat.zero_add, Nat.add_comm 1, List.range'_succ]
  have notRoot : before.size ≠ Outline.root := Nat.ne_of_gt inside
  rw [Outline.objects, ids, List.filter_append, older, List.filter_cons, rows]
  simp [placed.kind_newest, notRow, notRoot]

theorem Placed.isUnitOf_older (known : id < before.size) (index : Nat) :
    after.isUnitOf index id = before.isUnitOf index id := by
  unfold Outline.isUnitOf
  rw [placed.read Node.kind (fun _ => rfl) known, placed.read Node.unit (fun _ => rfl) known]

theorem Placed.isUnitOf_newest (index : Nat) : after.isUnitOf index before.size =
    (role.kind == .compileUnit && unitIndex == index) := by
  obtain ⟨described, isOf, same⟩ := placed.newest
  have unit : (after.node before.size).unit = unitIndex := by
    rw [same]
    exact isOf.unit
  rw [Outline.isUnitOf, placed.kind_newest, unit]

/-- An object that was there before has the same unit before it. -/
theorem Placed.unitBefore?_older (notRow : role.kind ≠ .codeLine) (inside : 0 < before.size)
    (known : id ≤ before.size) (index : Nat) :
    after.unitBefore? index id = before.unitBefore? index id := by
  have later : ¬ before.size < id := Nat.not_lt.mpr known
  have older : before.objects.filter (fun other => other < id && after.isUnitOf index other) =
      before.objects.filter fun other => other < id && before.isUnitOf index other := by
    apply List.filter_congr
    intro other member
    rw [placed.isUnitOf_older (Outline.mem_objects.mp member).1]
  unfold Outline.unitBefore?
  rw [placed.objects notRow inside, List.filter_append, older]
  simp [later]

/-- After everything, the new object is the last unit if it is one. -/
theorem Placed.unitBefore?_size (notRow : role.kind ≠ .codeLine) (inside : 0 < before.size)
    (index : Nat) : after.unitBefore? index after.size =
      if role.kind = .compileUnit ∧ unitIndex = index then some before.size
      else before.unitBefore? index before.size := by
  have larger : before.size < after.size := by
    rw [placed.size]
    omega
  have older : before.objects.filter (fun other =>
      other < after.size && after.isUnitOf index other) =
      before.objects.filter fun other => other < before.size && before.isUnitOf index other := by
    apply List.filter_congr
    intro other member
    have present := (Outline.mem_objects.mp member).1
    rw [placed.isUnitOf_older present]
    simp [present, Nat.lt_trans present larger]
  unfold Outline.unitBefore?
  rw [placed.objects notRow inside, List.filter_append, older, List.filter_cons, List.filter_nil,
    placed.isUnitOf_newest]
  by_cases isUnit : role.kind = .compileUnit
  · by_cases own : unitIndex = index <;> simp [isUnit, own, larger]
  · simp [isUnit]

/-- Where an entry belongs does not depend on later objects. -/
theorem Placed.belongsUnder {owner : Nat} (notRow : role.kind ≠ .codeLine)
    (inside : 0 < before.size) (known : id ≤ before.size)
    (belongs : before.BelongsUnder item id owner) : after.BelongsUnder item id owner := by
  unfold Outline.BelongsUnder at belongs ⊢
  split at belongs
  · obtain ⟨member, same⟩ := belongs
    have present := (Outline.mem_objects.mp member).1
    refine ⟨?_, (placed.read Node.offset (fun _ => rfl) present).trans same⟩
    rw [placed.objects notRow inside]
    exact List.mem_append_left _ member
  · rw [placed.unitBefore?_older notRow inside known]
    exact belongs

/-- Objects stand for their entries as before. -/
theorem Placed.represents_older (notRow : role.kind ≠ .codeLine) (inside : 0 < before.size)
    (known : id < before.size) (stands : before.Represents id item) : after.Represents id item where
  offset := (placed.read Node.offset (fun _ => rfl) known).trans stands.offset
  tag := (placed.read Node.tag (fun _ => rfl) known).trans stands.tag
  unit := (placed.read Node.unit (fun _ => rfl) known).trans stands.unit
  isUnit := by
    rw [placed.read Node.kind (fun _ => rfl) known]
    exact stands.isUnit
  parent := by
    obtain ⟨owner, named, belongs⟩ := stands.parent
    exact ⟨owner, (placed.read Node.parent (fun _ => rfl) known).trans named,
      placed.belongsUnder notRow inside (Nat.le_of_lt known) belongs⟩

/-- The new object stands for the entry that was placed. -/
theorem Placed.represents_newest (notRow : role.kind ≠ .codeLine) (inside : 0 < before.size)
    (isUnit : role.kind = .compileUnit ↔ entry.tag = .compileUnit)
    (belongs : before.BelongsUnder ⟨entry, unitIndex⟩ before.size parent) :
    after.Represents before.size ⟨entry, unitIndex⟩ := by
  obtain ⟨described, isOf, same⟩ := placed.newest
  constructor
  case offset => rw [same]; exact isOf.offset
  case tag => rw [same]; exact isOf.tag
  case unit => rw [same]; exact isOf.unit
  case isUnit => rw [placed.kind_newest]; exact isUnit
  case parent =>
    exact ⟨parent, by rw [same]; rfl,
      placed.belongsUnder notRow inside (Nat.le_refl _) belongs⟩

end Step

end Draft

end DebugOutline
