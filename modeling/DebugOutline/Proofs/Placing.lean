import DebugOutline.Proofs.Links

/-! What placing one entry does: it is left out because of what it is nested in, left out for its
own tag, or added under its parent, with line rows if it is a unit. -/
namespace DebugOutline

open Dwarf (Entry LineRow Tag UnitRecord)

/-- An entry has an attribute with this offset for a value. -/
def Dwarf.Entry.Refers (entry : Entry) (offset : UInt64) : Prop :=
  ∃ item ∈ entry.attributes, item.value = .reference offset

/-- What an entry says of its object in some role: nothing is listed under it, nothing is linked,
and the offsets to be linked are its own references. -/
structure Node.IsOf (node : Node) (unitIndex : Nat) (entry : Entry) (role : Role) : Prop where
  kind : node.kind = role.kind
  offset : node.offset = entry.offset
  tag : node.tag = some entry.tag
  unit : node.unit = unitIndex
  children : node.children = #[]
  lines : node.lines = #[]
  typeId : node.typeId = none
  referenceId : node.referenceId = none
  refers : ∀ offset, node.typeOffset = some offset ∨ node.referenceOffset = some offset →
    entry.Refers offset

theorem Reading.refers_of_reference {entry : Entry} {name : Dwarf.Attr} {offset : UInt64}
    (found : (Reading.reference entry name).value = some offset) : entry.Refers offset := by
  unfold Reading.reference Reading.accepted at found
  split at found
  · cases found
  · rename_i item first
    split at found
    · rename_i target read
      cases found
      refine ⟨item, List.mem_of_find?_eq_some first, ?_⟩
      cases shape : item.value <;> simp_all [Dwarf.Value.reference?]
    · cases found

theorem Reading.refers_of_firstReference {entry : Entry} {names : List Dwarf.Attr} {offset : UInt64}
    (found : (Reading.firstReference entry names).value = some offset) : entry.Refers offset := by
  induction names with
  | nil => cases found
  | cons name rest ih =>
    rw [Reading.firstReference, Reading.value_bind] at found
    cases read : (Reading.reference entry name).value with
    | none => exact ih (by simpa [read] using found)
    | some target =>
      have same : target = offset := by simpa [read] using found
      exact refers_of_reference (same ▸ read)

theorem Reading.node_isOf (unit : UnitRecord) (unitIndex : Nat) (entry : Entry) (role : Role)
    (inAggregate : Bool) :
    (Reading.node unit unitIndex entry role inAggregate).value.IsOf unitIndex entry role := by
  unfold Reading.node
  simp only [Reading.value_bind]
  split <;> exact {
    kind := rfl
    offset := rfl
    tag := rfl
    unit := rfl
    children := rfl
    lines := rfl
    typeId := rfl
    referenceId := rfl
    refers := fun _ named => named.elim refers_of_firstReference refers_of_firstReference }

/-- No entry is a line row or the input file, and the unit tag alone makes a unit. -/
theorem Role.ofTag?_kind (known : Role.ofTag? tag = some role) :
    role.kind ≠ .codeLine ∧ role.kind ≠ .inputFile ∧
      (role.kind = .compileUnit ↔ tag = .compileUnit) := by
  unfold Role.ofTag? at known
  split at known <;> cases known <;> simp [Role.kind] <;> decide

/-- What adding further objects leaves of an object. -/
def Node.withoutChildren (node : Node) : Node := { node with children := #[], isTemplate := false }

namespace Draft

variable {outline : Outline} {unit : UnitRecord} {unitIndex : Nat} {entry : Entry}
  {currentUnit : Option NodeId} {draft : Draft} {role : Role} {id parent : Nat}

theorem roleUnder?_isSome (outline : Outline) (entry : Entry) (parent : NodeId) :
    (roleUnder? outline entry parent).isSome = (Role.ofTag? entry.tag).isSome := by
  unfold roleUnder?
  split
  · rename_i parameter
    split <;> simp [parameter]
  · rfl

theorem ofTag?_of_roleUnder? (unknown : roleUnder? outline entry parent = none) :
    Role.ofTag? entry.tag = none := by
  rw [← Option.isNone_iff_eq_none, ← Option.not_isSome, ← roleUnder?_isSome outline entry parent,
    unknown]
  rfl

theorem roleUnder?_kind (known : roleUnder? outline entry parent = some role) :
    role.kind ≠ .codeLine ∧ role.kind ≠ .inputFile ∧
      (role.kind = .compileUnit ↔ entry.tag = .compileUnit) := by
  unfold roleUnder? at known
  split at known
  · rename_i parameter
    obtain ⟨-, -, unitTag⟩ := Role.ofTag?_kind parameter
    split at known <;> cases known <;> simpa [Role.kind] using unitTag
  · exact Role.ofTag?_kind known

/-! ### Line rows -/

/-- The object of a row as it stands under its unit. -/
def rowUnder (outline : Outline) (unit : UnitRecord) (unitIndex owner : Nat) (row : LineRow) :
    Node :=
  outline.placed (.ofRow unit unitIndex row) owner

/-- Rows are added at the end, in order, and listed by their unit; nothing else changes. -/
structure RowsAdded (unit : UnitRecord) (unitIndex owner : Nat) (rows : List LineRow)
    (before after : Outline) : Prop where
  valid : after.WellFormed
  size : after.size = before.size + rows.length
  older : ∀ id < before.size, after.node id =
    if id = owner then
      { before.node id with
        lines := ((before.node id).lines.toList ++ List.range' before.size rows.length).toArray }
    else before.node id
  row : ∀ (k : Nat) (inside : k < rows.length),
    after.node (before.size + k) = rowUnder before unit unitIndex owner rows[k]

theorem rowsAdded_foldl (valid : outline.WellFormed) (inside : parent < outline.size)
    (rows : List LineRow) : RowsAdded unit unitIndex parent rows outline
      (rows.foldl (fun outline row => (outline.insert (.ofRow unit unitIndex row) parent).2)
        outline) := by
  induction rows generalizing outline with
  | nil => exact ⟨valid, rfl, by simp, by simp⟩
  | cons row rest ih =>
    have one := Outline.node_insert inside (.ofRow unit unitIndex row)
    have still : parent < (outline.insert (.ofRow unit unitIndex row) parent).2.size := by
      simp
      omega
    have grown : (outline.insert (.ofRow unit unitIndex row) parent).2.WellFormed :=
      valid.insert rfl rfl inside
    have more := ih grown still
    refine ⟨more.valid, ?_, ?_, ?_⟩
    · rw [List.foldl_cons, more.size]
      simp
      omega
    · intro id known
      have apart : id ≠ outline.size := Nat.ne_of_lt known
      rw [List.foldl_cons, more.older id (by simp; omega), one, if_neg apart]
      by_cases owner : id = parent
      · simp [owner, Node.adopt, Node.ofRow, List.range'_succ]
      · simp [owner]
    · intro k last
      rw [List.foldl_cons]
      cases k with
      | zero =>
        have apart : outline.size ≠ parent := Nat.ne_of_gt inside
        rw [Nat.add_zero, more.older _ (by simp), one]
        simp [apart, rowUnder]
      | succ k =>
        have next := more.row k (Nat.lt_of_succ_lt_succ last)
        have level := (Outline.insert_keeps inside (.ofRow unit unitIndex row)
          (Nat.ne_of_lt inside)).2.2.1
        simp only [Outline.size_insert] at next
        rw [show outline.size + (k + 1) = outline.size + 1 + k by omega, next]
        simp [rowUnder, Outline.placed, Outline.levelUnder, level]

/-! ### One entry -/

/-- The rows that come with an entry: those of its unit, if it is one. -/
def ownRows (unit : UnitRecord) (role : Role) : List LineRow :=
  if role.kind = .compileUnit then unit.rows.toList else []

/-- The outline with the object of an entry under `parent` and everything that comes with it. -/
def place (outline : Outline) (unit : UnitRecord) (unitIndex : Nat) (entry : Entry) (role : Role)
    (parent : Nat) : Outline :=
  let reading := Reading.node unit unitIndex entry role (outline.node parent).kind.isAggregate
  afterPlacing unit unitIndex role.kind outline.size parent
    (outline.insert reading.value parent).2

/-- The new object comes after the old ones, followed by its rows. Old objects keep everything but
the list of children, to which the new one is added, and the mark of templates. -/
structure Placed (unit : UnitRecord) (unitIndex : Nat) (entry : Entry) (role : Role) (parent : Nat)
    (before after : Outline) : Prop where
  valid : after.WellFormed
  size : after.size = before.size + 1 + (ownRows unit role).length
  older : ∀ id < before.size, (after.node id).withoutChildren = (before.node id).withoutChildren
  children : ∀ id < before.size, (after.node id).children.toList =
    (before.node id).children.toList ++ if id = parent then [before.size] else []
  newest : ∃ described : Node, described.IsOf unitIndex entry role ∧
    after.node before.size = { before.placed described parent with
      lines := (List.range' (before.size + 1) (ownRows unit role).length).toArray }
  row : ∀ (k : Nat) (inside : k < (ownRows unit role).length), ∃ level,
    after.node (before.size + 1 + k) =
      { Node.ofRow unit unitIndex (ownRows unit role)[k] with
        parent := some before.size, level := level }

private theorem placed_insert (valid : outline.WellFormed) (inside : parent < outline.size)
    {node : Node} (isOf : node.IsOf unitIndex entry role) (notRow : role.kind ≠ .codeLine)
    (noRows : ownRows unit role = []) :
    Placed unit unitIndex entry role parent outline (outline.insert node parent).2 := by
  have notRow : node.kind ≠ .codeLine := isOf.kind ▸ notRow
  have one := Outline.node_insert inside node
  refine ⟨valid.insert isOf.children isOf.lines inside, by simp [noRows], ?_, ?_, ?_,
    by simp [noRows]⟩
  · intro id known
    rw [one, if_neg (Nat.ne_of_lt known)]
    split <;> simp [Node.adopt, notRow, Node.withoutChildren]
  · intro id known
    rw [one, if_neg (Nat.ne_of_lt known)]
    split <;> simp [Node.adopt_children, notRow]
  · refine ⟨node, isOf, ?_⟩
    rw [Outline.node_insert_self inside, noRows]
    simp [Outline.placed, isOf.lines]

private theorem Placed.mark {before middle : Outline}
    (placed : Placed unit unitIndex entry role parent before middle)
    (noRows : ownRows unit role = []) (inside : parent < before.size) :
    Placed unit unitIndex entry role parent before (markTemplate middle parent) := by
  unfold markTemplate
  split
  · have one := Outline.node_modify middle parent
    refine ⟨placed.valid.of_keeps (.modify _ _ rfl), by simp [placed.size], ?_, ?_, ?_,
      by simp [noRows]⟩
    · intro id known
      rw [one, ← placed.older id known]
      split <;> rfl
    · intro id known
      rw [one, ← placed.children id known]
      split <;> rfl
    · rw [one, if_neg fun changed => Nat.ne_of_gt inside changed.1]
      exact placed.newest
  · exact placed

private theorem Placed.rows {before after : Outline} (inside : parent < before.size) {node : Node}
    (isOf : node.IsOf unitIndex entry role) (isUnit : role.kind = .compileUnit)
    (added : RowsAdded unit unitIndex before.size unit.rows.toList (before.insert node parent).2
      after) : Placed unit unitIndex entry role parent before after := by
  have own : ownRows unit role = unit.rows.toList := if_pos isUnit
  have notRow : node.kind ≠ .codeLine := by simp [isOf.kind, isUnit]
  have one := Outline.node_insert inside node
  refine ⟨added.valid, by simp [added.size, own], ?_, ?_, ?_, ?_⟩
  · intro id known
    have apart : id ≠ before.size := Nat.ne_of_lt known
    rw [added.older id (by simp; omega), if_neg apart, one, if_neg apart]
    split <;> simp [Node.adopt, notRow, Node.withoutChildren]
  · intro id known
    have apart : id ≠ before.size := Nat.ne_of_lt known
    rw [added.older id (by simp; omega), if_neg apart, one, if_neg apart]
    split <;> simp [Node.adopt_children, notRow]
  · refine ⟨node, isOf, ?_⟩
    rw [added.older before.size (by simp), if_pos rfl, Outline.node_insert_self inside, own]
    simp [Outline.placed, isOf.lines]
  · intro k last
    have row := added.row k (own ▸ last)
    rw [Outline.size_insert] at row
    simp only [own, row, rowUnder, Outline.placed]
    exact ⟨_, rfl⟩

theorem placed_place (unit : UnitRecord) (unitIndex : Nat) (entry : Entry)
    (valid : outline.WellFormed) (inside : parent < outline.size) (notRow : role.kind ≠ .codeLine) :
    Placed unit unitIndex entry role parent outline
      (place outline unit unitIndex entry role parent) := by
  unfold place
  dsimp only
  have isOf := Reading.node_isOf unit unitIndex entry role (outline.node parent).kind.isAggregate
  generalize (Reading.node unit unitIndex entry role
    (outline.node parent).kind.isAggregate).value = node at isOf
  by_cases isUnit : role.kind = .compileUnit
  · have grown := valid.insert isOf.children isOf.lines inside
    have present : outline.size < (outline.insert node parent).2.size := by simp
    rw [isUnit]
    apply Placed.rows inside isOf isUnit
    simp only [afterPlacing, addRows, ← Array.foldl_toList]
    exact rowsAdded_foldl grown present unit.rows.toList
  · have noRows : ownRows unit role = [] := if_neg isUnit
    have inserted := placed_insert valid inside isOf notRow noRows
    unfold afterPlacing
    split
    · contradiction
    · exact inserted.mark noRows inside
    · exact inserted

namespace Placed

variable {before after : Outline}

/-- A field that does not depend on later objects stays as it was. -/
theorem read (placed : Placed unit unitIndex entry role parent before after) (field : Node → α)
    (seen : ∀ node : Node, field node.withoutChildren = field node) (known : id < before.size) :
    field (after.node id) = field (before.node id) := by
  rw [← seen, ← seen (before.node id), placed.older id known]

theorem kind_newest (placed : Placed unit unitIndex entry role parent before after) :
    (after.node before.size).kind = role.kind := by
  obtain ⟨described, isOf, same⟩ := placed.newest
  rw [same]
  exact isOf.kind

/-- An object is an old one, the new one, one of its rows, or none at all. -/
theorem cases (placed : Placed unit unitIndex entry role parent before after) (id : Nat) :
    id < before.size ∨ id = before.size ∨
      (∃ row ∈ ownRows unit role, ∃ level, after.node id =
        { Node.ofRow unit unitIndex row with parent := some before.size, level := level }) ∨
      after.node id = default := by
  by_cases old : id < before.size
  · exact .inl old
  · by_cases new : id = before.size
    · exact .inr (.inl new)
    · obtain ⟨k, same⟩ : ∃ k, id = before.size + 1 + k := Nat.exists_eq_add_of_le (by omega)
      by_cases last : k < (ownRows unit role).length
      · obtain ⟨level, row⟩ := placed.row k last
        exact .inr (.inr (.inl ⟨_, List.getElem_mem last, level, same ▸ row⟩))
      · have outside : after.size ≤ id := by rw [placed.size]; omega
        exact .inr (.inr (.inr (Outline.node_of_size_le outside)))

end Placed

/-! ### The three cases -/

theorem addEntry_nested (nested : entry.parent.any draft.dropped.contains = true) :
    addEntry unit unitIndex (draft, currentUnit) entry = (draft.drop entry, currentUnit) := by
  simp [addEntry, nested]

theorem addEntry_unknown (outside : entry.parent.any draft.dropped.contains = false)
    (unknown : Role.ofTag? entry.tag = none) :
    addEntry unit unitIndex (draft, currentUnit) entry =
      ((draft.warn [.unknownTag entry.tag]).drop entry, currentUnit) := by
  have none : roleUnder? draft.outline entry (parentOf draft.outline entry currentUnit) = none := by
    rw [← Option.isNone_iff_eq_none, ← Option.not_isSome, roleUnder?_isSome, unknown]
    rfl
  simp [addEntry, outside, none]

/-- An entry with a part to play is placed; a unit becomes the current one. -/
theorem addEntry_known (unit : UnitRecord) (unitIndex : Nat)
    (outside : entry.parent.any draft.dropped.contains = false)
    (found : parentOf draft.outline entry currentUnit = parent)
    (known : roleUnder? draft.outline entry parent = some role) :
    addEntry unit unitIndex (draft, currentUnit) entry =
      (⟨place draft.outline unit unitIndex entry role parent,
          (draft.warn (Reading.node unit unitIndex entry role
            (draft.outline.node parent).kind.isAggregate).warnings).warnings,
          draft.dropped⟩,
        if role.kind = .compileUnit then some draft.outline.size else currentUnit) := by
  subst found
  simp [addEntry, outside, known, place, warn]

theorem parentOf_lt_size (valid : outline.WellFormed)
    (current : ∀ id ∈ currentUnit, id < outline.size) (entry : Entry) :
    parentOf outline entry currentUnit < outline.size := by
  unfold parentOf
  cases found : entry.parent.bind outline.find? with
  | some id =>
    obtain ⟨offset, -, hit⟩ := Option.bind_eq_some_iff.mp found
    exact valid.find_lt_size hit
  | none =>
    rw [Option.getD_none]
    unfold fallbackParent
    split
    · exact valid.root_present
    · cases currentUnit with
      | none => exact valid.root_present
      | some id => exact current id rfl

/-- What becomes of the outline, of what was left out and of the current unit when an entry is
added. -/
theorem addEntry_cases (unit : UnitRecord) (unitIndex : Nat) (entry : Entry)
    (valid : draft.outline.WellFormed) (current : ∀ id ∈ currentUnit, id < draft.outline.size) :
    (entry.parent.any draft.dropped.contains = true ∧
      addEntry unit unitIndex (draft, currentUnit) entry = (draft.drop entry, currentUnit)) ∨
    (entry.parent.any draft.dropped.contains = false ∧ Role.ofTag? entry.tag = none ∧
      addEntry unit unitIndex (draft, currentUnit) entry =
        ((draft.warn [.unknownTag entry.tag]).drop entry, currentUnit)) ∨
    (entry.parent.any draft.dropped.contains = false ∧ (Role.ofTag? entry.tag).isSome ∧
      ∃ role : Role, role.kind ≠ .codeLine ∧ (role.kind = .compileUnit ↔ entry.tag = .compileUnit) ∧
      ∃ next warnings, addEntry unit unitIndex (draft, currentUnit) entry =
        (⟨next, warnings, draft.dropped⟩,
          if entry.tag = .compileUnit then some draft.outline.size else currentUnit) ∧
      Placed unit unitIndex entry role (parentOf draft.outline entry currentUnit) draft.outline
        next) := by
  cases nested : entry.parent.any draft.dropped.contains with
  | true => exact .inl ⟨rfl, addEntry_nested nested⟩
  | false =>
    cases known : roleUnder? draft.outline entry (parentOf draft.outline entry currentUnit) with
    | none =>
      have unknown := ofTag?_of_roleUnder? known
      exact .inr (.inl ⟨rfl, unknown, addEntry_unknown nested unknown⟩)
    | some role =>
      obtain ⟨notRow, -, isUnit⟩ := roleUnder?_kind known
      have tagged : (Role.ofTag? entry.tag).isSome := by
        rw [← roleUnder?_isSome, known]
        rfl
      have placed := placed_place unit unitIndex entry valid
        (parentOf_lt_size valid current entry) notRow
      have added := addEntry_known unit unitIndex nested rfl known
      simp only [isUnit] at added
      exact .inr (.inr ⟨rfl, tagged, role, notRow, isUnit, _, _, added, placed⟩)

end Draft

end DebugOutline
