import DebugOutline.Proofs.Tree

/-! Where the offsets of the entries are distinct and every entry comes after its parent, the tree
of objects is the tree of entries, less what is nested in an entry that stands for nothing. -/
namespace DebugOutline

open Dwarf (Entry UnitRecord)

namespace Draft

open Item (IsKept kept)

variable {unit : UnitRecord} {entry : Entry} {role : Role} {parent id unitIndex : Nat}
  {after : Outline} {items done rest : List Item} {item : Item}

/-! ### The entries so far -/

variable {draft : Draft} {state : Draft × Option NodeId} {currentUnit : Option NodeId}

/-- The objects stand for the entries that are kept so far, and the others are known by offset. -/
structure Mirrors (items done : List Item) (draft : Draft) : Prop where
  objects : List.Forall₂ draft.outline.Represents draft.outline.objects (kept items done)
  dropped : ∀ offset, draft.dropped.contains offset = true ↔
    ∃ item ∈ done, item.entry.offset = offset ∧ ¬ IsKept items item

/-- The current unit is the last unit object that the unit at hand gave. -/
def CurrentLast (unitIndex : Nat) (state : Draft × Option NodeId) : Prop :=
  state.2 = state.1.outline.unitBefore? unitIndex state.1.outline.size

theorem CurrentLast.inside (current : CurrentLast unitIndex state) : CurrentInside state := by
  intro id member
  rw [current] at member
  have listed := List.mem_of_getLast? member
  exact (Outline.mem_objects.mp (List.mem_filter.mp listed).1).1

namespace Mirrors

private theorem exists_related {relation : α → β → Prop} {left : List α} {right : List β} {b : β}
    (related : List.Forall₂ relation left right) (member : b ∈ right) :
    ∃ a ∈ left, relation a b := by
  induction related with
  | nil => cases member
  | cons first _ ih =>
    rcases List.mem_cons.mp member with rfl | later
    · exact ⟨_, List.mem_cons_self, first⟩
    · obtain ⟨a, listed, same⟩ := ih later
      exact ⟨a, List.mem_cons_of_mem _ listed, same⟩

theorem exists_object (mirrors : Mirrors items done draft) (member : item ∈ kept items done) :
    ∃ id ∈ draft.outline.objects, draft.outline.Represents id item :=
  exists_related mirrors.objects member

theorem exists_item (mirrors : Mirrors items done draft) (listed : id ∈ draft.outline.objects) :
    ∃ item ∈ kept items done, draft.outline.Represents id item :=
  exists_related mirrors.objects.flip listed

section Entry

variable (mirrors : Mirrors items done draft) (ordered : Item.InOrder items)
  (split : items = done ++ item :: rest)
include mirrors ordered split

/-- Entries that are nested in one that was left out are those with a parent that is not kept. -/
theorem nested_iff : item.entry.parent.any draft.dropped.contains = true ↔
    ∃ outer, Item.IsParent items item outer ∧ ¬ IsKept items outer := by
  rw [Option.any_eq_true]
  constructor
  · rintro ⟨offset, nested, out⟩
    obtain ⟨outer, before, same, left⟩ := (mirrors.dropped offset).mp out
    have member : outer ∈ items := by
      rw [split]
      exact List.mem_append_left _ before
    exact ⟨outer, ⟨member, same ▸ nested⟩, left⟩
  · rintro ⟨outer, ⟨member, nested⟩, left⟩
    obtain ⟨earlier, before, same⟩ := ordered.parent_before split nested
    have present : earlier ∈ items := by
      rw [split]
      exact List.mem_append_left _ before
    have identical := ordered.eq_of_offset present member same
    exact ⟨_, nested, (mirrors.dropped _).mpr ⟨outer, identical ▸ before, rfl, left⟩⟩

/-- What an entry goes under is where it belongs, unless it is nested in one that was left out. -/
theorem belongs_parentOf (valid : draft.outline.WellFormed)
    (outside : ¬ item.entry.parent.any draft.dropped.contains = true)
    (current : currentUnit = draft.outline.unitBefore? item.unit draft.outline.size) :
    draft.outline.BelongsUnder item draft.outline.size
      (parentOf draft.outline item.entry currentUnit) := by
  unfold Outline.BelongsUnder parentOf
  cases nested : item.entry.parent with
  | none => simp [fallbackParent, current]
  | some offset =>
    obtain ⟨outer, before, same⟩ := ordered.parent_before split nested
    have isKept : IsKept items outer := by
      by_contra left
      have out := (mirrors.dropped offset).mpr ⟨outer, before, same, left⟩
      simp [nested, out] at outside
    obtain ⟨id, listed, stands⟩ := mirrors.exists_object (Item.mem_kept.mpr ⟨before, isKept⟩)
    have hit : id ∈ draft.outline.objects.filter fun other =>
        (draft.outline.node other).offset == offset := by
      simp [listed, stands.offset, same]
    cases found : draft.outline.find? offset with
    | none =>
      rw [valid.find, List.getLast?_eq_none_iff] at found
      simp [found] at hit
    | some owner => simpa [found] using valid.find_sound found

end Entry

/-- An entry that is left out is known by its offset from then on. -/
theorem drop (mirrors : Mirrors items done draft) (left : ¬ IsKept items item)
    (warnings : Warnings) :
    Mirrors items (done ++ [item])
      ⟨draft.outline, warnings, draft.dropped.insert item.entry.offset⟩ where
  objects := by
    rw [Item.kept_append_of_not left]
    exact mirrors.objects
  dropped offset := by
    simp only [Std.HashSet.contains_insert, Bool.or_eq_true, beq_iff_eq, mirrors.dropped,
      List.mem_append, List.mem_singleton]
    constructor
    · rintro (same | ⟨other, before, same, out⟩)
      · exact ⟨item, .inr rfl, same, left⟩
      · exact ⟨other, .inl before, same, out⟩
    · rintro ⟨other, before | rfl, same, out⟩
      · exact .inr ⟨other, before, same, out⟩
      · exact .inl same

/-- An entry that is placed has the last object. -/
theorem place {warnings : Warnings} (mirrors : Mirrors items done draft)
    (valid : draft.outline.WellFormed)
    (isKept : IsKept items ⟨entry, unitIndex⟩) (notRow : role.kind ≠ .codeLine)
    (isUnit : role.kind = .compileUnit ↔ entry.tag = .compileUnit)
    (belongs : draft.outline.BelongsUnder ⟨entry, unitIndex⟩ draft.outline.size parent)
    (placed : Placed unit unitIndex entry role parent draft.outline after) :
    Mirrors items (done ++ [⟨entry, unitIndex⟩]) ⟨after, warnings, draft.dropped⟩ where
  objects := by
    have inside := valid.root_present
    rw [Item.kept_append_of isKept, placed.objects notRow inside]
    have present : ∀ id ∈ draft.outline.objects, id < draft.outline.size :=
      fun id member => (Outline.mem_objects.mp member).1
    apply List.rel_append
    · refine ((List.forall₂_and_left _ _).mpr ⟨present, mirrors.objects⟩).imp ?_
      rintro id item ⟨known, stands⟩
      exact placed.represents_older notRow inside known stands
    · exact .cons (placed.represents_newest notRow inside isUnit belongs) .nil
  dropped offset := by
    rw [mirrors.dropped]
    constructor
    · rintro ⟨other, before, same, out⟩
      exact ⟨other, List.mem_append_left _ before, same, out⟩
    · rintro ⟨other, before, same, out⟩
      rcases List.mem_append.mp before with before | new
      · exact ⟨other, before, same, out⟩
      · rw [List.mem_singleton.mp new] at out
        exact absurd isKept out

/-- One more entry. -/
theorem addEntry (mirrors : Mirrors items done state.1) (valid : state.1.outline.WellFormed)
    (current : CurrentLast unitIndex state) (ordered : Item.InOrder items)
    (split : items = done ++ ⟨entry, unitIndex⟩ :: rest) :
    Mirrors items (done ++ [⟨entry, unitIndex⟩]) (Draft.addEntry unit unitIndex state entry).1 ∧
      CurrentLast unitIndex (Draft.addEntry unit unitIndex state entry) := by
  have nested := mirrors.nested_iff ordered split
  rcases addEntry_cases unit unitIndex entry valid current.inside with
    ⟨inner, same⟩ | ⟨-, unknown, same⟩ |
    ⟨outside, known, role, notRow, isUnit, next, warnings, same, placed⟩
  · have left : ¬ IsKept items ⟨entry, unitIndex⟩ := by
      obtain ⟨outer, parent, out⟩ := nested.mp inner
      exact fun isKept => out ((Item.isKept_iff.mp isKept).2 outer parent)
    rw [same]
    exact ⟨mirrors.drop left _, current⟩
  · have left : ¬ IsKept items ⟨entry, unitIndex⟩ := by
      intro isKept
      simpa [unknown] using (Item.isKept_iff.mp isKept).1
    rw [same]
    exact ⟨mirrors.drop left _, current⟩
  · have isKept : IsKept items ⟨entry, unitIndex⟩ := by
      refine Item.isKept_iff.mpr ⟨known, fun outer parent => ?_⟩
      by_contra out
      rw [nested.mpr ⟨outer, parent, out⟩] at outside
      cases outside
    have belongs := mirrors.belongs_parentOf ordered split valid (by simp [outside]) current
    rw [same]
    refine ⟨mirrors.place valid isKept notRow isUnit belongs placed, ?_⟩
    unfold CurrentLast
    rw [placed.unitBefore?_size notRow valid.root_present, ← current]
    simp [isUnit]

/-- At the start of a unit there is no unit object of it. -/
theorem currentLast_none (mirrors : Mirrors items done draft)
    (earlier : ∀ item ∈ done, item.unit < unitIndex) : CurrentLast unitIndex (draft, none) := by
  unfold CurrentLast
  symm
  rw [Outline.unitBefore?, List.getLast?_eq_none_iff, List.filter_eq_nil_iff]
  intro id listed
  obtain ⟨item, member, stands⟩ := mirrors.exists_item listed
  have other := Nat.ne_of_lt (earlier item (Item.mem_kept.mp member).1)
  simp [Outline.isUnitOf, stands.unit, other]

end Mirrors

/-- All units. -/
theorem mirrors_ofUnits (input : String) (units : List UnitRecord)
    (ordered : Item.InOrder (Item.ofUnits units)) :
    Mirrors (Item.ofUnits units) (Item.ofUnits units) (ofUnits input units) := by
  have inStep : InStep units (id : Unit → Unit) (fun _ _ _ _ => ()) id
      (fun done draft _ => Mirrors (Item.ofUnits units) done draft)
      (fun position done state _ =>
        Mirrors (Item.ofUnits units) done state.1 ∧ CurrentLast position state) :=
    { entered := fun earlier mirrors => ⟨mirrors, mirrors.currentLast_none earlier⟩
      stepped := fun _ split sound _ both => both.1.addEntry sound.valid both.2 ordered split
      left := And.left }
  have nothing : Mirrors (Item.ofUnits units) [] (start input) := ⟨.nil, by simp [start]⟩
  have all := (inStep.run (start input) () (.empty units input) nothing).2
  exact ⟨outline_ofUnits input units ▸ all.objects, dropped_ofUnits input units ▸ all.dropped⟩

end Draft

namespace Outline

variable {before after : Outline} {units : List UnitRecord} {item : Item} {id : Nat}

/-- Standing for an entry is a matter of skeletons. -/
theorem Represents.of_keeps (stands : before.Represents id item)
    (kept : Keeps Node.skeleton before after) : after.Represents id item where
  offset := (kept.offset id).trans stands.offset
  tag := (kept.tag id).trans stands.tag
  unit := (kept.unit id).trans stands.unit
  isUnit := by
    rw [kept.kind]
    exact stands.isUnit
  parent := by
    obtain ⟨owner, named, belongs⟩ := stands.parent
    refine ⟨owner, (kept.parent id).trans named, ?_⟩
    simpa only [BelongsUnder, unitBefore?, isUnitOf, kept.objects, kept.offset, kept.kind,
      kept.unit] using belongs

/-- The objects in order are the entries in order that nothing unknown surrounds, each in its place;
children are in order too, and units list the rows of their tables. -/
structure IsTreeOf (outline : Outline) (units : List UnitRecord) : Prop where
  objects : List.Forall₂ outline.Represents outline.objects
    (Item.kept (Item.ofUnits units) (Item.ofUnits units))
  ascending : ∀ id, (outline.node id).children.toList.Pairwise (· < ·)
  rows : outline.RowsInPlace units

/-- The outline of an input file is the tree of its entries. -/
theorem isTreeOf_build (input : String) (units : List UnitRecord) (void : String)
    (ordered : Item.InOrder (Item.ofUnits units)) :
    (Outline.build input units void).1.IsTreeOf units := by
  have kept := (keeps_finish (Draft.ofUnits input units).outline void).skeleton
  have mirrors := Draft.mirrors_ofUnits input units ordered
  have sound := Draft.sound_ofUnits input units
  rw [← build_fst] at kept
  constructor
  case objects =>
    rw [kept.objects]
    exact mirrors.objects.imp fun id item stands => stands.of_keeps kept
  case ascending =>
    intro id
    rw [kept.children]
    exact sound.ascending id
  case rows => exact .build input units void

/-- A unit with a nested unit, an entry of no known tag and what is in it, and an entry without a
parent; another unit refers back to the first. -/
private def nestedUnits : List UnitRecord := [
  { entries := #[
      { offset := 11, tag := .compileUnit },
      { offset := 20, tag := ⟨0x4109⟩, parent := some 11 },
      { offset := 30, tag := .variableEntry, parent := some 20 },
      { offset := 40, tag := .compileUnit, parent := some 11 },
      { offset := 50, tag := .baseType }],
    rows := #[{ line := 3, address := 32 }, { line := 4, address := 36 }] },
  { entries := #[
      { offset := 60, tag := .structureType },
      { offset := 70, tag := .memberEntry, parent := some 60 },
      { offset := 80, tag := .subprogram, parent := some 11 }] }]

theorem isTreeOf_nested : Item.InOrder (Item.ofUnits nestedUnits) ∧
    (Outline.build "a.o" nestedUnits "void").1.IsTreeOf nestedUnits :=
  have ordered : Item.InOrder (Item.ofUnits nestedUnits) := ⟨by decide, by decide +kernel⟩
  ⟨ordered, isTreeOf_build "a.o" nestedUnits "void" ordered⟩

end Outline

end DebugOutline
