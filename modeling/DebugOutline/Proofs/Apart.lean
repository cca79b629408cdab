import DebugOutline.Proofs.Joining
import DebugOutline.Proofs.Completing
import DebugOutline.Proofs.Document

/-! Units that name nothing of each other do not show in each other's documents. -/
namespace DebugOutline

open Dwarf (Entry UnitRecord)

/-- No entry of these units has a parent or a reference among the entries of the others. Offsets may
even occur on both sides, as long as nothing goes by them. -/
def Dwarf.Ignores (units others : List UnitRecord) : Prop :=
  ∀ entry ∈ Dwarf.entries units, ∀ other ∈ Dwarf.entries others,
    entry.parent ≠ some other.offset ∧ ¬ entry.Refers other.offset

instance (entry : Entry) (offset : UInt64) : Decidable (entry.Refers offset) :=
  inferInstanceAs (Decidable (∃ item ∈ entry.attributes, item.value = .reference offset))

namespace Draft

variable {shift : Renaming} {first second both : Draft} {currentUnit : Option NodeId}
  {entry : Entry} {units others : List UnitRecord}

/-! ### Where offsets lead -/

/-- No object stands for an offset that no entry has. -/
theorem From.find?_eq_none {entries : List Entry} (origin : From entries first)
    (valid : first.outline.WellFormed) {offset : UInt64}
    (strange : ∀ entry ∈ entries, entry.offset ≠ offset) : first.outline.find? offset = none := by
  by_contra found
  obtain ⟨id, hit⟩ := Option.ne_none_iff_exists'.mp found
  obtain ⟨listed, same⟩ := valid.find_sound hit
  obtain ⟨entry, member, own⟩ := origin.object id listed
  exact strange entry member (own.trans same)

theorem From.dropped_eq_false {entries : List Entry} (origin : From entries first) {offset : UInt64}
    (strange : ∀ entry ∈ entries, entry.offset ≠ offset) :
    first.dropped.contains offset = false := by
  by_contra known
  obtain ⟨entry, member, same⟩ := origin.dropped offset (by simpa using known)
  exact strange entry member same

/-! ### Two drafts side by side -/

/-- A draft with all that is in two others. -/
structure Joins (shift : Renaming) (first second both : Draft) : Prop where
  outline : Outline.Joins shift first.outline second.outline both.outline
  dropped : ∀ offset, both.dropped.contains offset =
    (second.dropped.contains offset || first.dropped.contains offset)

namespace Joins

variable (joins : Joins shift first second both)
include joins

theorem drop (entry : Entry) (warnings alsoWarnings : Warnings) :
    Joins shift first ⟨second.outline, warnings, second.dropped.insert entry.offset⟩
      ⟨both.outline, alsoWarnings, both.dropped.insert entry.offset⟩ where
  outline := joins.outline
  dropped offset := by simp [joins.dropped, Bool.or_assoc]

section Strange

variable (strange : ∀ offset ∈ entry.parent, first.outline.find? offset = none ∧
  first.dropped.contains offset = false)
include strange

/-- What was left out of the first side surrounds no entry whose parent is not there. -/
theorem any_dropped :
    entry.parent.any both.dropped.contains = entry.parent.any second.dropped.contains := by
  cases named : entry.parent with
  | none => rfl
  | some offset => simp [joins.dropped, (strange offset named).2]

theorem parentOf_both : parentOf both.outline entry (currentUnit.map shift.object) =
    shift.object (parentOf second.outline entry currentUnit) := by
  have found : entry.parent.bind both.outline.find? =
      (entry.parent.bind second.outline.find?).map shift.object := by
    cases named : entry.parent with
    | none => rfl
    | some offset => simp [joins.outline.find, (strange offset named).1]
  have fallback : fallbackParent entry (currentUnit.map shift.object) =
      shift.object (fallbackParent entry currentUnit) := by
    unfold fallbackParent
    split
    · exact Renaming.object_root.symm
    · cases currentUnit with
      | none => exact Renaming.object_root.symm
      | some id => rfl
  unfold parentOf
  rw [found, fallback, Option.getD_map]

/-- An entry whose parent is not on the first side is added to both as to the second. -/
theorem addEntry (still : shift.Still) (unit : UnitRecord) (unitIndex : Nat)
    (current : CurrentInside (second, currentUnit)) :
    Joins shift first (Draft.addEntry unit unitIndex (second, currentUnit) entry).1
        (Draft.addEntry unit (unitIndex + shift.units)
          (both, currentUnit.map shift.object) entry).1 ∧
      (Draft.addEntry unit (unitIndex + shift.units)
          (both, currentUnit.map shift.object) entry).2 =
        (Draft.addEntry unit unitIndex (second, currentUnit) entry).2.map shift.object := by
  have held := joins.outline.beside
  have nested := joins.any_dropped strange
  have under : parentOf both.outline entry (currentUnit.map shift.object) =
      shift.object (parentOf second.outline entry currentUnit) := joins.parentOf_both strange
  have inside := parentOf_lt_size held.valid current entry
  generalize owner : parentOf second.outline entry currentUnit = parent at under inside
  have roles : roleUnder? both.outline entry (shift.object parent) =
      roleUnder? second.outline entry parent := by
    simp only [roleUnder?, held.auxiliaryForm? inside]
  cases inner : entry.parent.any second.dropped.contains with
  | true =>
    rw [addEntry_nested inner, addEntry_nested (nested.trans inner)]
    exact ⟨joins.drop entry _ _, rfl⟩
  | false =>
    cases known : roleUnder? second.outline entry parent with
    | none =>
      have unknown := ofTag?_of_roleUnder? known
      rw [addEntry_unknown inner unknown, addEntry_unknown (nested.trans inner) unknown]
      exact ⟨joins.drop entry _ _, rfl⟩
    | some role =>
      rw [addEntry_known unit unitIndex inner owner known,
        addEntry_known unit (unitIndex + shift.units) (nested.trans inner) under
          (roles.trans known)]
      have placed := joins.outline.place still unit unitIndex entry inside (roleUnder?_kind known).1
      refine ⟨⟨placed, joins.dropped⟩, ?_⟩
      dsimp only
      split
      · rw [Option.map_some, joins.outline.newest]
      · rfl

end Strange

end Joins

/-- The object of the input file of a draft. -/
theorem file_addUnits (input : String) (units : List UnitRecord) :
    (((start input).addUnits units 0).outline.node Outline.root).withoutChildren =
      .ofInput input := by
  refine (addUnits_related (fun state _ =>
    (state.1.outline.node Outline.root).withoutChildren = .ofInput input) 0 id ?_
    (start input) (start input) (.empty units input) rfl).2
  intro state other unit position entry recorded listed sound current same
  rcases addEntry_cases unit position entry sound.valid current with
    ⟨-, added⟩ | ⟨-, -, added⟩ | ⟨-, -, role, -, -, next, warnings, added, placed⟩
  · rwa [added]
  · rwa [added]
  · rw [added]
    exact (placed.older Outline.root sound.valid.root_present).trans same

/-- Units that ignore those before them are placed beside them. -/
theorem joins_addUnits (input : String) (units others : List UnitRecord)
    (ignores : Dwarf.Ignores others units) :
    let first := (start input).addUnits units 0
    Joins (.behind first.outline.size units.length) first ((start input).addUnits others 0)
      ((start input).addUnits (units ++ others) 0) := by
  intro first
  have sound : Sound units first.outline := sound_addUnits input units
  have origin : From (Dwarf.entries units) first := .addUnits input units
  have nothing : Joins (.behind first.outline.size units.length) first (start input) first :=
    { outline := .start sound.valid sound.linksInside (file_addUnits input units)
        (Nat.sub_add_cancel sound.valid.root_present)
      dropped := fun offset => by simp [start] }
  have all := addUnits_related (fun state other =>
      Joins (.behind first.outline.size units.length) first state.1 other.1 ∧
        other.2 = state.2.map (Renaming.behind first.outline.size units.length).object)
    units.length (fun related => ⟨related.1, rfl⟩) ?_ (start input) first (.empty others input)
    ⟨nothing, rfl⟩
  · rw [addUnits_append, Nat.zero_add]
    exact all.2.1
  · rintro ⟨second, currentUnit⟩ ⟨both, _⟩ unit position entry recorded listed sound current
      ⟨joins, rfl⟩
    have earlier := sound_addUnits input units
    have member : entry ∈ Dwarf.entries others :=
      List.mem_flatMap.mpr ⟨unit, List.mem_of_getElem? recorded, listed⟩
    have strange : ∀ offset ∈ entry.parent, first.outline.find? offset = none ∧
        first.dropped.contains offset = false := by
      intro offset named
      have other : ∀ other ∈ Dwarf.entries units, other.offset ≠ offset := by
        intro other known same
        exact (ignores entry member other known).1 (same ▸ named)
      exact ⟨origin.find?_eq_none earlier.valid other, origin.dropped_eq_false other⟩
    rw [Nat.add_comm units.length position]
    exact joins.addEntry strange (fun _ => rfl) unit position current

/-- Whatever the objects of units name is not found among units that they ignore. -/
theorem From.find?_ignored (origin : From (Dwarf.entries units) first)
    (beside : From (Dwarf.entries others) second) (valid : second.outline.WellFormed)
    (ignores : Dwarf.Ignores units others) {id : Nat} {offset : UInt64}
    (named : (first.outline.node id).typeOffset = some offset ∨
      (first.outline.node id).referenceOffset = some offset) :
    second.outline.find? offset = none := by
  obtain ⟨entry, member, refers⟩ := origin.link id offset named
  apply beside.find?_eq_none valid
  intro other known same
  exact (ignores entry member other known).2 (same ▸ refers)

/-- Units that ignore each other are linked as they would be alone. -/
theorem indexed_addUnits (input : String) (units others : List UnitRecord)
    (forward : Dwarf.Ignores units others) (backward : Dwarf.Ignores others units) :
    let first := (start input).addUnits units 0
    Outline.Indexed .first (.behind first.outline.size units.length) first.outline
      ((start input).addUnits others 0).outline
      ((start input).addUnits (units ++ others) 0).outline := by
  intro first
  have joins := (joins_addUnits input units others backward).outline
  have origin := From.addUnits input units
  have beside := From.addUnits input others
  refine ⟨joins.parts, ?_, ?_⟩
  · intro id _ offset named
    have strange := origin.find?_ignored beside joins.beside.valid forward named
    have still : Renaming.first.offset offset = offset := rfl
    rw [still, joins.find, strange, Renaming.object_first, Option.map_id]
    rfl
  · intro id _ offset named
    have strange := beside.find?_ignored origin joins.own.valid backward named
    have still : (Renaming.behind first.outline.size units.length).offset offset = offset := rfl
    rw [still, joins.find, strange, Option.or_none]

end Draft

namespace Outline

open Dwarf (Ignores)

/-- Where two lists of units name no entry of each other, the outline of both lists has under the
input file what the first has alone, then what the second has alone, and each of these makes the
same item of the sorted document as in the outline of its own units. -/
theorem build_append (input : String) (units others : List UnitRecord) (void : String)
    (key : SortKey) (level : Nat) (forward : Ignores units others)
    (backward : Ignores others units) :
    let first := (Outline.build input units void).1
    let second := (Outline.build input others void).1
    let both := (Outline.build input (units ++ others) void).1
    (both.node root).children.toList = (first.node root).children.toList ++
      (second.node root).children.toList.map (· + (first.size - 1)) ∧
    (∀ id ∈ (first.node root).children.toList,
      (both.sort key).yamlItem id level = (first.sort key).yamlItem id level) ∧
    (∀ id ∈ (second.node root).children.toList,
      (both.sort key).yamlItem (id + (first.size - 1)) level =
        (second.sort key).yamlItem id level) := by
  simp only [build_fst, Draft.outline_ofUnits]
  have joins := (Draft.joins_addUnits input units others backward).outline
  have parts := (Draft.indexed_addUnits input units others forward backward).finish
    joins.consecutive void
  have kept (draft : Draft) := (keeps_finish draft.outline void).skeleton
  have still : Renaming.first.Still := fun _ => rfl
  refine ⟨?_, ?_, ?_⟩
  · rw [(kept _).children, (kept _).children, (kept _).children, (kept _).size, joins.children]
    congr 1
    apply List.map_congr_left
    intro id member
    exact Renaming.object_of_ne (joins.beside.children_lt member).2
  · intro id member
    obtain ⟨inside, notRoot⟩ := parts.own.children_lt member
    have same := (parts.own.sort still key).yamlItem still (by simpa using inside) notRoot level
    rwa [Renaming.object_first, id_eq] at same
  · intro id member
    obtain ⟨inside, notRoot⟩ := parts.beside.children_lt member
    have same := (parts.beside.sort (fun _ => rfl) key).yamlItem (fun _ => rfl)
      (by simpa using inside) notRoot level
    rwa [Renaming.object_of_ne notRoot, ← (kept _).size] at same

/-- A structure with a member that points back to it, a tag that stands for nothing, and line
rows. -/
private def listUnit : UnitRecord where
  entries := #[
    { offset := 11, tag := .compileUnit },
    { offset := 20, tag := .structureType, parent := some 11 },
    { offset := 24, tag := .memberEntry, parent := some 20,
      attributes := [⟨.type, .ref4, .reference 30⟩] },
    { offset := 30, tag := .pointerType, parent := some 11,
      attributes := [⟨.type, .ref4, .reference 20⟩] },
    { offset := 36, tag := ⟨0x4109⟩, parent := some 11 }]
  rows := #[{ line := 3, address := 32 }]

/-- A function with a declaration, and a parent and a type that are nowhere. -/
private def callUnit : UnitRecord where
  entries := #[
    { offset := 51, tag := .compileUnit },
    { offset := 60, tag := .subprogram, parent := some 51,
      attributes := [⟨.declaration, .flagPresent, .flag true⟩] },
    { offset := 70, tag := .subprogram, parent := some 99,
      attributes := [⟨.specification, .ref4, .reference 60⟩, ⟨.type, .ref4, .reference 98⟩] }]

theorem build_append_pair :
    let first := (Outline.build "a.o" [listUnit] "void").1
    let second := (Outline.build "a.o" [callUnit] "void").1
    let both := (Outline.build "a.o" [listUnit, callUnit] "void").1
    Ignores [listUnit] [callUnit] ∧ Ignores [callUnit] [listUnit] ∧
    (both.node root).children.toList = (first.node root).children.toList ++
      (second.node root).children.toList.map (· + (first.size - 1)) ∧
    (∀ id ∈ (first.node root).children.toList,
      (both.sort .name).yamlItem id 1 = (first.sort .name).yamlItem id 1) ∧
    (∀ id ∈ (second.node root).children.toList,
      (both.sort .name).yamlItem (id + (first.size - 1)) 1 =
        (second.sort .name).yamlItem id 1) :=
  have forward : Ignores [listUnit] [callUnit] := by unfold Ignores; decide
  have backward : Ignores [callUnit] [listUnit] := by unfold Ignores; decide
  ⟨forward, backward, build_append "a.o" [listUnit] [callUnit] "void" .name 1 forward backward⟩

end Outline

end DebugOutline
