import DebugOutline.Proofs.InStep

/-! Where the offsets in an outline under construction come from: objects and entries that were left
out have offsets of entries, and what objects are to be linked to are references of entries. -/
namespace DebugOutline

open Dwarf (Entry UnitRecord)

/-- The entries of all units. -/
def Dwarf.entries (units : List UnitRecord) : List Entry :=
  units.flatMap fun unit => unit.entries.toList

namespace Draft

variable {units : List UnitRecord} {input : String}

/-! ### Offsets -/

/-- All offsets are those of some entries, or references of theirs. -/
structure From (entries : List Entry) (draft : Draft) : Prop where
  object : ∀ id ∈ draft.outline.objects, ∃ entry ∈ entries,
    entry.offset = (draft.outline.node id).offset
  link : ∀ id offset, (draft.outline.node id).typeOffset = some offset ∨
    (draft.outline.node id).referenceOffset = some offset → ∃ entry ∈ entries, entry.Refers offset
  dropped : ∀ offset, draft.dropped.contains offset = true →
    ∃ entry ∈ entries, entry.offset = offset

namespace From

variable {entries : List Entry} {draft : Draft} {entry : Entry}

theorem start (entries : List Entry) (input : String) : From entries (.start input) := by
  have blank (id : Nat) : ((Draft.start input).outline.node id).typeOffset = none ∧
      ((Draft.start input).outline.node id).referenceOffset = none := by
    by_cases known : id < (Draft.start input).outline.size
    · have first : id = 0 := Nat.lt_one_iff.mp known
      subst first
      exact ⟨rfl, rfl⟩
    · rw [Outline.node_of_size_le (Nat.le_of_not_lt known)]
      exact ⟨rfl, rfl⟩
  constructor
  case object =>
    intro id member
    obtain ⟨inside, notRoot, -⟩ := Outline.mem_objects.mp member
    exact absurd (Nat.lt_one_iff.mp inside) notRoot
  case link => simp [blank]
  case dropped => simp [Draft.start]

/-- An entry that is left out has its offset remembered. -/
theorem drop (origin : From entries draft) (member : entry ∈ entries) (warnings : Warnings) :
    From entries ⟨draft.outline, warnings, draft.dropped.insert entry.offset⟩ where
  object := origin.object
  link := origin.link
  dropped offset known := by
    rw [Std.HashSet.contains_insert, Bool.or_eq_true, beq_iff_eq] at known
    rcases known with same | before
    · exact ⟨entry, member, same⟩
    · exact origin.dropped offset before

/-- The object of an entry has its offset and its references. -/
theorem place {unit : UnitRecord} {unitIndex parent : Nat} {role : Role} {after : Outline}
    {warnings : Warnings} (origin : From entries draft) (member : entry ∈ entries)
    (notRow : role.kind ≠ .codeLine) (inside : 0 < draft.outline.size)
    (placed : Placed unit unitIndex entry role parent draft.outline after) :
    From entries ⟨after, warnings, draft.dropped⟩ := by
  obtain ⟨described, isOf, newest⟩ := placed.newest
  constructor
  case object =>
    intro id listed
    rw [placed.objects notRow inside] at listed
    rcases List.mem_append.mp listed with old | new
    · rw [placed.read Node.offset (fun _ => rfl) (Outline.mem_objects.mp old).1]
      exact origin.object id old
    · rw [List.mem_singleton.mp new, newest]
      exact ⟨entry, member, isOf.offset.symm⟩
  case link =>
    intro id offset named
    rcases placed.cases id with old | new | ⟨row, -, level, same⟩ | none
    · rw [placed.read Node.typeOffset (fun _ => rfl) old,
        placed.read Node.referenceOffset (fun _ => rfl) old] at named
      exact origin.link id offset named
    · rw [new, newest] at named
      exact ⟨entry, member, isOf.refers offset named⟩
    · rw [same] at named
      rcases named with none | none <;> cases none
    · rw [none] at named
      rcases named with none | none <;> cases none
  case dropped => exact origin.dropped

theorem addEntry {unit : UnitRecord} {unitIndex : Nat} {state : Draft × Option NodeId}
    (origin : From entries state.1) (member : entry ∈ entries)
    (sound : Sound units state.1.outline) (current : CurrentInside state) :
    From entries (Draft.addEntry unit unitIndex state entry).1 := by
  rcases addEntry_cases unit unitIndex entry sound.valid current with
    ⟨-, same⟩ | ⟨-, -, same⟩ | ⟨-, -, role, notRow, -, next, warnings, same, placed⟩
  · rw [same]
    exact origin.drop member _
  · rw [same]
    exact origin.drop member _
  · rw [same]
    exact origin.place member notRow sound.valid.root_present placed

/-- All that is known after the units comes from their entries. -/
theorem addUnits (input : String) (units : List UnitRecord) :
    From (Dwarf.entries units) ((Draft.start input).addUnits units 0) := by
  refine (addUnits_related (fun state _ => From (Dwarf.entries units) state.1) 0 id ?_
    (.start input) (.start input) (.empty units input) (.start _ input)).2
  intro state other unit position entry recorded listed sound current origin
  have member : entry ∈ Dwarf.entries units :=
    List.mem_flatMap.mpr ⟨unit, List.mem_of_getElem? recorded, listed⟩
  exact origin.addEntry member sound current

end From

end Draft

end DebugOutline
