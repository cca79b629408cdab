import DebugOutline.Proofs.Placing

/-! Whatever the units are, placing their entries grows a tree in which nothing is linked yet,
children are in order, and every unit lists its own line rows. -/
namespace DebugOutline

open Dwarf (Entry LineRow UnitRecord)

/-- An object that says what a row of a line table says. -/
structure Node.ShowsRow (row : LineRow) (node : Node) : Prop where
  kind : node.kind = .codeLine
  offset : node.offset = row.address
  line : node.line = row.line
  detail : node.detail = .codeLine {
    address := row.address
    discriminator := row.discriminator
    newStatement := row.isStatement
    prologueEnd := row.prologueEnd
    endSequence := row.endSequence
    basicBlock := row.basicBlock
    epilogueBegin := row.epilogueBegin }

/-- Line rows stand under units, and a unit lists a line row for each row of its table, in order. -/
structure Outline.RowsInPlace (units : List UnitRecord) (outline : Outline) : Prop where
  owner : ∀ id, (outline.node id).kind = .codeLine →
    ∃ owner, (outline.node id).parent = some owner ∧ (outline.node owner).kind = .compileUnit
  listed : ∀ id, (outline.node id).kind = .compileUnit →
    ∃ unit, units[(outline.node id).unit]? = some unit ∧
      List.Forall₂ (fun line row => (outline.node line).ShowsRow row)
        (outline.node id).lines.toList unit.rows.toList

namespace Draft

/-- What holds of every outline under construction. -/
structure Sound (units : List UnitRecord) (outline : Outline) : Prop where
  valid : outline.WellFormed
  file : (outline.node Outline.root).kind = .inputFile
  unlinked : ∀ id, (outline.node id).typeId = none ∧ (outline.node id).referenceId = none
  ascending : ∀ id, (outline.node id).children.toList.Pairwise (· < ·)
  plainRows : ∀ id, (outline.node id).kind = .codeLine → (outline.node id).referenceOffset = none
  rows : outline.RowsInPlace units

variable {units : List UnitRecord} {unit : UnitRecord} {unitIndex : Nat} {entry : Entry}
  {role : Role} {parent : Nat} {before after outline : Outline}

theorem Sound.empty (units : List UnitRecord) (input : String) : Sound units (.empty input) := by
  have blank (id : Nat) : ((Outline.empty input).node id).kind = .inputFile ∧
      ((Outline.empty input).node id).typeId = none ∧
      ((Outline.empty input).node id).referenceId = none ∧
      ((Outline.empty input).node id).children = #[] := by
    rcases Outline.node_empty_cases input id with same | same <;> rw [same] <;>
      exact ⟨rfl, rfl, rfl, rfl⟩
  refine ⟨.empty input, rfl, ?_, ?_, ?_, ?_, ?_⟩ <;> intro id <;> simp [blank]

/-- Nothing is linked yet. -/
theorem Sound.linksInside (sound : Sound units outline) : outline.LinksInside := by
  intro id target linked
  simp [sound.unlinked id] at linked

section Step

variable (sound : Sound units before)
  (placed : Placed unit unitIndex entry role parent before after)
include sound placed

private theorem unlinked_place (id : Nat) :
    (after.node id).typeId = none ∧ (after.node id).referenceId = none := by
  rcases placed.cases id with old | new | ⟨row, -, level, same⟩ | none
  · rw [placed.read Node.typeId (fun _ => rfl) old, placed.read Node.referenceId (fun _ => rfl) old]
    exact sound.unlinked id
  · obtain ⟨described, isOf, same⟩ := placed.newest
    rw [new, same]
    exact ⟨isOf.typeId, isOf.referenceId⟩
  · rw [same]
    exact ⟨rfl, rfl⟩
  · rw [none]
    exact ⟨rfl, rfl⟩

/-- The new object has the largest number so far, and goes last among its siblings. -/
private theorem ascending_place (id : Nat) :
    (after.node id).children.toList.Pairwise (· < ·) := by
  rcases placed.cases id with old | new | ⟨row, -, level, same⟩ | none
  · rw [placed.children id old, List.pairwise_append]
    refine ⟨sound.ascending id, by split <;> simp, ?_⟩
    intro child listed later last
    have earlier := (sound.valid.of_parent (sound.valid.mem_children.mp listed).1).1
    split at last
    · rw [List.mem_singleton.mp last]
      exact earlier
    · simp at last
  · obtain ⟨described, isOf, same⟩ := placed.newest
    rw [new, same]
    simp [Outline.placed, isOf.children]
  · simp [same, Node.ofRow]
  · rw [none]
    exact .nil

private theorem plainRows_place (notRow : role.kind ≠ .codeLine) (id : Nat)
    (isRow : (after.node id).kind = .codeLine) : (after.node id).referenceOffset = none := by
  rcases placed.cases id with old | new | ⟨row, -, level, same⟩ | none
  · rw [placed.read Node.kind (fun _ => rfl) old] at isRow
    rw [placed.read Node.referenceOffset (fun _ => rfl) old]
    exact sound.plainRows id isRow
  · rw [new, placed.kind_newest] at isRow
    contradiction
  · rw [same]
    rfl
  · rw [none]
    rfl

private theorem owner_place (notRow : role.kind ≠ .codeLine) (id : Nat)
    (isRow : (after.node id).kind = .codeLine) :
    ∃ owner, (after.node id).parent = some owner ∧ (after.node owner).kind = .compileUnit := by
  rcases placed.cases id with old | new | ⟨row, own, level, same⟩ | none
  · rw [placed.read Node.kind (fun _ => rfl) old] at isRow
    obtain ⟨owner, named, isUnit⟩ := sound.rows.owner id isRow
    have earlier := (sound.valid.of_parent named).2.2
    refine ⟨owner, by rw [placed.read Node.parent (fun _ => rfl) old, named], ?_⟩
    rw [placed.read Node.kind (fun _ => rfl) (Nat.lt_trans earlier old), isUnit]
  · rw [new, placed.kind_newest] at isRow
    contradiction
  · refine ⟨before.size, by rw [same], ?_⟩
    rw [placed.kind_newest]
    by_contra other
    simp [ownRows, other] at own
  · rw [none] at isRow
    cases isRow

private theorem listed_place (recorded : units[unitIndex]? = some unit) (id : Nat)
    (isUnit : (after.node id).kind = .compileUnit) :
    ∃ unit, units[(after.node id).unit]? = some unit ∧
      List.Forall₂ (fun line row => (after.node line).ShowsRow row)
        (after.node id).lines.toList unit.rows.toList := by
  rcases placed.cases id with old | new | ⟨row, -, level, same⟩ | none
  · rw [placed.read Node.kind (fun _ => rfl) old] at isUnit
    obtain ⟨record, found, listed⟩ := sound.rows.listed id isUnit
    refine ⟨record, by rw [placed.read Node.unit (fun _ => rfl) old, found], ?_⟩
    rw [placed.read Node.lines (fun _ => rfl) old]
    have members : ∀ line ∈ (before.node id).lines.toList, line < before.size := by
      intro line member
      exact (sound.valid.of_parent (sound.valid.mem_lines.mp member).1).1
    refine ((List.forall₂_and_left _ _).mpr ⟨members, listed⟩).imp ?_
    rintro line row ⟨known, shows⟩
    exact {
      kind := (placed.read Node.kind (fun _ => rfl) known).trans shows.kind
      offset := (placed.read Node.offset (fun _ => rfl) known).trans shows.offset
      line := (placed.read Node.line (fun _ => rfl) known).trans shows.line
      detail := (placed.read Node.detail (fun _ => rfl) known).trans shows.detail }
  · rw [new, placed.kind_newest] at isUnit
    obtain ⟨described, isOf, same⟩ := placed.newest
    have own : ownRows unit role = unit.rows.toList := if_pos isUnit
    refine ⟨unit, by rw [new, same, ← recorded]; exact congrArg _ isOf.unit, ?_⟩
    rw [new, same, ← own, List.forall₂_iff_get]
    refine ⟨by simp, ?_⟩
    intro k _ last
    obtain ⟨level, row⟩ := placed.row k last
    simp only [List.get_eq_getElem, List.getElem_range', Nat.one_mul, row]
    exact ⟨rfl, rfl, rfl, rfl⟩
  · rw [same] at isUnit
    cases isUnit
  · rw [none] at isUnit
    cases isUnit

theorem Sound.place (recorded : units[unitIndex]? = some unit) (notRow : role.kind ≠ .codeLine) :
    Sound units after where
  valid := placed.valid
  file := (placed.read Node.kind (fun _ => rfl) sound.valid.root_present).trans sound.file
  unlinked := unlinked_place sound placed
  ascending := ascending_place sound placed
  plainRows := plainRows_place sound placed notRow
  rows := ⟨owner_place sound placed notRow, listed_place sound placed recorded⟩

end Step

/-! ### All entries -/

variable {state : Draft × Option NodeId}

/-- The current unit, if there is one, is an object. -/
def CurrentInside (state : Draft × Option NodeId) : Prop :=
  ∀ id ∈ state.2, id < state.1.outline.size

theorem Sound.addEntry (sound : Sound units state.1.outline) (current : CurrentInside state)
    (recorded : units[unitIndex]? = some unit) (entry : Entry) :
    Sound units (Draft.addEntry unit unitIndex state entry).1.outline ∧
      CurrentInside (Draft.addEntry unit unitIndex state entry) := by
  rcases addEntry_cases unit unitIndex entry sound.valid current with
    ⟨-, same⟩ | ⟨-, -, same⟩ | ⟨-, -, role, notRow, -, next, warnings, same, placed⟩
  · rw [same]
    exact ⟨sound, current⟩
  · rw [same]
    exact ⟨sound, current⟩
  · rw [same]
    refine ⟨sound.place placed recorded notRow, ?_⟩
    intro id member
    have larger : state.1.outline.size < next.size := by
      rw [placed.size]
      omega
    split at member
    · cases member
      exact larger
    · exact Nat.lt_trans (current id member) larger

end Draft

end DebugOutline
