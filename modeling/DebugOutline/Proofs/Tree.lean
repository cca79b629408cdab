import DebugOutline.Proofs.InStep

/-! Every outline that can come about is a tree: the outline of an input file from whatever units,
an empty one that objects are added to one by one, and any of these sorted. -/
namespace DebugOutline

open Dwarf (Entry UnitRecord)

namespace Outline

/-- Outlines that come about by building, by adding objects without lists of their own under objects
that are there, and by sorting, in any order. -/
inductive Grown : Outline → Prop where
  | empty (input : String) : Grown (.empty input)
  | build (input : String) (units : List UnitRecord) (void : String) :
      Grown (Outline.build input units void).1
  | insert {outline : Outline} {node : Node} {parent : NodeId} (grown : Grown outline)
      (noChildren : node.children = #[]) (noLines : node.lines = #[])
      (inside : parent < outline.size) : Grown (outline.insert node parent).2
  | sort {outline : Outline} (grown : Grown outline) (key : SortKey) : Grown (outline.sort key)

variable {before after : Outline} {units : List UnitRecord}

/-! ### The outline of an input file -/

theorem build_fst (input : String) (units : List UnitRecord) (void : String) :
    (Outline.build input units void).1 = (Draft.ofUnits input units).outline.finish void := by
  simp only [Outline.build]

theorem WellFormed.build (input : String) (units : List UnitRecord) (void : String) :
    (Outline.build input units void).1.WellFormed := by
  rw [build_fst]
  exact (Draft.sound_ofUnits input units).valid.of_keeps (keeps_finish _ void).skeleton

theorem LinksInside.build (input : String) (units : List UnitRecord) (void : String) :
    (Outline.build input units void).1.LinksInside := by
  have sound := Draft.sound_ofUnits input units
  rw [build_fst]
  exact LinksInside.finish sound.valid sound.linksInside void

/-- Line rows are described by the table alone, and no pass changes that. -/
theorem RowsInPlace.of_keeps (rows : before.RowsInPlace units)
    (plain : ∀ id, (before.node id).kind = .codeLine →
      (before.node id).referenceOffset = none ∧ (before.node id).referenceId = none)
    (kept : Keeps Node.lasting before after) : after.RowsInPlace units := by
  have skeleton := kept.skeleton
  have shows {id row} (shows : (before.node id).ShowsRow row) : (after.node id).ShowsRow row := by
    have same : (after.node id).lasting.2 = (before.node id).lasting.2 :=
      congrArg Prod.snd (kept.node id)
    have details : (after.node id).line = (before.node id).line ∧
        (after.node id).file = (before.node id).file ∧
        (after.node id).detail = (before.node id).detail := by
      simp only [Node.lasting, plain id shows.kind, and_self, if_true] at same
      split at same
      · simpa using same
      · cases same
    exact {
      kind := (skeleton.kind id).trans shows.kind
      offset := (skeleton.offset id).trans shows.offset
      line := details.1.trans shows.line
      detail := details.2.2.trans shows.detail }
  constructor
  · intro id isRow
    rw [skeleton.kind] at isRow
    obtain ⟨owner, named, isUnit⟩ := rows.owner id isRow
    exact ⟨owner, by rw [skeleton.parent, named], by rw [skeleton.kind, isUnit]⟩
  · intro id isUnit
    rw [skeleton.kind] at isUnit
    obtain ⟨unit, recorded, listed⟩ := rows.listed id isUnit
    refine ⟨unit, by rw [skeleton.unit, recorded], ?_⟩
    rw [skeleton.lines]
    exact listed.imp fun _ _ => shows

theorem RowsInPlace.build (input : String) (units : List UnitRecord) (void : String) :
    (Outline.build input units void).1.RowsInPlace units := by
  have sound := Draft.sound_ofUnits input units
  rw [build_fst]
  exact sound.rows.of_keeps (fun id isRow => ⟨sound.plainRows id isRow, (sound.unlinked id).2⟩)
    (keeps_finish _ void)

/-- No line row stands directly under the input file. -/
theorem lines_root_build (input : String) (units : List UnitRecord) (void : String) :
    ((Outline.build input units void).1.node root).lines = #[] := by
  have valid := WellFormed.build input units void
  have file : ((Outline.build input units void).1.node root).kind = .inputFile := by
    rw [build_fst, (keeps_finish _ void).skeleton.kind]
    exact (Draft.sound_ofUnits input units).file
  rw [← Array.toList_eq_nil_iff, List.eq_nil_iff_forall_not_mem]
  intro row member
  obtain ⟨named, isRow⟩ := valid.mem_lines.mp member
  obtain ⟨owner, same, isUnit⟩ := (RowsInPlace.build input units void).owner row isRow
  rw [named] at same
  rw [← Option.some.inj same, file] at isUnit
  cases isUnit

/-! ### The theorem -/

theorem Grown.wellFormed {outline : Outline} (grown : Grown outline) : outline.WellFormed := by
  induction grown with
  | empty input => exact .empty input
  | build input units void => exact .build input units void
  | insert _ noChildren noLines inside valid => exact valid.insert noChildren noLines inside
  | sort _ key valid => exact valid.sort key

/-- Every outline that comes about is a tree with an index, and where it was built from units, what
its objects are linked to stands for entries. -/
theorem wellFormed_of_grown :
    (∀ outline, Grown outline → outline.WellFormed) ∧
      ∀ input units void, (Outline.build input units void).1.LinksInside :=
  ⟨fun _ grown => grown.wellFormed, LinksInside.build⟩

/-- Two types that refer to each other, an offset that comes twice, and parents that are missing or
the entry itself. -/
private def tangledUnit : UnitRecord where
  entries := #[
    { offset := 11, tag := .compileUnit },
    { offset := 32, tag := .pointerType, parent := some 11,
      attributes := [⟨.type, .ref4, .reference 40⟩] },
    { offset := 40, tag := .constType, parent := some 11,
      attributes := [⟨.type, .ref4, .reference 32⟩] },
    { offset := 32, tag := .structureType, parent := some 99 },
    { offset := 50, tag := .memberEntry, parent := some 50 }]
  rows := #[{ line := 3, address := 32 }]

theorem wellFormed_tangled :
    Grown ((Outline.build "a.o" [tangledUnit, tangledUnit] "void").1.sort .name) ∧
      ((Outline.build "a.o" [tangledUnit, tangledUnit] "void").1.sort .name).WellFormed ∧
      (Outline.build "a.o" [tangledUnit, tangledUnit] "void").1.LinksInside :=
  have grown := (Grown.build "a.o" [tangledUnit, tangledUnit] "void").sort .name
  ⟨grown, wellFormed_of_grown.1 _ grown, wellFormed_of_grown.2 _ _ _⟩

end Outline

end DebugOutline
