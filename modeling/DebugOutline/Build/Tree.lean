import DebugOutline.Build.NodeOf
import DebugOutline.Outline.Basic
import Std.Data.HashSet

/-! Placing entries: one object for each entry with a known tag, under the object of its parent
entry. An entry with an unknown tag is left out together with everything nested in it. -/
namespace DebugOutline

open Dwarf (Entry Tag UnitRecord)

/-- An outline under construction, with the offsets of the entries that were left out. -/
structure Draft where
  outline : Outline
  warnings : Warnings := []
  dropped : Std.HashSet UInt64 := ∅

namespace Draft

/-- Leave an entry out. -/
def drop (draft : Draft) (entry : Entry) : Draft :=
  { draft with dropped := draft.dropped.insert entry.offset }

def warn (draft : Draft) (warnings : List Warning) : Draft :=
  { draft with warnings := warnings.foldl Warnings.add draft.warnings }

/-- Where an entry goes whose parent entry has no object: a unit under the file, anything else
under the current unit. -/
def fallbackParent (entry : Entry) (currentUnit : Option NodeId) : NodeId :=
  if entry.tag = .compileUnit then Outline.root else currentUnit.getD Outline.root

/-- The object that an entry goes under. -/
def parentOf (outline : Outline) (entry : Entry) (currentUnit : Option NodeId) : NodeId :=
  (entry.parent.bind outline.find?).getD (fallbackParent entry currentUnit)

/-- The part an entry plays under `parent`. Parameters of a subroutine type only spell its name. -/
def roleUnder? (outline : Outline) (entry : Entry) (parent : NodeId) : Option Role :=
  match Role.ofTag? entry.tag with
  | some (.object .parameter) =>
    if (outline.node parent).auxiliaryForm? = some .subroutine then
      some (.auxiliary .subroutineParameter)
    else some (.object .parameter)
  | role => role

/-- A template parameter makes its owner a template, unless that is a plain typedef or no scope
at all. -/
def makesTemplate (owner : Node) : Bool :=
  !owner.isAuxiliary && !owner.kind.isSymbol && !owner.kind.endsScopes &&
    owner.tag != some Tag.typedef

def markTemplate (outline : Outline) (parent : NodeId) : Outline :=
  if makesTemplate (outline.node parent) then
    outline.modify parent fun owner => { owner with isTemplate := true }
  else outline

/-- Add the line rows of a unit under its object. -/
def addRows (unit : UnitRecord) (unitIndex : Nat) (owner : NodeId) (outline : Outline) : Outline :=
  unit.rows.foldl (fun outline row => (outline.insert (.ofRow unit unitIndex row) owner).2) outline

/-- What follows from placing an object of that kind. -/
def afterPlacing (unit : UnitRecord) (unitIndex : Nat) (kind : Kind) (id parent : NodeId)
    (outline : Outline) : Outline :=
  match kind with
  | .compileUnit => addRows unit unitIndex id outline
  | .templateParameter => markTemplate outline parent
  | _ => outline

/-- Place one entry. The current unit is the last unit object that the same unit record gave. -/
def addEntry (unit : UnitRecord) (unitIndex : Nat) (state : Draft × Option NodeId)
    (entry : Entry) : Draft × Option NodeId :=
  let (⟨outline, warnings, dropped⟩, currentUnit) := state
  if entry.parent.any dropped.contains then
    (drop ⟨outline, warnings, dropped⟩ entry, currentUnit)
  else
    let parent := parentOf outline entry currentUnit
    match roleUnder? outline entry parent with
    | none => (drop (warn ⟨outline, warnings, dropped⟩ [.unknownTag entry.tag]) entry, currentUnit)
    | some role =>
      let reading := Reading.node unit unitIndex entry role (outline.node parent).kind.isAggregate
      let (id, outline) := outline.insert reading.value parent
      let outline := afterPlacing unit unitIndex role.kind id parent outline
      (warn ⟨outline, warnings, dropped⟩ reading.warnings,
        if role.kind = .compileUnit then some id else currentUnit)

def addUnit (draft : Draft) (unit : UnitRecord) (unitIndex : Nat) : Draft :=
  (unit.entries.foldl (addEntry unit unitIndex) (draft, none)).1

/-- The objects of all units. A file without any is worth a warning. -/
def ofUnits (input : String) (units : List UnitRecord) : Draft :=
  let draft := units.zipIdx.foldl
    (fun (draft : Draft) indexed => draft.addUnit indexed.1 indexed.2) ⟨.empty input, [], ∅⟩
  if (draft.outline.node Outline.root).children.isEmpty then draft.warn [.noDebugData] else draft

end Draft

end DebugOutline
