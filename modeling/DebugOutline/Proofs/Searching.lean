import DebugOutline.Proofs.Tree

/-! The outline without its index: offsets are looked up by going through the objects, and what was
left out is kept in a list. Nothing is hashed, so the kernel can evaluate the outline of any units;
that outline is the one that is built. -/
namespace DebugOutline

open Dwarf (Entry UnitRecord)

namespace Outline

variable {outline : Outline} {void : String}

/-- The object added last among those with this offset, found among the objects. -/
def search? (outline : Outline) (offset : UInt64) : Option NodeId :=
  (outline.objects.filter fun id => (outline.node id).offset == offset).getLast?

theorem WellFormed.search?_eq (valid : outline.WellFormed) : outline.search? = outline.find? :=
  funext fun offset => (valid.find offset).symm

/-- Resolve the type of an object without the index. -/
def searchType (outline : Outline) (id : NodeId) : Outline :=
  match (outline.node id).typeOffset.bind outline.search? with
  | none => outline
  | some target =>
    let unit := (outline.node id).unit
    (outline.modify id fun node => { node with typeId := some target }).markForeign target unit

/-- Resolve the declaration of an object without the index. -/
def searchDeclaration (outline : Outline) (id : NodeId) : Outline :=
  match (outline.node id).referenceOffset.bind outline.search? with
  | none => outline
  | some target =>
    if (outline.node id).linksTo (outline.node target) then
      let unit := (outline.node id).unit
      (outline.modify id fun node => { node with referenceId := some target }).markForeign
        target unit
    else outline

/-- Resolve every offset without the index. -/
def searchLinks (outline : Outline) : Outline :=
  outline.ids.foldl (fun outline id => (outline.searchType id).searchDeclaration id) outline

theorem WellFormed.searchType_eq (valid : outline.WellFormed) (id : NodeId) :
    outline.searchType id = outline.linkType id := by
  cases found : (outline.node id).typeOffset.bind outline.find? <;>
    simp only [searchType, linkType, valid.search?_eq, found]

theorem WellFormed.searchDeclaration_eq (valid : outline.WellFormed) (id : NodeId) :
    outline.searchDeclaration id = outline.linkDeclaration id := by
  cases found : (outline.node id).referenceOffset.bind outline.find? <;>
    simp only [searchDeclaration, linkDeclaration, valid.search?_eq, found]

theorem WellFormed.searchLinks_eq (valid : outline.WellFormed) :
    outline.searchLinks = outline.link := by
  have pass (ids : List NodeId) (current : Outline) (valid : current.WellFormed) :
      ids.foldl (fun outline id => (outline.searchType id).searchDeclaration id) current =
        ids.foldl (fun outline id => (outline.linkType id).linkDeclaration id) current := by
    induction ids generalizing current with
    | nil => rfl
    | cons id rest ih =>
      have typed : (current.linkType id).WellFormed :=
        valid.of_keeps ((keeps_linkType current id).weaken _ skeleton_of_linkView)
      have declared : ((current.linkType id).linkDeclaration id).WellFormed :=
        typed.of_keeps ((keeps_linkDeclaration _ id).weaken _ skeleton_of_linkView)
      rw [List.foldl_cons, List.foldl_cons, valid.searchType_eq, typed.searchDeclaration_eq,
        ih _ declared]
  exact pass outline.ids outline valid

end Outline

/-! ### Placing entries -/

/-- An outline under construction, with the offsets of the entries that were left out in a list. -/
structure Sketch where
  outline : Outline
  dropped : List UInt64 := []

namespace Sketch

/-- Place one entry without the index. -/
def addEntry (unit : UnitRecord) (unitIndex : Nat) (state : Sketch × Option NodeId)
    (entry : Entry) : Sketch × Option NodeId :=
  let (⟨outline, dropped⟩, currentUnit) := state
  if entry.parent.any dropped.contains then
    (⟨outline, entry.offset :: dropped⟩, currentUnit)
  else
    let parent := (entry.parent.bind outline.search?).getD (Draft.fallbackParent entry currentUnit)
    match Draft.roleUnder? outline entry parent with
    | none => (⟨outline, entry.offset :: dropped⟩, currentUnit)
    | some role =>
      (⟨Draft.place outline unit unitIndex entry role parent, dropped⟩,
        if role.kind = .compileUnit then some outline.size else currentUnit)

def addUnit (sketch : Sketch) (unit : UnitRecord) (unitIndex : Nat) : Sketch :=
  (unit.entries.toList.foldl (addEntry unit unitIndex) (sketch, none)).1

/-- The objects of all units, without the index. -/
def ofUnits (input : String) (units : List UnitRecord) : Sketch :=
  units.zipIdx.foldl (fun (sketch : Sketch) indexed => sketch.addUnit indexed.1 indexed.2)
    ⟨.empty input, []⟩

/-- The same outline, with the same entries left out. -/
structure Shows (sketch : Sketch) (draft : Draft) : Prop where
  outline : sketch.outline = draft.outline
  dropped : ∀ offset, sketch.dropped.contains offset = draft.dropped.contains offset

variable {units : List UnitRecord} {unit : UnitRecord} {unitIndex : Nat} {sketch : Sketch}
  {draft : Draft} {currentUnit : Option NodeId}

theorem Shows.drop (same : sketch.Shows draft) (entry : Entry) :
    Shows ⟨sketch.outline, entry.offset :: sketch.dropped⟩ (draft.drop entry) where
  outline := same.outline
  dropped offset := by
    rw [Draft.drop, Std.HashSet.contains_insert, List.contains_cons, same.dropped, Bool.beq_comm]

theorem Shows.warn (same : sketch.Shows draft) (warnings : List Warning) :
    sketch.Shows (draft.warn warnings) :=
  ⟨same.outline, same.dropped⟩

theorem Shows.addEntry (same : sketch.Shows draft) (valid : draft.outline.WellFormed)
    (unit : UnitRecord) (unitIndex : Nat) (currentUnit : Option NodeId) (entry : Entry) :
    (Sketch.addEntry unit unitIndex (sketch, currentUnit) entry).1.Shows
        (Draft.addEntry unit unitIndex (draft, currentUnit) entry).1 ∧
      (Sketch.addEntry unit unitIndex (sketch, currentUnit) entry).2 =
        (Draft.addEntry unit unitIndex (draft, currentUnit) entry).2 := by
  obtain ⟨outline, dropped⟩ := sketch
  obtain ⟨rfl, left⟩ := same
  have nested : entry.parent.any dropped.contains = entry.parent.any draft.dropped.contains := by
    rw [show dropped.contains = draft.dropped.contains from funext left]
  have place : (entry.parent.bind draft.outline.search?).getD
      (Draft.fallbackParent entry currentUnit) =
        Draft.parentOf draft.outline entry currentUnit := by
    rw [valid.search?_eq]
    rfl
  simp only [Sketch.addEntry, nested, place]
  cases outside : entry.parent.any draft.dropped.contains with
  | true =>
    rw [Draft.addEntry_nested outside]
    exact ⟨Shows.drop ⟨rfl, left⟩ entry, rfl⟩
  | false =>
    rw [if_neg Bool.false_ne_true]
    cases known : Draft.roleUnder? draft.outline entry
        (Draft.parentOf draft.outline entry currentUnit) with
    | none =>
      rw [Draft.addEntry_unknown outside (Draft.ofTag?_of_roleUnder? known)]
      exact ⟨(Shows.warn ⟨rfl, left⟩ _).drop entry, rfl⟩
    | some role =>
      rw [Draft.addEntry_known unit unitIndex outside rfl known]
      exact ⟨⟨rfl, left⟩, rfl⟩

theorem shows_ofUnits (input : String) (units : List UnitRecord) :
    (ofUnits input units).Shows (Draft.ofUnits input units) := by
  have inStep : Draft.InStep units (fun sketch : Sketch => (sketch, none)) addEntry Prod.fst
      (fun _ draft sketch => sketch.Shows draft)
      (fun _ _ state other => other.1.Shows state.1 ∧ other.2 = state.2) :=
    { entered := fun _ same => ⟨same, rfl⟩
      stepped := by
        rintro unit position done rest entry ⟨draft, _⟩ ⟨sketch, currentUnit⟩ - - sound -
          ⟨same, rfl⟩
        exact same.addEntry sound.valid unit position currentUnit entry
      left := And.left }
  have nothing : Shows ⟨.empty input, []⟩ (.start input) :=
    ⟨rfl, fun offset => by simp [Draft.start]⟩
  have all := (inStep.run _ _ (.empty units input) nothing).2
  exact ⟨all.outline.trans (Draft.outline_ofUnits input units).symm,
    Draft.dropped_ofUnits input units ▸ all.dropped⟩

end Sketch

/-- The index makes no difference to what is linked. -/
theorem Outline.link_ofUnits_eq_searchLinks (input : String) (units : List UnitRecord) :
    (Draft.ofUnits input units).outline.link =
      (Sketch.ofUnits input units).outline.searchLinks := by
  have same := (Sketch.shows_ofUnits input units).outline
  have valid := (Draft.sound_ofUnits input units).valid
  rw [same, valid.searchLinks_eq]

/-- The finished outline of one input file, without the index. -/
def Outline.buildBySearch (input : String) (units : List UnitRecord) (void : String) : Outline :=
  ((((Sketch.ofUnits input units).outline.searchLinks.spellNames
    void).qualifyNames).completeDefinitions).spreadGlobals

/-- The index makes no difference to what is built. -/
theorem Outline.build_eq_buildBySearch (input : String) (units : List UnitRecord) (void : String) :
    (Outline.build input units void).1 = Outline.buildBySearch input units void := by
  rw [buildBySearch, ← link_ofUnits_eq_searchLinks, build_fst]
  rfl

end DebugOutline
