import DebugOutline.Proofs.EntryTree

/-! Entries that stand for nothing have no influence: without them and everything nested in them,
the outline is the same in every field, and so are the warnings but for those about their tags. -/
namespace DebugOutline

open Dwarf (Entry Tag UnitRecord)

/-! ### Warnings -/

/-- Whether a warning is about a tag that stands for nothing. -/
def Warning.isUnknownTag : Warning → Bool
  | .unknownTag _ => true
  | _ => false

/-- Choosing among warnings commutes with adding one. -/
theorem Warnings.filter_add (choose : Warning → Bool) (warnings : Warnings) (warning : Warning) :
    (warnings.add warning).filter choose =
      if choose warning then Warnings.add (warnings.filter choose) warning
      else warnings.filter choose := by
  unfold Warnings.add
  by_cases chosen : choose warning = true
  · have member : warning ∈ warnings.filter choose ↔ warning ∈ warnings := by simp [chosen]
    simp only [chosen, if_true, member]
    split <;> simp [chosen]
  · rw [if_neg chosen]
    split <;> simp [chosen]

theorem Warnings.filter_foldl_add (choose : Warning → Bool) (more : List Warning)
    (warnings : Warnings) : (more.foldl Warnings.add warnings).filter choose =
      (more.filter choose).foldl Warnings.add (warnings.filter choose) := by
  induction more generalizing warnings with
  | nil => rfl
  | cons warning rest ih =>
    rw [List.foldl_cons, ih, filter_add, List.filter_cons]
    split <;> rfl

namespace Reading

variable {α β : Type} {reading : Reading α} {next : α → Reading β} {entry : Entry}

/-- Reading an entry says nothing about its tag. -/
def AcceptsTag (reading : Reading α) : Prop :=
  ∀ warning ∈ reading.warnings, warning.isUnknownTag = false

theorem acceptsTag_pure (value : α) : AcceptsTag (pure value) := by
  simp [AcceptsTag]

theorem AcceptsTag.bind (first : reading.AcceptsTag) (second : ∀ value, (next value).AcceptsTag) :
    (reading >>= next).AcceptsTag := by
  intro warning member
  rw [warnings_bind] at member
  rcases List.mem_append.mp member with before | after
  · exact first warning before
  · exact second _ warning after

theorem AcceptsTag.filter (fine : reading.AcceptsTag) :
    reading.warnings.filter Warning.isUnknownTag = [] ∧
      reading.warnings.filter (fun warning => !warning.isUnknownTag) = reading.warnings := by
  constructor
  · exact List.filter_eq_nil_iff.mpr fun warning member => by simp [fine warning member]
  · exact List.filter_eq_self.mpr fun warning member => by simp [fine warning member]

theorem acceptsTag_accepted (entry : Entry) (name : Dwarf.Attr)
    (accept : Dwarf.Value → Option α) : AcceptsTag (accepted entry name accept) := by
  unfold accepted
  split
  · simp [AcceptsTag]
  · split <;> simp [AcceptsTag, Warning.isUnknownTag]

theorem acceptsTag_flag (entry : Entry) (name : Dwarf.Attr) : AcceptsTag (flag entry name) :=
  (acceptsTag_accepted entry name _).bind fun _ => acceptsTag_pure _

theorem acceptsTag_firstReference (entry : Entry) (names : List Dwarf.Attr) :
    AcceptsTag (firstReference entry names) := by
  induction names with
  | nil => exact acceptsTag_pure _
  | cons name rest ih =>
    refine (acceptsTag_accepted entry name _).bind fun found => ?_
    cases found with
    | none => exact ih
    | some offset => exact acceptsTag_pure _

theorem acceptsTag_access (entry : Entry) : AcceptsTag (access entry) :=
  (acceptsTag_accepted entry _ _).bind fun _ => acceptsTag_pure _

theorem acceptsTag_function (entry : Entry) : AcceptsTag (function entry) := by
  unfold function
  refine (acceptsTag_accepted entry _ _).bind fun inlineCode => ?_
  refine (acceptsTag_flag entry _).bind fun isDeclaration => ?_
  split
  · exact (acceptsTag_pure _).bind fun _ => acceptsTag_pure _
  · exact (acceptsTag_flag entry _).bind fun _ => acceptsTag_pure _

theorem acceptsTag_templateArgument (entry : Entry) : AcceptsTag (templateArgument entry) := by
  unfold templateArgument
  split
  · exact (acceptsTag_accepted entry _ _).bind fun _ => acceptsTag_pure _
  · exact (acceptsTag_accepted entry _ _).bind fun _ => acceptsTag_pure _
  · exact acceptsTag_pure _
  · exact acceptsTag_pure _

theorem acceptsTag_bounds (entry : Entry) : AcceptsTag (bounds entry) := by
  unfold bounds
  refine (acceptsTag_accepted entry _ _).bind fun lower => ?_
  refine (acceptsTag_accepted entry _ _).bind fun count => ?_
  exact (acceptsTag_accepted entry _ _).bind fun upper => acceptsTag_pure _

theorem acceptsTag_detail (entry : Entry) (kind : Kind) (inAggregate : Bool) :
    AcceptsTag (detail entry kind inAggregate) := by
  unfold detail
  split
  · exact (acceptsTag_function entry).bind fun _ => acceptsTag_pure _
  · exact (acceptsTag_flag entry _).bind fun _ => acceptsTag_pure _
  · refine (acceptsTag_access entry).bind fun access => ?_
    split
    · exact (acceptsTag_flag entry _).bind fun _ => acceptsTag_pure _
    · exact (acceptsTag_pure _).bind fun _ => acceptsTag_pure _
  · split
    · exact (acceptsTag_access entry).bind fun _ => acceptsTag_pure _
    · exact acceptsTag_pure _
  · exact acceptsTag_pure _
  · exact (acceptsTag_templateArgument entry).bind fun _ => acceptsTag_pure _
  · exact acceptsTag_pure _
  · exact acceptsTag_pure _
  · exact (acceptsTag_accepted entry _ _).bind fun _ => acceptsTag_pure _
  · exact acceptsTag_pure _

theorem acceptsTag_node (unit : UnitRecord) (unitIndex : Nat) (entry : Entry) (role : Role)
    (inAggregate : Bool) : AcceptsTag (node unit unitIndex entry role inAggregate) := by
  unfold node
  refine (acceptsTag_accepted entry _ _).bind fun line => ?_
  refine (acceptsTag_accepted entry _ _).bind fun file => ?_
  refine (acceptsTag_flag entry _).bind fun isGenerated => ?_
  refine (acceptsTag_firstReference entry _).bind fun typeOffset => ?_
  refine (acceptsTag_firstReference entry _).bind fun referenceOffset => ?_
  cases role with
  | object kind =>
    exact (acceptsTag_detail entry kind inAggregate).bind fun _ => acceptsTag_pure _
  | auxiliary form =>
    cases form with
    | subrange => exact (acceptsTag_bounds entry).bind fun _ => acceptsTag_pure _
    | enumerator => exact (acceptsTag_accepted entry _ _).bind fun _ => acceptsTag_pure _
    | inheritance => exact (acceptsTag_access entry).bind fun _ => acceptsTag_pure _
    | _ => exact acceptsTag_pure _

end Reading

/-! ### The entries that are left out -/

namespace Item

variable {items done rest : List Item} {item : Item}

/-- An entry of an unknown tag that nothing unknown surrounds. -/
def IsOutermostUnknown (items : List Item) (item : Item) : Prop :=
  Role.ofTag? item.entry.tag = none ∧
    ∀ outer, Relation.TransGen (IsParent items) item outer → (Role.ofTag? outer.entry.tag).isSome

theorem isOutermostUnknown_iff : IsOutermostUnknown items item ↔
    Role.ofTag? item.entry.tag = none ∧
      ∀ outer, IsParent items item outer → IsKept items outer := by
  unfold IsOutermostUnknown
  refine and_congr_right fun _ => ⟨?_, ?_⟩
  · intro known outer parent top path
    exact known top (.head' parent path)
  · intro kept top path
    obtain ⟨outer, parent, path⟩ := Relation.TransGen.head'_iff.mp path
    exact kept outer parent top path

theorem IsOutermostUnknown.not_isKept (unknown : IsOutermostUnknown items item) :
    ¬ IsKept items item := by
  intro isKept
  simpa [unknown.1] using (isKept_iff.mp isKept).1

open scoped Classical in
/-- The unknown tags of the entries of `part` that nothing unknown surrounds, each where it comes
first. -/
noncomputable def unknownTags (items part : List Item) : List Tag :=
  ((part.filter fun item => IsOutermostUnknown items item).map (·.entry.tag)).eraseDups

theorem unknownTags_append_of_not (other : ¬ IsOutermostUnknown items item) :
    unknownTags items (done ++ [item]) = unknownTags items done := by
  simp [unknownTags, other]

/-- A tag is only new the first time. -/
theorem unknownTags_append (unknown : IsOutermostUnknown items item) :
    unknownTags items (done ++ [item]) = unknownTags items done ++
      if item.entry.tag ∈ unknownTags items done then [] else [item.entry.tag] := by
  unfold unknownTags
  rw [List.filter_append, List.map_append, List.eraseDups_append]
  simp only [unknown, List.filter_cons, decide_true, if_true, List.filter_nil, List.map_cons,
    List.map_nil, List.mem_eraseDups]
  have alone : [item.entry.tag].eraseDups = [item.entry.tag] := by
    simp [List.eraseDups_cons]
  split <;> rename_i member <;> simp [List.removeAll, member, alone]

open scoped Classical in
/-- A unit without the entries that are left out. -/
noncomputable def pruneUnit (items : List Item) (unit : UnitRecord) (position : Nat) :
    UnitRecord :=
  { unit with entries := unit.entries.filter fun entry => IsKept items ⟨entry, position⟩ }

/-- All units without the entries that are left out. -/
noncomputable def prune (units : List UnitRecord) : List UnitRecord :=
  units.zipIdx.map fun indexed => pruneUnit (ofUnits units) indexed.1 indexed.2

end Item

namespace Draft

open Item (IsKept IsOutermostUnknown unknownTags pruneUnit prune)

variable {items done rest : List Item} {full pruned : Draft} {unit : UnitRecord}
  {unitIndex : Nat} {entry : Entry} {state other : Draft × Option NodeId}

theorem warn_filter (draft : Draft) (more : List Warning) (choose : Warning → Bool) :
    (draft.warn more).warnings.filter choose =
      (more.filter choose).foldl Warnings.add (draft.warnings.filter choose) :=
  Warnings.filter_foldl_add choose more draft.warnings

/-- What one run makes of all entries so far and another of those that are not left out: the same
outline and the same warnings, but for those about unknown tags. -/
structure Agree (items done : List Item) (full pruned : Draft) : Prop where
  outline : pruned.outline = full.outline
  dropped : ∀ offset, pruned.dropped.contains offset = false
  warnings : pruned.warnings = full.warnings.filter fun warning => !warning.isUnknownTag
  unknown : full.warnings.filter Warning.isUnknownTag =
    (unknownTags items done).map Warning.unknownTag

namespace Agree

/-- An entry that is left out only leaves a warning, if nothing unknown surrounds it. -/
theorem leaveOut (agree : Agree items done state.1 pruned) (mirrors : Mirrors items done state.1)
    (ordered : Item.InOrder items) (split : items = done ++ ⟨entry, unitIndex⟩ :: rest)
    (left : ¬ IsKept items ⟨entry, unitIndex⟩) :
    Agree items (done ++ [⟨entry, unitIndex⟩]) (addEntry unit unitIndex state entry).1 pruned ∧
      (addEntry unit unitIndex state entry).2 = state.2 := by
  obtain ⟨draft, currentUnit⟩ := state
  have nested := mirrors.nested_iff ordered split
  by_cases inner : entry.parent.any draft.dropped.contains = true
  · obtain ⟨outer, parent, out⟩ := nested.mp inner
    have inside : ¬ IsOutermostUnknown items ⟨entry, unitIndex⟩ :=
      fun unknown => out ((Item.isOutermostUnknown_iff.mp unknown).2 outer parent)
    rw [addEntry_nested inner]
    refine ⟨⟨agree.outline, agree.dropped, agree.warnings, ?_⟩, rfl⟩
    rw [Item.unknownTags_append_of_not inside]
    exact agree.unknown
  · have outside (outer : Item) (parent : Item.IsParent items ⟨entry, unitIndex⟩ outer) :
        IsKept items outer := by
      by_contra out
      exact inner (nested.mpr ⟨outer, parent, out⟩)
    have unknown : Role.ofTag? entry.tag = none := by
      by_contra known
      refine left (Item.isKept_iff.mpr ⟨?_, outside⟩)
      exact Option.isSome_iff_ne_none.mpr known
    have outermost : IsOutermostUnknown items ⟨entry, unitIndex⟩ :=
      Item.isOutermostUnknown_iff.mpr ⟨unknown, outside⟩
    rw [addEntry_unknown (by simpa using inner) unknown]
    refine ⟨⟨agree.outline, agree.dropped, ?_, ?_⟩, rfl⟩
    · rw [drop, warn_filter]
      exact agree.warnings
    · rw [drop, warn_filter, Item.unknownTags_append outermost]
      simp only [Warning.isUnknownTag, List.filter_cons, if_true, List.filter_nil,
        List.foldl_cons, List.foldl_nil, agree.unknown, Warnings.add]
      by_cases member : entry.tag ∈ unknownTags items done <;> simp [member]

/-- An entry that is kept is placed alike by both runs, and nothing is said about its tag. -/
theorem place (agree : Agree items done state.1 other.1) (same : other.2 = state.2)
    (mirrors : Mirrors items done state.1)
    (ordered : Item.InOrder items) (split : items = done ++ ⟨entry, unitIndex⟩ :: rest)
    (isKept : IsKept items ⟨entry, unitIndex⟩) :
    Agree items (done ++ [⟨entry, unitIndex⟩]) (addEntry unit unitIndex state entry).1
        (addEntry unit unitIndex other entry).1 ∧
      (addEntry unit unitIndex other entry).2 = (addEntry unit unitIndex state entry).2 := by
  obtain ⟨draft, currentUnit⟩ := state
  obtain ⟨⟨outline, warnings, dropped⟩, _⟩ := other
  cases same
  cases agree.outline
  have nested := mirrors.nested_iff ordered split
  obtain ⟨known, kept⟩ := Item.isKept_iff.mp isKept
  have outside : entry.parent.any draft.dropped.contains = false := by
    by_contra inner
    obtain ⟨outer, parent, out⟩ := nested.mp (by simpa using inner)
    exact out (kept outer parent)
  have alsoOutside : entry.parent.any dropped.contains = false := by
    cases entry.parent with
    | none => rfl
    | some offset => exact agree.dropped offset
  rw [← roleUnder?_isSome draft.outline entry (parentOf draft.outline entry currentUnit)] at known
  obtain ⟨role, plays⟩ := Option.isSome_iff_exists.mp known
  have fine := Reading.acceptsTag_node unit unitIndex entry role
    (draft.outline.node (parentOf draft.outline entry currentUnit)).kind.isAggregate
  have notOutermost : ¬ IsOutermostUnknown items ⟨entry, unitIndex⟩ :=
    fun unknown => unknown.not_isKept isKept
  have also : addEntry unit unitIndex (⟨draft.outline, warnings, dropped⟩, currentUnit) entry = _ :=
    addEntry_known unit unitIndex alsoOutside rfl plays
  dsimp only
  rw [addEntry_known unit unitIndex outside rfl plays, also]
  refine ⟨⟨rfl, agree.dropped, ?_, ?_⟩, rfl⟩
  · rw [warn_filter, fine.filter.2, ← agree.warnings]
    rfl
  · rw [warn_filter, fine.filter.1, Item.unknownTags_append_of_not notOutermost]
    exact agree.unknown

/-- One more entry, which the other run meets only if it is kept. -/
theorem addEntry (agree : Agree items done state.1 other.1) (same : other.2 = state.2)
    (mirrors : Mirrors items done state.1) (ordered : Item.InOrder items)
    (split : items = done ++ ⟨entry, unitIndex⟩ :: rest) {next : Draft × Option NodeId}
    (met : IsKept items ⟨entry, unitIndex⟩ → next = Draft.addEntry unit unitIndex other entry)
    (missed : ¬ IsKept items ⟨entry, unitIndex⟩ → next = other) :
    Agree items (done ++ [⟨entry, unitIndex⟩]) (Draft.addEntry unit unitIndex state entry).1
        next.1 ∧
      next.2 = (Draft.addEntry unit unitIndex state entry).2 := by
  by_cases isKept : IsKept items ⟨entry, unitIndex⟩
  · rw [met isKept]
    exact agree.place same mirrors ordered split isKept
  · obtain ⟨out, unit⟩ := agree.leaveOut mirrors ordered split isKept
    rw [missed isKept]
    exact ⟨out, same.trans unit.symm⟩

theorem warn (agree : Agree items done full pruned) {warnings : List Warning}
    (other : ∀ warning ∈ warnings, warning.isUnknownTag = false) :
    Agree items done (full.warn warnings) (pruned.warn warnings) where
  outline := agree.outline
  dropped := agree.dropped
  warnings := by
    have kept : (warnings.filter fun warning => !warning.isUnknownTag) = warnings :=
      List.filter_eq_self.mpr fun warning member => by rw [other warning member, Bool.not_false]
    rw [warn_filter, ← agree.warnings, kept]
    rfl
  unknown := by
    have none : warnings.filter Warning.isUnknownTag = [] :=
      List.filter_eq_nil_iff.mpr fun warning member => by simp [other warning member]
    rw [warn_filter, ← agree.unknown, none]
    rfl

theorem warnOfNothing (agree : Agree items done full pruned) :
    Agree items done full.warnOfNothing pruned.warnOfNothing := by
  unfold Draft.warnOfNothing
  rw [agree.outline]
  split
  · exact agree.warn (by simp [Warning.isUnknownTag])
  · exact agree

end Agree

open scoped Classical in
/-- Going over what is left of the units is going over the units and passing by what is left out. -/
theorem addUnits_prune (draft : Draft) (units : List UnitRecord) :
    draft.addUnits (prune units) 0 = units.zipIdx.foldl (fun draft indexed =>
      (indexed.1.entries.toList.foldl (fun state entry =>
        if IsKept (Item.ofUnits units) ⟨entry, indexed.2⟩ then
          addEntry indexed.1 indexed.2 state entry
        else state) (draft, none)).1) draft := by
  have positions : (prune units).zipIdx = units.zipIdx.map fun indexed =>
      (pruneUnit (Item.ofUnits units) indexed.1 indexed.2, indexed.2) := by
    apply List.ext_getElem <;> simp [prune]
  have filtered (unit : UnitRecord) (position : Nat) (draft : Draft) :
      draft.addUnit (pruneUnit (Item.ofUnits units) unit position) position =
        ((unit.entries.toList.filter fun entry =>
          IsKept (Item.ofUnits units) ⟨entry, position⟩).foldl (addEntry unit position)
            (draft, none)).1 := by
    rw [addUnit, ← Array.foldl_toList, pruneUnit, Array.toList_filter]
    rfl
  rw [addUnits, positions, List.foldl_map]
  simp only [filtered, List.foldl_filter, decide_eq_true_eq]

/-- All units. -/
theorem agree_ofUnits (input : String) (units : List UnitRecord)
    (ordered : Item.InOrder (Item.ofUnits units)) :
    Agree (Item.ofUnits units) (Item.ofUnits units) (ofUnits input units)
      (ofUnits input (prune units)) := by
  classical
  have inStep : InStep units (fun pruned : Draft => (pruned, none))
      (fun unit position pruned entry =>
        if IsKept (Item.ofUnits units) ⟨entry, position⟩ then addEntry unit position pruned entry
        else pruned) Prod.fst
      (fun done full pruned => Agree (Item.ofUnits units) done full pruned ∧
        Mirrors (Item.ofUnits units) done full)
      (fun position done state other =>
        (Agree (Item.ofUnits units) done state.1 other.1 ∧ other.2 = state.2) ∧
          Mirrors (Item.ofUnits units) done state.1 ∧ CurrentLast position state) :=
    { entered := fun earlier both => ⟨⟨both.1, rfl⟩, both.2, both.2.currentLast_none earlier⟩
      stepped := by
        rintro unit position done rest entry state other - split sound -
          ⟨⟨agree, same⟩, mirrors, current⟩
        exact ⟨agree.addEntry same mirrors ordered split (fun isKept => if_pos isKept)
          (fun left => if_neg left), mirrors.addEntry sound.valid current ordered split⟩
      left := fun both => ⟨both.1.1, both.2.1⟩ }
  have nothing : Mirrors (Item.ofUnits units) [] (start input) := ⟨.nil, by simp [start]⟩
  have begun : Agree (Item.ofUnits units) [] (start input) (start input) :=
    ⟨rfl, by simp [start], rfl, by simp [start, unknownTags]⟩
  have all := (inStep.run _ _ (.empty units input) ⟨begun, nothing⟩).2.1
  rw [ofUnits_eq, ofUnits_eq, addUnits_prune]
  exact all.warnOfNothing

end Draft

namespace Outline

open Item (prune unknownTags)

/-- Where offsets are distinct and entries come after their parents, leaving out what stands for
nothing changes no field of the outline. Among the warnings only those about unknown tags are
missing, and they are one for each such tag that nothing unknown surrounds, where it comes first. -/
theorem build_prune (input : String) (units : List UnitRecord) (void : String)
    (ordered : Item.InOrder (Item.ofUnits units)) :
    (Outline.build input (prune units) void).1 = (Outline.build input units void).1 ∧
    (Outline.build input (prune units) void).2 =
      (Outline.build input units void).2.filter (fun warning => !warning.isUnknownTag) ∧
    (Outline.build input units void).2.filter Warning.isUnknownTag =
      (unknownTags (Item.ofUnits units) (Item.ofUnits units)).map Warning.unknownTag := by
  have agree := Draft.agree_ofUnits input units ordered
  refine ⟨?_, agree.warnings, agree.unknown⟩
  rw [build_fst, build_fst, agree.outline]

/-- A tag that stands for nothing on three entries, one of them inside another, and references to
what is left out. -/
private def oddUnits : List UnitRecord := [
  { entries := #[
      { offset := 11, tag := .compileUnit },
      { offset := 20, tag := ⟨0x4109⟩, parent := some 11 },
      { offset := 30, tag := .structureType, parent := some 20 },
      { offset := 34, tag := ⟨0x4109⟩, parent := some 30 },
      { offset := 40, tag := .variableEntry, parent := some 11,
        attributes := [⟨.type, .ref4, .reference 30⟩] }] },
  { entries := #[
      { offset := 60, tag := ⟨0x4109⟩ },
      { offset := 70, tag := .subprogram, attributes := [⟨.declLine, .string, .string "3"⟩,
        ⟨.specification, .ref4, .reference 20⟩] }] }]

theorem build_prune_odd : Item.InOrder (Item.ofUnits oddUnits) ∧
    (Outline.build "a.o" (prune oddUnits) "void").1 = (Outline.build "a.o" oddUnits "void").1 ∧
    (Outline.build "a.o" (prune oddUnits) "void").2 =
      (Outline.build "a.o" oddUnits "void").2.filter (fun warning => !warning.isUnknownTag) ∧
    (Outline.build "a.o" oddUnits "void").2.filter Warning.isUnknownTag =
      (unknownTags (Item.ofUnits oddUnits) (Item.ofUnits oddUnits)).map Warning.unknownTag :=
  have ordered : Item.InOrder (Item.ofUnits oddUnits) := ⟨by decide, by decide +kernel⟩
  ⟨ordered, build_prune "a.o" oddUnits "void" ordered⟩

end Outline

end DebugOutline
