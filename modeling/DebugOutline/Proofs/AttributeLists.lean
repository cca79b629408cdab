import DebugOutline.Proofs.EntryTree
import DebugOutline.Proofs.Searching
import DebugOutline.Proofs.Sorting
import DebugOutline.Render.Yaml

/-! The lists behind attributes, of enumerators and of bases. They are kept among the children of an
object and sorted along with them, so that they come out in the order of the key, whatever order
they were recorded in. Text and document run through the lists as they stand. -/
namespace DebugOutline

open Dwarf (Entry UnitRecord)

/-! ### Sorting a part of a list -/

section

variable {le : α → α → Bool} (trans : ∀ a b c, le a b = true → le b c = true → le a c = true)
  (total : ∀ a b, (le a b || le b a) = true)
include trans total

/-- What is in order falls into the items strictly before another one and the rest, and between the
two is where that one goes. -/
private theorem mergeSort_parts (a : α) (rest : List α) :
    let before := (rest.mergeSort le).filter fun b => !le a b
    let behind := (rest.mergeSort le).filter (le a)
    rest.mergeSort le = before ++ behind ∧ (a :: rest).mergeSort le = before ++ a :: behind := by
  obtain ⟨front, back, whole, others, strict⟩ := List.mergeSort_cons trans total a rest
  have sorted := List.pairwise_mergeSort trans total (a :: rest)
  rw [whole, List.pairwise_append] at sorted
  have behind := (List.pairwise_cons.mp sorted.2.1).1
  have no_front : front.filter (le a) = [] :=
    List.filter_eq_nil_iff.mpr fun b member => by simpa using strict b member
  have no_back : back.filter (fun b => !le a b) = [] :=
    List.filter_eq_nil_iff.mpr fun b member => by simp [behind b member]
  simp only [others, whole, List.filter_append, no_front, no_back, List.filter_eq_self.mpr strict,
    List.filter_eq_self.mpr behind, List.append_nil, List.nil_append, and_self]

/-- It makes no difference whether items are dropped before or after a stable sort. -/
theorem filter_mergeSort_eq (keep : α → Bool) (items : List α) :
    (items.mergeSort le).filter keep = (items.filter keep).mergeSort le := by
  induction items with
  | nil => simp
  | cons a rest ih =>
    obtain ⟨parts, inserted⟩ := mergeSort_parts trans total a (rest.filter keep)
    rw [(mergeSort_parts trans total a rest).2, List.filter_append, List.filter_cons,
      List.filter_comm, ih, List.filter_comm keep, ih]
    by_cases kept : keep a = true
    · rw [if_pos kept, List.filter_cons_of_pos kept, inserted]
    · rw [if_neg kept, List.filter_cons_of_neg kept, ← parts]

end

namespace Outline

variable {outline : Outline} {key : SortKey} {id : Nat} {form : AuxiliaryForm}

/-! ### Auxiliary children -/

theorem auxiliaryForm?_sort (outline : Outline) (key : SortKey) (id : Nat) :
    ((outline.sort key).node id).auxiliaryForm? = (outline.node id).auxiliaryForm? := by
  rw [node_sort]
  rfl

/-- The auxiliary children of a form are sorted by themselves. -/
theorem auxiliaryChildren_sort (outline : Outline) (key : SortKey) (id : Nat)
    (form : AuxiliaryForm) : (outline.sort key).auxiliaryChildren id form =
      (outline.auxiliaryChildren id form).mergeSort (outline.ordered key) := by
  simp only [auxiliaryChildren, auxiliaryForm?_sort, children_sort]
  exact filter_mergeSort_eq (ordered_trans outline key) (ordered_total outline key) _ _

/-- They stay as they are exactly if they stand in the order of the key already. -/
theorem auxiliaryChildren_sort_eq_iff :
    (outline.sort key).auxiliaryChildren id form = outline.auxiliaryChildren id form ↔
      (outline.auxiliaryChildren id form).Pairwise fun a b => outline.ordered key a b = true := by
  rw [auxiliaryChildren_sort]
  constructor
  · intro same
    rw [← same]
    exact List.pairwise_mergeSort (ordered_trans outline key) (ordered_total outline key) _
  · exact List.mergeSort_of_pairwise

/-! ### What is printed of them -/

/-- Printing runs through the auxiliary children of an object. What is printed of each of them and
around them all is the same under every key. -/
def RunsThrough (printed : Outline → List String) (outline : Outline) (id : NodeId)
    (form : AuxiliaryForm) : Prop :=
  ∃ (around : List String → List String) (item : NodeId → List String),
    printed outline = around ((outline.auxiliaryChildren id form).flatMap item) ∧
      ∀ key, printed (outline.sort key) =
        around (((outline.sort key).auxiliaryChildren id form).flatMap item)

/-- A field is the same after sorting if the children do not show in it. -/
theorem read_sort (outline : Outline) (key : SortKey) (id : Nat) (field : Node → β)
    (blind : ∀ node : Node, field node.unordered = field node) :
    field ((outline.sort key).node id) = field (outline.node id) := by
  rw [← blind, (reorders_sort outline key).fields, blind]

/-- What a type says is the same after sorting if its children do not show in it. -/
theorem elim_type?_sort (outline : Outline) (key : SortKey) (id : Nat) (missing : β)
    (field : Node → β) (blind : ∀ node : Node, field node.unordered = field node) :
    ((outline.sort key).type? id).elim missing field = (outline.type? id).elim missing field := by
  unfold type?
  rw [read_sort outline key id Node.typeId fun _ => rfl]
  cases (outline.node id).typeId with
  | none => rfl
  | some target => exact read_sort outline key target field blind

theorem runsThrough_aggregateLines (outline : Outline) (options : Options) (id : Nat) :
    RunsThrough (fun outline => (Layout.of outline options).aggregateLines id) outline id
      .inheritance := by
  let node := outline.node id
  have lines (outline : Outline) : (Layout.of outline options).aggregateLines id =
      (Text.braced (outline.node id).kind.name ++ " " ++ Text.quote (outline.node id).name) ::
        ((if (outline.node id).isTemplate then [Layout.note "Template"] else []) ++
          (outline.auxiliaryChildren id .inheritance).flatMap fun base =>
            [Layout.note ((outline.node base).access.effective
              ((outline.node id).kind == .classType) ++ " " ++
                Text.quote ((outline.type? base).elim "void" Node.name))]) := by
    rw [← List.map_eq_flatMap]
    unfold Layout.aggregateLines
    refine congrArg (_ :: _ ++ ·) (List.map_congr_left fun base _ => ?_)
    dsimp only [Layout.of]
    cases outline.type? base <;> rfl
  refine ⟨fun bases => (Text.braced node.kind.name ++ " " ++ Text.quote node.name) ::
    ((if node.isTemplate then [Layout.note "Template"] else []) ++ bases), _, lines outline,
    fun key => ?_⟩
  simp only [lines, name_sort, read_sort _ _ _ Node.kind fun _ => rfl,
    read_sort _ _ _ Node.isTemplate fun _ => rfl, read_sort _ _ _ Node.access fun _ => rfl,
    elim_type?_sort _ _ _ _ Node.name fun _ => rfl]
  rfl

theorem runsThrough_enumLines (outline : Outline) (options : Options) (id : Nat) :
    RunsThrough (fun outline => (Layout.of outline options).enumLines id) outline id
      .enumerator := by
  let mark (outline : Outline) : String :=
    if options.shows .dwarfOffset then Layout.offsetMark ((outline.type? id).elim 0 Node.offset)
    else ""
  let first (outline : Outline) : String :=
    Text.braced "Enum" ++ (if (outline.node id).detail = .enumType true then " class" else "") ++
      " " ++ Text.quote (outline.node id).name ++ (outline.type? id).elim "" fun type =>
        if type.name = (outline.node id).name then ""
        else " -> " ++ mark outline ++ Text.quote type.name
  have lines (outline : Outline) : (Layout.of outline options).enumLines id =
      first outline :: (outline.auxiliaryChildren id .enumerator).flatMap fun enumerator =>
        [Layout.note (Text.quote (outline.node enumerator).name ++ " = " ++
          Layout.enumeratorValue (outline.node enumerator) ++ if options.shows .dwarfOffset then
            " " ++ Layout.offsetMark (outline.node enumerator).offset else "")] := by
    rw [← List.map_eq_flatMap]
    unfold Layout.enumLines
    refine congrArg (· :: _) ?_
    dsimp only [Layout.of, Layout.typeMark, Layout.shows, first, mark]
    unfold type?
    cases (outline.node id).typeId <;> rfl
  have same (key : SortKey) : first (outline.sort key) = first outline := by
    have marks : mark (outline.sort key) = mark outline := by
      simp only [mark, elim_type?_sort _ _ _ _ Node.offset fun _ => rfl]
    simp only [first, marks, name_sort, read_sort _ _ _ Node.detail fun _ => rfl]
    rw [elim_type?_sort _ _ _ _ _ fun _ => rfl]
  refine ⟨(first outline :: ·), _, lines outline, fun key => ?_⟩
  simp only [lines, same, name_sort, read_sort _ _ _ Layout.enumeratorValue fun _ => rfl,
    read_sort _ _ _ Node.offset fun _ => rfl]

theorem runsThrough_classAttributes (outline : Outline) (id : Nat) :
    RunsThrough (Document.classAttributes · id) outline id .inheritance := by
  have lines (outline : Outline) : Document.classAttributes outline id =
      ("  is_template: " ++ Scalar.bool (outline.node id).isTemplate) ::
        Document.listOf "  inherits_from:"
          ((outline.auxiliaryChildren id .inheritance).flatMap fun base =>
            ["    - parent: " ++
              Scalar.quote ((outline.type? base).elim "void" Node.qualifiedName),
              "      access_specifier: \"" ++ (outline.node base).access.effective
                ((outline.node id).kind == .classType) ++ "\""]) := by
    unfold Document.classAttributes
    refine congrArg (_ :: Document.listOf _ ·) (List.flatMap_congr fun base _ => ?_)
    cases outline.type? base <;> rfl
  refine ⟨fun bases => ("  is_template: " ++ Scalar.bool (outline.node id).isTemplate) ::
    Document.listOf "  inherits_from:" bases, _, lines outline, fun key => ?_⟩
  simp only [lines, read_sort _ _ _ Node.kind fun _ => rfl,
    read_sort _ _ _ Node.isTemplate fun _ => rfl, read_sort _ _ _ Node.access fun _ => rfl,
    elim_type?_sort _ _ _ _ Node.qualifiedName fun _ => rfl]

theorem runsThrough_enumAttributes (outline : Outline) (id : Nat) (isClass : Bool) :
    RunsThrough (Document.enumAttributes · id isClass) outline id .enumerator := by
  refine ⟨fun items => ("  class: " ++ Scalar.bool isClass) ::
    Document.listOf "  enumerators:" items, _, rfl, fun key => ?_⟩
  unfold Document.enumAttributes
  simp only [name_sort, read_sort _ _ _ Layout.enumeratorValue fun _ => rfl]

/-- The offsets of all objects that stand for entries, in order. -/
def offsets (outline : Outline) : List UInt64 :=
  outline.objects.map fun id => (outline.node id).offset

end Outline

/-! ### Offsets in the order of the entries -/

namespace Draft

variable {units : List UnitRecord} {unit : UnitRecord} {entry : Entry} {role : Role}
  {parent unitIndex : Nat} {before after : Outline} {state : Draft × Option NodeId}

theorem Placed.offsets (placed : Placed unit unitIndex entry role parent before after)
    (notRow : role.kind ≠ .codeLine) (inside : 0 < before.size) :
    after.offsets = before.offsets ++ [entry.offset] := by
  obtain ⟨described, isOf, same⟩ := placed.newest
  have newest : (after.node before.size).offset = entry.offset := by
    rw [same]
    exact isOf.offset
  have older : before.objects.map (fun id => (after.node id).offset) = before.offsets :=
    List.map_congr_left fun id listed =>
      placed.read Node.offset (fun _ => rfl) (Outline.mem_objects.mp listed).1
  rw [Outline.offsets, placed.objects notRow inside, List.map_append, older, List.map_singleton,
    newest]

/-- Each entry gives one object at most, behind those before it. -/
theorem offsets_addEntry (sound : Sound units state.1.outline) (current : CurrentInside state)
    {earlier : List UInt64} (sublist : state.1.outline.offsets.Sublist earlier) :
    (addEntry unit unitIndex state entry).1.outline.offsets.Sublist (earlier ++ [entry.offset]) := by
  have skipped := sublist.trans (List.sublist_append_left earlier [entry.offset])
  rcases addEntry_cases unit unitIndex entry sound.valid current with
    ⟨-, same⟩ | ⟨-, -, same⟩ | ⟨-, -, role, notRow, -, next, warnings, same, placed⟩
  · rw [same]
    exact skipped
  · rw [same]
    exact skipped
  · rw [same, placed.offsets notRow sound.valid.root_present]
    exact sublist.append_right _

theorem offsets_ofUnits (input : String) (units : List UnitRecord) :
    (ofUnits input units).outline.offsets.Sublist
      ((Item.ofUnits units).map (·.entry.offset)) := by
  have inStep : InStep units (id : Unit → Unit) (fun _ _ _ _ => ()) id
      (fun done draft _ => draft.outline.offsets.Sublist (done.map (·.entry.offset)))
      (fun _ done state _ => state.1.outline.offsets.Sublist (done.map (·.entry.offset))) :=
    { entered := fun _ sublist => sublist
      stepped := fun _ _ sound current sublist => by
        simpa using offsets_addEntry sound current sublist
      left := fun sublist => sublist }
  rw [outline_ofUnits]
  exact (inStep.run (start input) () (.empty units input) (List.nil_sublist _)).2

end Draft

namespace Outline

/-- Where the entries come with ascending offsets, so do the objects. -/
theorem offset_lt_of_lt (input : String) (units : List UnitRecord) (void : String) {a b : NodeId}
    (ascending : ((Item.ofUnits units).map (·.entry.offset)).Pairwise (· < ·))
    (first : a ∈ (Outline.build input units void).1.objects)
    (second : b ∈ (Outline.build input units void).1.objects) (less : a < b) :
    ((Outline.build input units void).1.node a).offset <
      ((Outline.build input units void).1.node b).offset := by
  have kept := (keeps_finish (Draft.ofUnits input units).outline void).skeleton
  rw [← build_fst] at kept
  rw [kept.objects] at first second
  rw [kept.offset, kept.offset]
  have offsets := List.pairwise_map.mp (ascending.sublist (Draft.offsets_ofUnits input units))
  have numbers : (Draft.ofUnits input units).outline.objects.Pairwise (· < ·) :=
    List.pairwise_lt_range.sublist List.filter_sublist
  generalize (Draft.ofUnits input units).outline = outline at *
  have forward := offsets.imp (S := fun a b => a < b → (outline.node a).offset <
    (outline.node b).offset) fun smaller _ => smaller
  exact forward.forall_of_forall_of_flip (fun id _ self => absurd self (Nat.lt_irrefl id))
    (numbers.imp fun smaller larger => absurd larger (Nat.lt_asymm smaller)) first second less

/-- Sorting arranges the auxiliary children of an object, of each form by themselves, in the order
of the key, and text and document list them in that order. So they stay as they were recorded
exactly if that is the order of the key already, as it is for offsets wherever the entries come with
ascending ones. -/
theorem auxiliaryChildren_sort_build (input : String) (units : List UnitRecord) (void : String)
    (id : NodeId) :
    let outline := (Outline.build input units void).1
    (∀ form,
      let listed := outline.auxiliaryChildren id form
      listed.Pairwise (· < ·) ∧
        (∀ key, (outline.sort key).auxiliaryChildren id form =
          listed.mergeSort (outline.ordered key)) ∧
        (∀ key, (outline.sort key).auxiliaryChildren id form = listed ↔
          listed.Pairwise fun a b => outline.ordered key a b = true) ∧
        (((Item.ofUnits units).map (·.entry.offset)).Pairwise (· < ·) →
          (outline.sort .offset).auxiliaryChildren id form = listed)) ∧
      (∀ options,
        RunsThrough (fun outline => (Layout.of outline options).enumLines id) outline id
          .enumerator ∧
        RunsThrough (fun outline => (Layout.of outline options).aggregateLines id) outline id
          .inheritance) ∧
      (∀ isClass, RunsThrough (Document.enumAttributes · id isClass) outline id .enumerator) ∧
      RunsThrough (Document.classAttributes · id) outline id .inheritance := by
  have kept := (keeps_finish (Draft.ofUnits input units).outline void).skeleton
  rw [← build_fst] at kept
  have recorded := (Draft.sound_ofUnits input units).ascending id
  rw [← kept.children] at recorded
  have valid := WellFormed.build input units void
  have later := @offset_lt_of_lt input units void
  generalize (Outline.build input units void).1 = outline at *
  refine ⟨fun form => ⟨recorded.sublist List.filter_sublist, fun key =>
      auxiliaryChildren_sort outline key id form, fun key => auxiliaryChildren_sort_eq_iff,
      fun ascending => auxiliaryChildren_sort_eq_iff.mpr ?_⟩,
    fun options => ⟨runsThrough_enumLines outline options id,
      runsThrough_aggregateLines outline options id⟩,
    runsThrough_enumAttributes outline id, runsThrough_classAttributes outline id⟩
  have listed (child : NodeId) (member : child ∈ outline.auxiliaryChildren id form) :
      child ∈ outline.objects := by
    obtain ⟨named, notRow⟩ := valid.mem_children.mp (List.mem_filter.mp member).1
    obtain ⟨inside, notRoot, -⟩ := valid.of_parent named
    exact mem_objects.mpr ⟨inside, notRoot, notRow⟩
  refine (recorded.sublist List.filter_sublist).imp_of_mem fun {a b} first second less => ?_
  have smaller := later ascending (listed a first) (listed b second) less
  exact Ordering.isLE_iff_ne_gt.mpr (by
    rw [Node.compareBy, Node.compareOffset, Std.compare_eq_lt.mpr smaller]
    decide)

/-- An enumeration of three colors, which are recorded in another order than that of their names. -/
private def colorUnit : UnitRecord where
  entries := #[
    { offset := 11, tag := .compileUnit },
    { offset := 20, tag := .enumerationType, parent := some 11,
      attributes := [⟨.name, .string, .string "Color"⟩] },
    { offset := 24, tag := .enumerator, parent := some 20,
      attributes := [⟨.name, .string, .string "Red"⟩, ⟨.constValue, .sdata, .signed 0⟩] },
    { offset := 28, tag := .enumerator, parent := some 20,
      attributes := [⟨.name, .string, .string "Green"⟩, ⟨.constValue, .sdata, .signed 1⟩] },
    { offset := 32, tag := .enumerator, parent := some 20,
      attributes := [⟨.name, .string, .string "Blue"⟩, ⟨.constValue, .sdata, .signed 2⟩] }]

theorem auxiliaryChildren_sort_colors :
    let outline := (Outline.build "a.o" [colorUnit] "void").1
    outline.auxiliaryChildren 2 .enumerator = [3, 4, 5] ∧
      (outline.sort .offset).auxiliaryChildren 2 .enumerator = [3, 4, 5] := by
  have recorded : (Outline.build "a.o" [colorUnit] "void").1.auxiliaryChildren 2 .enumerator =
      [3, 4, 5] := by
    rw [build_eq_buildBySearch]
    decide +kernel
  have kept := ((auxiliaryChildren_sort_build "a.o" [colorUnit] "void" 2).1 .enumerator).2.2.2
    (by decide +kernel)
  exact ⟨recorded, kept.trans recorded⟩

/-- Enumerators without a line are put in the order of their names. -/
theorem enumerators_reordered : ¬ ∀ (input : String) (units : List UnitRecord) (void : String)
    (key : SortKey) (id : NodeId) (form : AuxiliaryForm),
      let outline := (Outline.build input units void).1
      (outline.sort key).auxiliaryChildren id form = outline.auxiliaryChildren id form := by
  intro kept
  have same := auxiliaryChildren_sort_eq_iff.mp
    (kept "a.o" [colorUnit] "void" .line 2 .enumerator)
  rw [build_eq_buildBySearch] at same
  revert same
  decide +kernel

end Outline

end DebugOutline
