import DebugOutline.Proofs.Origin
import DebugOutline.Proofs.Selected
import DebugOutline.Tally

/-! What the table at the end adds up to. Its rows count every kind but the input file and the
auxiliary objects, so they share the listed objects out among them; and nothing is selected twice or
selected that they do not count. -/
namespace DebugOutline

open Dwarf (Entry UnitRecord)

/-! ### Kinds -/

/-- The rows are for all kinds but two. -/
theorem Kind.mem_tallied_iff (kind : Kind) :
    kind ∈ tallied ↔ kind ≠ .inputFile ∧ kind ≠ .auxiliary := by
  cases kind <;> decide

/-- Counts of different kinds add up to the count of all these kinds together. -/
theorem Kind.sum_countP (kindOf : α → Kind) {kinds : List Kind} (distinct : kinds.Nodup)
    (items : List α) : (kinds.map fun kind => items.countP fun item => kindOf item == kind).sum =
      items.countP fun item => kindOf item ∈ kinds := by
  induction kinds with
  | nil => simp
  | cons kind rest ih =>
    obtain ⟨fresh, distinct⟩ := List.nodup_cons.mp distinct
    rw [List.map_cons, List.sum_cons, ih distinct]
    clear ih
    induction items with
    | nil => rfl
    | cons item items ih =>
      rw [List.countP_cons, List.countP_cons, List.countP_cons, ← ih]
      by_cases here : kindOf item = kind
      · simp only [here, fresh, beq_self_eq_true, List.mem_cons_self, decide_true, decide_false]
        simp only [if_true, Bool.false_eq_true, if_false]
        omega
      · simp only [List.mem_cons, here, beq_eq_false_iff_ne.mpr here, false_or,
          Bool.false_eq_true, if_false]
        omega

namespace Outline

/-- Object 0 alone is an input file. -/
def FileFirst (outline : Outline) : Prop :=
  ∀ id < outline.size, (outline.node id).kind = .inputFile ↔ id = root

theorem FileFirst.of_keeps {before after : Outline} (first : before.FileFirst)
    (kept : Keeps Node.skeleton before after) : after.FileFirst := by
  intro id inside
  rw [kept.kind]
  exact first id (kept.size ▸ inside)

end Outline

/-! ### The input file -/

namespace Draft

variable {units : List UnitRecord} {unit : UnitRecord} {unitIndex : Nat} {entry : Entry}
  {role : Role} {parent : Nat} {before after : Outline}

theorem fileFirst_place (first : before.FileFirst) (present : 0 < before.size)
    (described : role.kind ≠ .inputFile)
    (placed : Placed unit unitIndex entry role parent before after) : after.FileFirst := by
  intro id inside
  by_cases isRoot : id = Outline.root
  · subst isRoot
    have kept : (after.node Outline.root).kind = (before.node Outline.root).kind :=
      placed.read Node.kind (fun _ => rfl) present
    rw [kept]
    exact first Outline.root present
  · refine iff_of_false ?_ isRoot
    rcases placed.cases id with old | new | ⟨row, -, level, same⟩ | none
    · rw [placed.read Node.kind (fun _ => rfl) old]
      exact fun file => isRoot ((first id old).mp file)
    · rw [new, placed.kind_newest]
      exact described
    · rw [same]
      nofun
    · obtain ⟨owner, -, named⟩ := placed.valid.parent_earlier id inside isRoot
      rw [none] at named
      cases named

theorem fileFirst_addEntry {state : Draft × Option NodeId}
    (first : state.1.outline.FileFirst) (sound : Sound units state.1.outline)
    (current : CurrentInside state) :
    (addEntry unit unitIndex state entry).1.outline.FileFirst := by
  obtain ⟨draft, currentUnit⟩ := state
  cases nested : entry.parent.any draft.dropped.contains with
  | true =>
    rw [addEntry_nested nested]
    exact first
  | false =>
    cases known : roleUnder? draft.outline entry (parentOf draft.outline entry currentUnit) with
    | none =>
      rw [addEntry_unknown nested (ofTag?_of_roleUnder? known)]
      exact first
    | some role =>
      rw [addEntry_known unit unitIndex nested rfl known]
      obtain ⟨notRow, notFile, -⟩ := roleUnder?_kind known
      have placed := placed_place unit unitIndex entry sound.valid
        (parentOf_lt_size sound.valid current entry) notRow
      exact fileFirst_place first sound.valid.root_present notFile placed

theorem fileFirst_ofUnits (input : String) (units : List UnitRecord) :
    (ofUnits input units).outline.FileFirst := by
  rw [outline_ofUnits]
  refine (addUnits_related (fun state _ => state.1.outline.FileFirst) 0 id ?_
    (.start input) (.start input) (.empty units input) ?_).2
  · exact fun _ _ sound current first => fileFirst_addEntry first sound current
  · intro id inside
    obtain rfl : id = Outline.root := Nat.lt_one_iff.mp inside
    exact iff_of_true rfl rfl

end Draft

namespace Outline

variable {outline : Outline} {options : Options}

theorem FileFirst.build (input : String) (units : List UnitRecord) (void : String) :
    (Outline.build input units void).1.FileFirst := by
  rw [build_fst]
  exact (Draft.fileFirst_ofUnits input units).of_keeps (keeps_finish _ void).skeleton

theorem FileFirst.sort (first : outline.FileFirst) (key : SortKey) :
    (outline.sort key).FileFirst := by
  intro id inside
  rw [size_sort] at inside
  rw [node_sort]
  exact first id inside

/-! ### Objects and kinds -/

theorem toList_nodes (outline : Outline) : outline.nodes.toList = outline.ids.map outline.node := by
  refine List.ext_getElem (by simp [ids, size]) fun id inside _ => ?_
  have known : id < outline.nodes.size := by simpa using inside
  simp [ids, node, Array.getD, known]

/-- The objects of a kind, by their numbers. -/
theorem count_eq_countP_ids (outline : Outline) (kind : Kind) :
    outline.count kind = outline.ids.countP fun id => (outline.node id).kind == kind := by
  rw [count, ← Array.countP_toList, toList_nodes, List.countP_map]
  rfl

theorem FileFirst.count_inputFile (first : outline.FileFirst) (present : 0 < outline.size) :
    outline.count .inputFile = 1 := by
  have only : outline.ids.countP (fun id => (outline.node id).kind == .inputFile) =
      outline.ids.count root := by
    refine List.countP_congr fun id member => ?_
    rw [beq_iff_eq, beq_iff_eq, first id (mem_ids.mp member)]
  rw [count_eq_countP_ids, only]
  exact List.count_eq_one_of_mem List.nodup_range (mem_ids.mpr present)

/-- What is selected is an object that a row counts. -/
theorem WellFormed.of_mem_select (valid : outline.WellFormed) (first : outline.FileFirst)
    {shown : Shown} (selected : shown ∈ outline.select options) :
    shown.id ∈ outline.ids ∧ (outline.node shown.id).kind ∈ Kind.tallied := by
  obtain ⟨notRoot, inside, visible, -, -⟩ := (mem_select valid).mp selected
  obtain ⟨owner, -, named⟩ := valid.parent_earlier shown.id inside notRoot
  rw [isVisible, valid.scopes_of_parent named, List.all_cons, Bool.and_eq_true] at visible
  have listed := visible.1
  refine ⟨mem_ids.mpr inside, (Kind.mem_tallied_iff _).mpr ⟨?_, ?_⟩⟩
  · exact fun file => notRoot ((first shown.id inside).mp file)
  · intro isAuxiliary
    simp [isListed, Node.isAuxiliary, isAuxiliary] at listed

end Outline

/-! ### The table -/

namespace Tally

variable {outline : Outline} {selection : List Shown}

theorem total_eq_sum (tally : Tally) : tally.total = (tally.rows.map TallyRow.total).sum := by
  rw [total, List.sum_eq_foldl, List.foldl_map]

theorem printed_eq_sum (tally : Tally) : tally.printed = (tally.rows.map TallyRow.printed).sum := by
  rw [printed, List.sum_eq_foldl, List.foldl_map]

/-- Every selected object is printed in one row, every object in one row but for the input file and
the auxiliary ones, and no row prints more than there is. -/
structure Accounts (outline : Outline) (selection : List Shown) : Prop where
  row : ∀ row ∈ (ofSelection outline selection).rows, row.printed ≤ row.total
  printed : (ofSelection outline selection).printed = selection.length
  total : (ofSelection outline selection).total + outline.count .auxiliary + 1 = outline.size

/-- The rows share out a selection without repetition among the kinds that they count. -/
theorem accounts_of_nodup (first : outline.FileFirst) (present : 0 < outline.size)
    (distinct : (selection.map Shown.id).Nodup)
    (counted : ∀ shown ∈ selection,
      shown.id ∈ outline.ids ∧ (outline.node shown.id).kind ∈ Kind.tallied) :
    Accounts outline selection where
  row row listed := by
    obtain ⟨kind, -, rfl⟩ := List.mem_map.mp listed
    have inside : selection.map Shown.id ⊆ outline.ids := by
      intro id member
      obtain ⟨shown, selected, rfl⟩ := List.mem_map.mp member
      exact (counted shown selected).1
    have fewer := (distinct.subperm inside).countP_le fun id => (outline.node id).kind == kind
    rw [List.countP_map] at fewer
    exact fewer.trans_eq (outline.count_eq_countP_ids kind).symm
  printed := by
    have kinds : Kind.tallied.Nodup := by decide
    rw [printed_eq_sum, ofSelection, ofCounts, List.map_map]
    refine (Kind.sum_countP (fun shown : Shown => (outline.node shown.id).kind) kinds
      selection).trans (List.countP_eq_length.mpr fun shown selected => ?_)
    exact decide_eq_true (counted shown selected).2
  total := by
    -- With the two kinds that have no row, every object is of one of the kinds.
    have kinds : (.inputFile :: .auxiliary :: Kind.tallied).Nodup := by decide
    have all : ((.inputFile :: .auxiliary :: Kind.tallied).map outline.count).sum =
        outline.size := by
      rw [funext outline.count_eq_countP_ids, Kind.sum_countP _ kinds]
      refine (List.countP_eq_length.mpr fun id _ => ?_).trans List.length_range
      cases (outline.node id).kind <;> decide
    have rows : (ofSelection outline selection).total =
        (Kind.tallied.map outline.count).sum := by
      rw [total_eq_sum, ofSelection, ofCounts, List.map_map]
      rfl
    simp only [List.map_cons, List.sum_cons, first.count_inputFile present] at all
    omega

end Tally

/-- Whatever is selected of the outline of an input file, in every order, the table accounts for it
and for every object but the input file and the auxiliary ones. -/
theorem Tally.accounts_select (input : String) (units : List UnitRecord) (void : String)
    (options : Options) :
    let outline := (Outline.build input units void).1
    Accounts outline (outline.select options) ∧
      ∀ key, Accounts (outline.sort key) ((outline.sort key).select options) := by
  have accounts {outline : Outline} (valid : outline.WellFormed) (first : outline.FileFirst) :
      Accounts outline (outline.select options) :=
    accounts_of_nodup first valid.root_present (Outline.select_nodup valid options)
      fun _ selected => valid.of_mem_select first selected
  have valid := Outline.WellFormed.build input units void
  have first := Outline.FileFirst.build input units void
  exact ⟨accounts valid first, fun key => accounts (valid.sort key) (first.sort key)⟩

end DebugOutline
