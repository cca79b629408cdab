import DebugOutline.Proofs.Origin
import DebugOutline.Proofs.Searching
import DebugOutline.Proofs.Selected
import DebugOutline.Proofs.Spelled

/-! Line rows in a selection. They have no name, nothing under them and no mark of a template, so
that with their option off they are neither forced, nor context, nor chosen. What is left is a tree
filter that accepts the empty name: it selects all of them. -/
namespace DebugOutline

open Dwarf (Entry LineRow UnitRecord)

/-- An object without a name that spells none and is no template. -/
structure Node.IsBare (node : Node) : Prop where
  name : node.name = ""
  unmarked : node.isTemplate = false
  formless : node.auxiliaryForm? = none

theorem Node.ofRow_isBare (unit : UnitRecord) (unitIndex : Nat) (row : LineRow) :
    (Node.ofRow unit unitIndex row).IsBare :=
  ⟨rfl, rfl, rfl⟩

namespace Outline

variable {outline : Outline} {parent : Nat}

/-! ### Rows under construction -/

/-- Nothing stands under a line row, and no row has a name or is marked as a template. -/
structure RowsApart (outline : Outline) : Prop where
  leaf : ∀ id owner, (outline.node id).parent = some owner → (outline.node owner).kind ≠ .codeLine
  bare : ∀ id, (outline.node id).kind = .codeLine → (outline.node id).IsBare

theorem RowsApart.empty (input : String) : (Outline.empty input).RowsApart := by
  have blank (id : Nat) : ((Outline.empty input).node id).parent = none ∧
      ((Outline.empty input).node id).kind = .inputFile := by
    rcases node_empty_cases input id with same | same <;> rw [same] <;> exact ⟨rfl, rfl⟩
  exact ⟨fun id owner named => by simp [blank] at named, fun id isRow => by simp [blank] at isRow⟩

section Step

variable (apart : outline.RowsApart)
include apart

theorem RowsApart.insert (valid : outline.WellFormed) (inside : parent < outline.size)
    (notRow : (outline.node parent).kind ≠ .codeLine) {node : Node}
    (bare : node.kind = .codeLine → node.IsBare) :
    (outline.insert node parent).2.RowsApart where
  leaf id owner named := by
    by_cases added : id = outline.size
    · rw [added, node_insert_self inside] at named
      obtain rfl : parent = owner := Option.some.inj named
      rwa [(insert_keeps inside node (Nat.ne_of_lt inside)).1]
    · rw [(insert_keeps inside node added).2.1] at named
      obtain ⟨known, -, earlier⟩ := valid.of_parent named
      rw [(insert_keeps inside node (Nat.ne_of_lt (Nat.lt_trans earlier known))).1]
      exact apart.leaf id owner named
  bare id isRow := by
    rw [node_insert inside] at isRow ⊢
    split_ifs at isRow ⊢
    · exact ⟨(bare isRow).name, (bare isRow).unmarked, (bare isRow).formless⟩
    · rename_i owner
      rw [Node.adopt_kind] at isRow
      exact absurd (owner ▸ isRow) notRow
    · exact apart.bare id isRow

theorem RowsApart.markTemplate (notRow : (outline.node parent).kind ≠ .codeLine) :
    (Draft.markTemplate outline parent).RowsApart := by
  unfold Draft.markTemplate
  split
  · have marked : Keeps Node.skeleton outline
      (outline.modify parent fun owner => { owner with isTemplate := true }) := .modify _ _ rfl
    refine ⟨fun id owner named => ?_, fun id isRow => ?_⟩
    · rw [marked.kind]
      exact apart.leaf id owner (marked.parent id ▸ named)
    · rw [marked.kind] at isRow
      have other : id ≠ parent := fun same => notRow (same ▸ isRow)
      rw [node_modify, if_neg fun changed => other changed.1]
      exact apart.bare id isRow
  · exact apart

theorem RowsApart.addRows (valid : outline.WellFormed) (inside : parent < outline.size)
    (notRow : (outline.node parent).kind ≠ .codeLine) (unit : UnitRecord) (unitIndex : Nat) :
    (Draft.addRows unit unitIndex parent outline).RowsApart := by
  rw [Draft.addRows, ← Array.foldl_toList]
  refine (List.foldlRecOn (motive := fun outline : Outline => outline.RowsApart ∧
    outline.WellFormed ∧ parent < outline.size ∧ (outline.node parent).kind ≠ .codeLine)
    unit.rows.toList _ ⟨apart, valid, inside, notRow⟩ ?_).1
  rintro current ⟨apart, valid, inside, notRow⟩ row -
  refine ⟨apart.insert valid inside notRow fun _ => Node.ofRow_isBare _ _ _,
    valid.insert rfl rfl inside, ?_, ?_⟩
  · rw [size_insert]
    exact Nat.lt_succ_of_lt inside
  · rwa [(insert_keeps inside _ (Nat.ne_of_lt inside)).1]

/-- Placing an entry puts nothing under a row, since its parent is none. -/
theorem RowsApart.place (valid : outline.WellFormed) (inside : parent < outline.size)
    (notRow : (outline.node parent).kind ≠ .codeLine) (unit : UnitRecord) (unitIndex : Nat)
    (entry : Entry) {role : Role} (isObject : role.kind ≠ .codeLine) :
    (Draft.place outline unit unitIndex entry role parent).RowsApart := by
  unfold Draft.place
  dsimp only
  have isOf := Reading.node_isOf unit unitIndex entry role (outline.node parent).kind.isAggregate
  generalize (Reading.node unit unitIndex entry role
    (outline.node parent).kind.isAggregate).value = node at isOf
  have kind : node.kind ≠ .codeLine := by rwa [isOf.kind]
  have one := apart.insert valid inside notRow fun isRow => absurd isRow kind
  have under : ((outline.insert node parent).2.node parent).kind ≠ .codeLine := by
    rwa [(insert_keeps inside node (Nat.ne_of_lt inside)).1]
  unfold Draft.afterPlacing
  split
  · refine one.addRows (valid.insert isOf.children isOf.lines inside) ?_ ?_ unit unitIndex
    · rw [size_insert]
      exact Nat.lt_succ_self _
    · rwa [node_insert_self inside]
  · exact one.markTemplate under
  · exact one

end Step

end Outline

namespace Draft

open Outline (RowsApart)

variable {units : List UnitRecord} {unit : UnitRecord} {unitIndex : Nat} {entry : Entry}
  {outline : Outline} {currentUnit : Option NodeId}

/-- The index leads to no row, and neither the file nor the current unit is one. -/
theorem kind_parentOf (sound : Sound units outline)
    (current : ∀ id ∈ currentUnit, (outline.node id).kind ≠ .codeLine) (entry : Entry) :
    (outline.node (parentOf outline entry currentUnit)).kind ≠ .codeLine := by
  have file : (outline.node Outline.root).kind ≠ .codeLine := by simp [sound.file]
  unfold parentOf
  cases found : entry.parent.bind outline.find? with
  | some id =>
    obtain ⟨offset, -, hit⟩ := Option.bind_eq_some_iff.mp found
    exact (Outline.mem_objects.mp (sound.valid.find_sound hit).1).2.2
  | none =>
    rw [Option.getD_none]
    unfold fallbackParent
    split
    · exact file
    · cases currentUnit with
      | none => exact file
      | some id => exact current id rfl

theorem rowsApart_addEntry {state : Draft × Option NodeId} (sound : Sound units state.1.outline)
    (inside : CurrentInside state) (apart : state.1.outline.RowsApart)
    (current : ∀ id ∈ state.2, (state.1.outline.node id).kind ≠ .codeLine) :
    (addEntry unit unitIndex state entry).1.outline.RowsApart ∧
      ∀ id ∈ (addEntry unit unitIndex state entry).2,
        ((addEntry unit unitIndex state entry).1.outline.node id).kind ≠ .codeLine := by
  obtain ⟨draft, currentUnit⟩ := state
  cases nested : entry.parent.any draft.dropped.contains with
  | true =>
    rw [addEntry_nested nested]
    exact ⟨apart, current⟩
  | false =>
    cases known : roleUnder? draft.outline entry (parentOf draft.outline entry currentUnit) with
    | none =>
      rw [addEntry_unknown nested (ofTag?_of_roleUnder? known)]
      exact ⟨apart, current⟩
    | some role =>
      rw [addEntry_known unit unitIndex nested rfl known]
      have isObject := (roleUnder?_kind known).1
      have present := parentOf_lt_size sound.valid inside entry
      have placed := placed_place unit unitIndex entry sound.valid present isObject
      refine ⟨apart.place sound.valid present (kind_parentOf sound current entry) unit unitIndex
        entry isObject, fun id member => ?_⟩
      dsimp only at member ⊢
      split at member
      · cases member
        rwa [placed.kind_newest]
      · rw [placed.read Node.kind (fun _ => rfl) (inside id member)]
        exact current id member

theorem rowsApart_ofUnits (input : String) (units : List UnitRecord) :
    (ofUnits input units).outline.RowsApart := by
  rw [outline_ofUnits]
  refine (addUnits_related (fun state _ => state.1.outline.RowsApart ∧
    ∀ id ∈ state.2, (state.1.outline.node id).kind ≠ .codeLine) 0 (fun related => ?_) ?_
    (.start input) (.start input) (.empty units input) ?_).2.1
  · exact ⟨related.1, fun _ unset => (Option.not_mem_none _ unset).elim⟩
  · exact fun _ _ sound inside related => rowsApart_addEntry sound inside related.1 related.2
  · exact ⟨.empty input, fun _ unset => (Option.not_mem_none _ unset).elim⟩

end Draft

namespace Outline

variable {outline : Outline} {options : Options} {units : List UnitRecord} {void : String}
  {id limit depth : Nat}

/-! ### The finished outline -/

/-- No pass gives a row a name: it stands for no type, has no arguments and no declaration. -/
theorem RowsApart.finish (apart : outline.RowsApart) (sound : Draft.Sound units outline) :
    (outline.finish void).RowsApart := by
  have lasting := keeps_finish outline void
  have skeleton := lasting.skeleton
  have linked := keeps_link outline
  have spelled := keeps_spellNames outline.link void
  refine ⟨fun id owner named => ?_, fun id isRow => ?_⟩
  · rw [skeleton.parent] at named
    rw [skeleton.kind]
    exact apart.leaf id owner named
  rw [skeleton.kind] at isRow
  have bare := apart.bare id isRow
  have alone : ((outline.finish void).node id).referenceId = none := by
    have same := congrArg Prod.snd (lasting.node id)
    simp only [Node.lasting, sound.plainRows id isRow, (sound.unlinked id).2, and_self,
      if_true] at same
    split at same
    · rename_i none
      exact none.2
    · cases same
  have linkedName : (outline.link.node id).name = (outline.node id).name :=
    linked.read Node.name (·.1.name) (fun _ => rfl) id
  have form {current : Outline} (kept : Keeps linkView outline current) :
      (current.node id).auxiliaryForm? = (outline.node id).auxiliaryForm? :=
    kept.read Node.auxiliaryForm? (·.1.auxiliaryForm?) (fun _ => rfl) id
  have unspelled : Spelling.of? outline.link void id = none := by
    simp [Spelling.of?, form linked, bare.formless, Spelling.lacksArguments, linkedName, bare.name]
  constructor
  · rw [name_finish_of_alone alone, name_spellNames_of_unspelled unspelled, linkedName, bare.name]
  · rw [read_finish_of_alone alone Node.isTemplate fun _ => rfl,
      spelled.read Node.isTemplate Node.isTemplate (fun _ => rfl),
      linked.read Node.isTemplate (·.1.isTemplate) (fun _ => rfl), bare.unmarked]
  · rw [read_finish_of_alone alone Node.auxiliaryForm? fun _ => rfl,
      spelled.read Node.auxiliaryForm? Node.auxiliaryForm? (fun _ => rfl), form linked,
      bare.formless]

theorem RowsApart.build (input : String) (units : List UnitRecord) (void : String) :
    (Outline.build input units void).1.RowsApart := by
  rw [build_fst]
  exact (Draft.rowsApart_ofUnits input units).finish (Draft.sound_ofUnits input units)

/-! ### The selection -/

/-- Below an object the walk goes on in one way, whether or not the object is shown. -/
theorem exists_mem_visit_iff (outline : Outline) (options : Options)
    (context : Std.HashSet NodeId) (limit id depth : Nat) (forced : Bool) :
    ∃ further, ∀ shown : Shown, shown.id ≠ id →
      (shown ∈ outline.visit options context (limit + 1) id depth forced ↔
        ∃ child ∈ outline.visited options id,
          shown ∈ outline.visit options context limit child (depth + 1) further) := by
  have passed {shown : Shown} (other : shown.id ≠ id) : shown ≠ ⟨id, depth⟩ := by
    rintro rfl
    exact other rfl
  rw [visit]
  dsimp only
  split_ifs
  · exact ⟨true, fun shown other => by simp [passed other]⟩
  · exact ⟨false, fun shown other => by simp [passed other]⟩
  · exact ⟨true, fun shown other => by simp [passed other]⟩
  · exact ⟨forced, fun shown other => by simp [passed other]⟩
  · exact ⟨forced, fun shown other => by simp⟩

/-- A walk to another object goes through a child, one step deeper. -/
theorem exists_visited_iff (valid : outline.WellFormed) {allowed : Prop} {shown : Shown}
    {reached : NodeId → List Shown} (other : shown.id ≠ id)
    (under : ∀ child, (outline.node child).parent = some id →
      (shown ∈ reached child ↔ allowed ∧ ∃ steps,
        outline.Leads (fun _ => True) child shown.id steps ∧ shown.depth = depth + 1 + steps)) :
    (∃ child ∈ outline.visited options id, shown ∈ reached child) ↔ allowed ∧ ∃ steps,
      outline.Leads (fun _ => True) id shown.id steps ∧ shown.depth = depth + steps := by
  obtain ⟨target, height⟩ := shown
  constructor
  · rintro ⟨child, visited, member⟩
    obtain ⟨named, listed⟩ := valid.mem_visited.mp visited
    obtain ⟨accepted, steps, leads, deep⟩ := (under child named).mp member
    exact ⟨accepted, steps + 1, .down trivial named listed leads, by omega⟩
  · rintro ⟨accepted, steps, leads, deep⟩
    cases leads with
    | here => exact absurd rfl other
    | @down _ child _ steps _ named listed leads =>
      refine ⟨child, valid.mem_visited.mpr ⟨named, listed⟩, (under child named).mpr ?_⟩
      exact ⟨accepted, steps, leads, by omega⟩

section Hidden

variable (valid : outline.WellFormed) (apart : outline.RowsApart)
include valid apart

theorem visited_of_row (isRow : (outline.node id).kind = .codeLine) :
    outline.visited options id = [] := by
  refine List.eq_nil_iff_forall_not_mem.mpr fun child member => ?_
  exact apart.leaf child id (valid.mem_visited.mp member).1 isRow

/-- What is context holds something accepted without being accepted, and a row holds nothing. -/
theorem not_context_of_row (filters : Filters) (isRow : (outline.node id).kind = .codeLine) :
    (outline.context filters).contains id = false := by
  rw [← Bool.not_eq_true, contains_context valid]
  rintro ⟨-, outside, target, steps, leads, accepted⟩
  cases leads with
  | here => exact outside id (valid.mem_ancestry_self id) accepted
  | down _ named => exact apart.leaf _ id named isRow

/-- With the option off, a row is visited for nothing unless the empty name is accepted. -/
theorem visit_of_row (hidden : options.shows .codeLine = false)
    (isRow : (outline.node id).kind = .codeLine) (limit depth : Nat) (forced : Bool) :
    outline.visit options (outline.context options.filters) (limit + 1) id depth forced =
      if options.filters.acceptsTree "" then [⟨id, depth⟩] else [] := by
  have bare := apart.bare id isRow
  have chosen : (outline.node id).isChosen options = false := by
    simp [Node.isChosen, Node.showOption?, isRow, bare.unmarked, hidden, Kind.endsScopes]
  have free : outline.isForced options id = false := by simp [isForced, isRow, hidden]
  rw [visit]
  simp only [free, not_context_of_row valid apart options.filters isRow, bare.name, chosen,
    visited_of_row valid apart isRow]
  by_cases accepted : options.filters.acceptsTree "" = true
  · simp [accepted, Filters.isActive_of_acceptsTree accepted]
  · simp [accepted]

/-- With the option off, rows are selected only by a tree filter that accepts the empty name, and
then as deep as they are nested. -/
theorem mem_visit_of_row (hidden : options.shows .codeLine = false)
    (enough : outline.size ≤ id + limit) (inside : id < outline.size) (depth : Nat)
    (forced : Bool) {shown : Shown} (isRow : (outline.node shown.id).kind = .codeLine) :
    shown ∈ outline.visit options (outline.context options.filters) limit id depth forced ↔
      options.filters.acceptsTree "" = true ∧
        ∃ steps, outline.Leads (fun _ => True) id shown.id steps ∧ shown.depth = depth + steps := by
  induction limit generalizing id depth forced with
  | zero => omega
  | succ limit ih =>
    by_cases own : (outline.node id).kind = .codeLine
    · rw [visit_of_row valid apart hidden own]
      constructor
      · intro member
        split at member
        · rename_i accepted
          obtain rfl := List.mem_singleton.mp member
          exact ⟨accepted, 0, .here inside, rfl⟩
        · cases member
      · rintro ⟨accepted, steps, leads, deep⟩
        rw [if_pos accepted]
        cases leads with
        | here => exact List.mem_singleton.mpr (by cases shown; simpa using deep)
        | down _ named => exact absurd own (apart.leaf _ id named)
    · have other : shown.id ≠ id := fun same => own (same ▸ isRow)
      obtain ⟨further, below⟩ := exists_mem_visit_iff outline options
        (outline.context options.filters) limit id depth forced
      rw [below shown other]
      refine exists_visited_iff valid other fun child named => ?_
      obtain ⟨known, -, earlier⟩ := valid.of_parent named
      exact ih (by omega) known _ _

/-- The file itself is not shown, so that what stands in it is one level higher than elsewhere. -/
theorem mem_selectFrom_of_row (hidden : options.shows .codeLine = false) {start : Nat}
    (inside : start < outline.size) {shown : Shown}
    (isRow : (outline.node shown.id).kind = .codeLine) (notRoot : shown.id ≠ root) :
    shown ∈ outline.selectFrom options start ↔ options.filters.acceptsTree "" = true ∧
      ∃ steps, outline.Leads (fun _ => True) start shown.id steps ∧
        shown.depth = if start = root then steps else steps + 1 := by
  unfold selectFrom
  dsimp only
  split
  · rename_i first
    subst first
    rw [List.mem_flatMap, exists_visited_iff valid notRoot fun child named =>
      mem_visit_of_row valid apart hidden (Nat.le_add_left _ _) (valid.of_parent named).1 (0 + 1)
        false isRow]
    simp only [Nat.zero_add]
  · rw [mem_visit_of_row valid apart hidden (Nat.le_add_left _ _) inside _ _ isRow]
    simp only [Nat.add_comm 1]

end Hidden

/-- In the outline of an input file and with the option off, no filter on names brings up a row but
a tree filter that accepts the empty name. Such a filter brings up every row that a walk from the
start gets to, in an accepted tree as well as outside one. -/
theorem mem_selectFrom_row (input : String) (units : List UnitRecord) (void : String)
    (options : Options) (hidden : options.shows .codeLine = false) :
    let outline := (Outline.build input units void).1
    ∀ start < outline.size, ∀ shown : Shown, (outline.node shown.id).kind = .codeLine →
      (shown ∈ outline.selectFrom options start ↔ options.filters.acceptsTree "" = true ∧
        ∃ steps, outline.Leads (fun _ => True) start shown.id steps ∧
          shown.depth = if start = root then steps else steps + 1) := by
  intro outline start inside shown isRow
  have file : (outline.node root).kind = .inputFile := by
    unfold outline
    rw [build_fst, (keeps_finish _ void).skeleton.kind]
    exact (Draft.sound_ofUnits input units).file
  refine mem_selectFrom_of_row (.build input units void) (.build input units void) hidden inside
    isRow fun same => ?_
  rw [same, file] at isRow
  cases isRow

/-- A unit with a variable and one line row. -/
private def rowUnit : UnitRecord where
  entries := #[
    { offset := 11, tag := .compileUnit, attributes := [⟨.name, .string, .string "a.c"⟩] },
    { offset := 20, tag := .variableEntry, parent := some 11,
      attributes := [⟨.name, .string, .string "x"⟩] }]
  rows := #[{ line := 3, address := 4096 }]

/-- What the options are at first, with one more filter on trees. -/
private def treeOptions (pattern : String) : Options where
  filters := (({} : Filters).addTree pattern).toOption.getD {}

private theorem leads_row : let outline := (Outline.build "a.o" [rowUnit] "void").1
    root < outline.size ∧ (outline.node 2).kind = .codeLine ∧
      outline.Leads (fun _ => True) root 2 2 := by
  rw [build_eq_buildBySearch]
  refine ⟨by decide +kernel, by decide +kernel, ?_⟩
  have unit : ((buildBySearch "a.o" [rowUnit] "void").node 1).parent = some root := by
    decide +kernel
  have row : ((buildBySearch "a.o" [rowUnit] "void").node 2).parent = some 1 := by decide +kernel
  exact .down trivial unit (by decide +kernel)
    (.down trivial row (by decide +kernel) (.here (by decide +kernel)))

/-- Both filters accept the unit, but only one of them the empty name. -/
theorem mem_selectFrom_row_everything :
    let outline := (Outline.build "a.o" [rowUnit] "void").1
    (treeOptions ".*").shows .codeLine = false ∧ (treeOptions "a.c").shows .codeLine = false ∧
      ⟨2, 2⟩ ∈ outline.selectFrom (treeOptions ".*") root ∧
      ⟨2, 2⟩ ∉ outline.selectFrom (treeOptions "a.c") root := by
  intro outline
  obtain ⟨inside, isRow, leads⟩ := leads_row
  have every : (treeOptions ".*").shows .codeLine = false := by decide +kernel
  have one : (treeOptions "a.c").shows .codeLine = false := by decide +kernel
  refine ⟨every, one, ?_, fun member => ?_⟩
  · refine (mem_selectFrom_row "a.o" [rowUnit] "void" _ every root inside ⟨2, 2⟩ isRow).mpr ?_
    exact ⟨by decide +kernel, 2, leads, rfl⟩
  · have accepted :=
      ((mem_selectFrom_row "a.o" [rowUnit] "void" _ one root inside ⟨2, 2⟩ isRow).mp member).1
    have passed : (treeOptions "a.c").filters.acceptsTree "" = false := by decide +kernel
    exact Bool.false_ne_true (passed.symm.trans accepted)

/-- The option does not keep every row back: a tree filter may accept the empty name. -/
theorem rows_beyond_option : ¬ ∀ (input : String) (units : List UnitRecord) (void : String)
    (options : Options), options.shows .codeLine = false →
      ∀ shown ∈ (Outline.build input units void).1.select options,
        ((Outline.build input units void).1.node shown.id).kind ≠ .codeLine := by
  intro hides
  obtain ⟨inside, isRow, leads⟩ := leads_row
  have hidden : (treeOptions ".*").shows .codeLine = false := by decide +kernel
  have accepted : (treeOptions ".*").filters.acceptsTree "" = true := by decide +kernel
  have selected : ⟨2, 2⟩ ∈ (Outline.build "a.o" [rowUnit] "void").1.select (treeOptions ".*") :=
    (mem_selectFrom_of_row (.build "a.o" [rowUnit] "void") (.build "a.o" [rowUnit] "void") hidden
      inside isRow (by decide)).mpr ⟨accepted, 2, leads, rfl⟩
  exact hides "a.o" [rowUnit] "void" (treeOptions ".*") hidden ⟨2, 2⟩ selected isRow

end Outline

end DebugOutline
