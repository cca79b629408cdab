import DebugOutline.Proofs.Described
import DebugOutline.Proofs.Qualifying
import DebugOutline.Proofs.Tallied

/-! What is global in the outline of an input file: what another unit refers to, and whatever is
nested in it. Linking marks the targets of references one by one; one sweep over all objects passes
the mark on, since parents come before their children. -/
namespace DebugOutline

open Dwarf (Entry UnitRecord)

/-- The references of an object are those of an entry: to its type or else to what it imports, and
the first of those to a declaration. -/
structure Node.RefersAs (node : Node) (entry : Entry) : Prop where
  offset : node.offset = entry.offset
  type : node.typeOffset = (Reading.firstReference entry [.type, .importEntry]).value
  declaration : node.referenceOffset =
    (Reading.firstReference entry [.specification, .abstractOrigin, .extension]).value

theorem Reading.node_refersAs (unit : UnitRecord) (unitIndex : Nat) (entry : Entry) (role : Role)
    (inAggregate : Bool) :
    (Reading.node unit unitIndex entry role inAggregate).value.RefersAs entry := by
  unfold Reading.node
  simp only [Reading.value_bind]
  split <;> exact ⟨rfl, rfl, rfl⟩

/-- Before anything is linked, every object that stands for an entry has the references of an entry
of its unit. -/
theorem Draft.refersAs_ofUnits (input : String) (units : List UnitRecord) {id : NodeId}
    (member : id ∈ (ofUnits input units).outline.objects) :
    ∃ unit, units[((ofUnits input units).outline.node id).unit]? = some unit ∧
      ∃ entry ∈ unit.entries.toList, ((ofUnits input units).outline.node id).RefersAs entry := by
  have described := (everywhere_ofEntries
    (fun node => node.kind = .inputFile ∨ node.kind = .codeLine ∨
      ∃ unit, units[node.unit]? = some unit ∧ ∃ entry ∈ unit.entries.toList, node.RefersAs entry)
    input units
    (fun a b same described => by
      simp only [Node.withoutPlace, Node.mk.injEq] at same
      refine described.imp (by simp [same]) (.imp (by simp [same]) ?_)
      rintro ⟨unit, recorded, entry, listed, refers⟩
      refine ⟨unit, by simpa [same] using recorded, entry, listed, ?_⟩
      exact ⟨by simpa [same] using refers.offset, by simpa [same] using refers.type,
        by simpa [same] using refers.declaration⟩)
    (.inl rfl) (.inl rfl) (fun _ _ _ => .inr (.inl rfl))
    (fun unit unitIndex recorded entry listed role inAggregate => by
      refine .inr (.inr ⟨unit, ?_, entry, listed, Reading.node_refersAs _ _ _ _ _⟩)
      rw [(Reading.node_isOf unit unitIndex entry role inAggregate).unit, recorded])).node id
  obtain ⟨inside, notRoot, notRow⟩ := Outline.mem_objects.mp member
  rcases described with file | row | refers
  · exact absurd ((fileFirst_ofUnits input units id inside).mp file) notRoot
  · exact absurd row notRow
  · exact refers

namespace Outline

variable {outline before after : Outline} {id source target count : Nat} {void : String}

/-- An object refers to another by the offset of its type, or by that of its declaration if the two
go together. -/
def Mentions (outline : Outline) (source target : NodeId) : Prop :=
  outline.typeAt? source = some target ∨ outline.declarationAt? source = some target

/-- An object of another unit refers to this one. -/
def UsedAbroad (outline : Outline) (target : NodeId) : Prop :=
  ∃ source, outline.Mentions source target ∧
    (outline.node source).unit ≠ (outline.node target).unit

/-! ### Marking the targets of references -/

theorem isGlobal_markForeign (inside : target < outline.size) (unit id : Nat) :
    ((outline.markForeign target unit).node id).isGlobal = true ↔
      (outline.node id).isGlobal = true ∨ target = id ∧ unit ≠ (outline.node id).unit := by
  unfold markForeign
  split
  · rename_i own
    refine (or_iff_left ?_).symm
    rintro ⟨rfl, foreign⟩
    exact foreign own.symm
  · rename_i foreign
    rw [node_modify]
    by_cases same : id = target
    · subst same
      simp [inside, Ne.symm foreign]
    · simp [same, Ne.symm same]

/-- Setting a link marks nothing but its target. -/
theorem isGlobal_modify_markForeign (inside : target < outline.size) {change : Node → Node}
    (same : ∀ node, (change node).isGlobal = node.isGlobal ∧ (change node).unit = node.unit)
    (unit id : Nat) :
    (((outline.modify source change).markForeign target unit).node id).isGlobal = true ↔
      (outline.node id).isGlobal = true ∨ target = id ∧ unit ≠ (outline.node id).unit := by
  have linked : Keeps (fun node => (node.isGlobal, node.unit)) outline
      (outline.modify source change) :=
    .modify outline source (Prod.ext (same _).1 (same _).2)
  obtain ⟨mark, own⟩ := Prod.mk.inj (linked.node id)
  rw [isGlobal_markForeign (by rwa [size_modify]), mark, own]

theorem isGlobal_linkType (valid : outline.WellFormed) (source id : Nat) :
    ((outline.linkType source).node id).isGlobal = true ↔ (outline.node id).isGlobal = true ∨
      outline.typeAt? source = some id ∧
        (outline.node source).unit ≠ (outline.node id).unit := by
  have resolved : (outline.node source).typeOffset.bind outline.find? = outline.typeAt? source :=
    rfl
  unfold linkType
  rw [resolved]
  cases found : outline.typeAt? source with
  | none => simp
  | some target =>
    obtain ⟨offset, -, hit⟩ := Option.bind_eq_some_iff.mp found
    dsimp only
    rw [isGlobal_modify_markForeign (valid.find_lt_size hit) (by simp), Option.some.injEq]

theorem isGlobal_linkDeclaration (valid : outline.WellFormed) (source id : Nat) :
    ((outline.linkDeclaration source).node id).isGlobal = true ↔
      (outline.node id).isGlobal = true ∨ outline.declarationAt? source = some id ∧
        (outline.node source).unit ≠ (outline.node id).unit := by
  unfold linkDeclaration declarationAt?
  cases found : (outline.node source).referenceOffset.bind outline.find? with
  | none => simp
  | some target =>
    obtain ⟨offset, -, hit⟩ := Option.bind_eq_some_iff.mp found
    dsimp only
    split
    · rename_i matching
      rw [isGlobal_modify_markForeign (valid.find_lt_size hit) (by simp), Option.filter_some,
        if_pos matching, Option.some.injEq]
    · rename_i mismatch
      rw [Option.filter_some, if_neg mismatch]
      simp

/-- Linking marks what was marked before and what another unit refers to. -/
theorem isGlobal_link (valid : outline.WellFormed) (id : Nat) :
    (outline.link.node id).isGlobal = true ↔
      (outline.node id).isGlobal = true ∨ outline.UsedAbroad id := by
  -- References lead from every step of the pass where they lead from the outline before it.
  have pass (ids : List NodeId) (current : Outline) (kept : Keeps linkView outline current) :
      ((ids.foldl (fun outline id => (outline.linkType id).linkDeclaration id) current).node
          id).isGlobal = true ↔ (current.node id).isGlobal = true ∨
        ∃ source ∈ ids, outline.Mentions source id ∧
          (outline.node source).unit ≠ (outline.node id).unit := by
    induction ids generalizing current with
    | nil => simp
    | cons first rest ih =>
      have typed := keeps_linkType current first
      have declared := keeps_linkDeclaration (current.linkType first) first
      have unit {after : Outline} (kept : Keeps linkView outline after) (id : Nat) :
          (after.node id).unit = (outline.node id).unit :=
        kept.read Node.unit (·.1.unit) (fun _ => rfl) id
      rw [List.foldl_cons, ih _ (kept.trans (typed.trans declared)),
        isGlobal_linkDeclaration (valid.of_keeps ((kept.trans typed).weaken _
          skeleton_of_linkView)),
        isGlobal_linkType (valid.of_keeps (kept.weaken _ skeleton_of_linkView)),
        typeAt?_of_linkView kept, declarationAt?_of_linkView (kept.trans typed), unit kept,
        unit kept, unit (kept.trans typed), unit (kept.trans typed), List.exists_mem_cons_iff]
      simp only [Mentions, or_and_right, or_assoc]
  rw [link, pass outline.ids outline (.refl _ _)]
  refine or_congr_right ⟨fun ⟨source, _, use⟩ => ⟨source, use⟩, fun ⟨source, use⟩ => ?_⟩
  exact ⟨source, mem_ids.mpr (use.1.elim lt_size_of_typeAt? lt_size_of_declarationAt?), use⟩

/-! ### Passing the mark on -/

/-- Something holds of an object or of what it is nested in. -/
theorem WellFormed.exists_mem_ancestry_iff (valid : outline.WellFormed) (property : Nat → Prop) :
    (∃ outer ∈ outline.ancestry id, property outer) ↔ property id ∨
      ∃ parent, (outline.node id).parent = some parent ∧
        ∃ outer ∈ outline.ancestry parent, property outer := by
  cases named : (outline.node id).parent with
  | none => simp [valid.ancestry_of_none named]
  | some parent => simp [valid.ancestry_of_parent named]

theorem isGlobal_inheritGlobal (outline : Outline) (child id : Nat) :
    ((outline.inheritGlobal child).node id).isGlobal = true ↔
      (outline.node id).isGlobal = true ∨ id = child ∧
        ∃ parent, (outline.node id).parent = some parent ∧
          (outline.node parent).isGlobal = true := by
  have inside (inherits : (outline.node child).parent.any
      (fun parent => (outline.node parent).isGlobal) = true) : child < outline.size := by
    refine lt_size_of_node_ne fun outside => ?_
    rw [outside] at inherits
    cases inherits
  unfold inheritGlobal
  split
  · rename_i inherits
    rw [node_modify]
    by_cases same : id = child
    · subst same
      have around : ∃ parent, (outline.node id).parent = some parent ∧
          (outline.node parent).isGlobal = true := by simpa [Option.any_eq_true] using inherits
      simp [inside inherits, around]
    · simp [same]
  · rename_i alone
    refine (or_iff_left ?_).symm
    rintro ⟨rfl, parent, named, mark⟩
    simp [named, mark] at alone

/-- The sweep over the first objects makes those of them global that are nested in a global one. -/
theorem isGlobal_sweep (valid : outline.WellFormed) (count id : Nat) :
    (((List.range count).foldl inheritGlobal outline).node id).isGlobal = true ↔
      (outline.node id).isGlobal = true ∨ id < count ∧
        ∃ outer ∈ outline.ancestry id, (outline.node outer).isGlobal = true := by
  induction count generalizing id with
  | zero => simp
  | succ count ih =>
    have kept : Keeps Node.withoutMark outline ((List.range count).foldl inheritGlobal outline) :=
      .foldl keeps_inheritGlobal _ _
    rw [List.range_succ, List.foldl_append, List.foldl_cons, List.foldl_nil,
      isGlobal_inheritGlobal, kept.read Node.parent Node.parent (fun _ => rfl)]
    simp only [ih]
    by_cases last : id = count
    · subst last
      rw [valid.exists_mem_ancestry_iff]
      have own (parent : Nat) (mark : (outline.node parent).isGlobal = true) :
          ∃ outer ∈ outline.ancestry parent, (outline.node outer).isGlobal = true :=
        ⟨parent, valid.mem_ancestry_self parent, mark⟩
      constructor
      · rintro ((mark | ⟨less, -⟩) | ⟨-, parent, named, mark | ⟨-, mark⟩⟩)
        · exact .inl mark
        · exact absurd less (Nat.lt_irrefl _)
        · exact .inr ⟨Nat.lt_succ_self _, .inr ⟨parent, named, own parent mark⟩⟩
        · exact .inr ⟨Nat.lt_succ_self _, .inr ⟨parent, named, mark⟩⟩
      · rintro (mark | ⟨-, mark | ⟨parent, named, mark⟩⟩)
        · exact .inl (.inl mark)
        · exact .inl (.inl mark)
        · exact .inr ⟨rfl, parent, named, .inr ⟨(valid.of_parent named).2.2, mark⟩⟩
    · have same : id < count + 1 ↔ id < count := by omega
      simp [last, same]

/-- After the sweep, an object is global if it or anything it is nested in was global before. -/
theorem isGlobal_spreadGlobals (valid : outline.WellFormed) (id : Nat) :
    (outline.spreadGlobals.node id).isGlobal = true ↔
      ∃ outer ∈ outline.ancestry id, (outline.node outer).isGlobal = true := by
  rw [spreadGlobals, ids, isGlobal_sweep valid]
  by_cases inside : id < outline.size
  · rw [valid.exists_mem_ancestry_iff]
    simp only [inside, true_and]
    exact or_self_left
  · have unborn : (outline.node id).parent = none := by
      rw [node_of_size_le (Nat.le_of_not_lt inside)]
      rfl
    simp [inside, valid.ancestry_of_none unborn]

/-! ### All passes -/

/-- Between linking and the sweep nothing is marked: types taken over from declarations are not
references of the entry itself. -/
theorem keeps_mark_completeDefinitions (outline : Outline) (void : String) :
    Keeps (fun node => (node.skeleton, node.isGlobal)) outline
      (((outline.spellNames void).qualifyNames).completeDefinitions) := by
  refine ((keeps_spellNames outline void).weaken _ ?_).trans
    (((keeps_qualifyNames _).weaken _ ?_).trans ((keeps_completeDefinitions _).weaken _ ?_)) <;>
    intro a b same
  · simp only [Node.withoutName, Node.mk.injEq] at same
    simp [Node.skeleton, same]
  · simp only [Node.withoutQualifier, Node.mk.injEq] at same
    simp [Node.skeleton, same]
  · have apart := congrArg Prod.fst same
    simp only [Node.withoutDeclared, Node.mk.injEq] at apart
    simp [Node.skeleton, apart]

/-- Passing over an outline in which nothing is global makes global what another unit refers to,
and everything nested in it. -/
theorem isGlobal_finish (valid : outline.WellFormed)
    (unmarked : ∀ id, (outline.node id).isGlobal = false) (void : String) (id : Nat) :
    ((outline.finish void).node id).isGlobal = true ↔
      ∃ target ∈ (outline.finish void).ancestry id, outline.UsedAbroad target := by
  have between := keeps_mark_completeDefinitions outline.link void
  have skeleton := between.weaken Node.skeleton fun _ _ same => congrArg Prod.fst same
  have linked := (keeps_link outline).weaken _ skeleton_of_linkView
  have completed := (valid.of_keeps linked).of_keeps skeleton
  have spread := (keeps_spreadGlobals
    (outline.link.spellNames void).qualifyNames.completeDefinitions).weaken _
    skeleton_of_withoutMark
  rw [finish, isGlobal_spreadGlobals completed, spread.ancestry]
  refine exists_congr fun target => and_congr_right fun _ => ?_
  rw [between.read Node.isGlobal Prod.snd (fun _ => rfl), isGlobal_link valid, unmarked]
  simp

/-- Nothing refers to a line row. -/
theorem not_usedAbroad_of_codeLine (valid : outline.WellFormed)
    (isRow : (outline.node target).kind = .codeLine) : ¬ outline.UsedAbroad target := by
  have unfound (offset : Option UInt64) : offset.bind outline.find? ≠ some target := by
    intro leads
    obtain ⟨offset, -, found⟩ := Option.bind_eq_some_iff.mp leads
    exact (mem_objects.mp (valid.find_sound found).1).2.2 isRow
  rintro ⟨source, type | declaration, -⟩
  · exact unfound _ type
  · exact unfound _ (Option.filter_eq_some_iff.mp declaration).1

theorem unmarked_ofUnits (input : String) (units : List UnitRecord) (id : NodeId) :
    ((Draft.ofUnits input units).outline.node id).isGlobal = false :=
  (Draft.everywhere_ofUnits (fun node => node.isGlobal = false) input units
    (fun _ _ same unmarked => (congrArg Node.isGlobal same).symm.trans unmarked)
    rfl rfl (fun _ _ _ => rfl)
    fun unit unitIndex entry role inAggregate => by
      unfold Reading.node
      simp only [Reading.value_bind]
      split <;> rfl).node id

/-- In the outline of an input file, an object is global exactly if it or something it is nested in
is what an object of another unit refers to. The references are those that an entry gives itself:
to the type or import that its offset leads to, and to the declaration if the two go together; a
type that is taken over from a declaration is none. A line row is global with its unit. -/
theorem isGlobal_build (input : String) (units : List UnitRecord) (void : String) (id : NodeId) :
    let described := (Draft.ofUnits input units).outline
    let outline := (Outline.build input units void).1
    ((outline.node id).isGlobal = true ↔
      ∃ target ∈ outline.ancestry id, described.UsedAbroad target) ∧
    (id ∈ outline.objects → ∃ unit, units[(outline.node id).unit]? = some unit ∧
      ∃ entry ∈ unit.entries.toList, (described.node id).RefersAs entry) ∧
    ((outline.node id).kind = .codeLine → ∃ owner, (outline.node id).parent = some owner ∧
      (outline.node owner).kind = .compileUnit ∧
      (outline.node id).isGlobal = (outline.node owner).isGlobal) := by
  have sound := Draft.sound_ofUnits input units
  have read (member : id ∈ (Draft.ofUnits input units).outline.objects) :=
    Draft.refersAs_ofUnits input units member
  have valid := WellFormed.build input units void
  have rows := (RowsInPlace.build input units void).owner id
  have unmarked := unmarked_ofUnits input units
  rw [build_fst] at valid rows ⊢
  generalize (Draft.ofUnits input units).outline = described at sound read valid rows unmarked ⊢
  have skeleton := (keeps_finish described void).skeleton
  have global := isGlobal_finish sound.valid unmarked void
  dsimp only
  refine ⟨global id, ?_, ?_⟩
  · rw [skeleton.objects, skeleton.unit]
    exact read
  · intro isRow
    obtain ⟨owner, named, isUnit⟩ := rows isRow
    rw [skeleton.kind] at isRow
    refine ⟨owner, named, isUnit, Bool.eq_iff_iff.mpr ?_⟩
    rw [global, global, valid.exists_mem_ancestry_iff,
      or_iff_right (not_usedAbroad_of_codeLine sound.valid isRow)]
    simp [named]

/-- A structure that a variable of another unit has for its type, and a variable that a function of
that unit cannot have for its declaration. -/
private def abroadUnits : List UnitRecord :=
  [{ entries := #[
      { offset := 11, tag := .compileUnit },
      { offset := 20, tag := .structureType, parent := some 11 },
      { offset := 24, tag := .memberEntry, parent := some 20 },
      { offset := 30, tag := .variableEntry, parent := some 11 }]
     rows := #[{ line := 3, address := 64 }] },
    { entries := #[
      { offset := 111, tag := .compileUnit },
      { offset := 120, tag := .variableEntry, parent := some 111,
        attributes := [⟨.type, .ref4, .reference 20⟩] },
      { offset := 124, tag := .subprogram, parent := some 111,
        attributes := [⟨.abstractOrigin, .ref4, .reference 30⟩] }] }]

/-- The structure is used abroad, so that its member is global; the variable and the line row are
not. -/
theorem isGlobal_member_abroad :
    let described := (Draft.ofUnits "a.o" abroadUnits).outline
    let outline := (Outline.build "a.o" abroadUnits "void").1
    4 ∈ outline.objects ∧ (outline.node 2).kind = .codeLine ∧
      (∃ target ∈ outline.ancestry 4, described.UsedAbroad target) ∧
      (∃ unit ∈ abroadUnits, ∃ entry ∈ unit.entries.toList, (described.node 4).RefersAs entry) ∧
      (¬ ∃ target ∈ outline.ancestry 5, described.UsedAbroad target) ∧
      ∃ owner, (outline.node 2).parent = some owner ∧ (outline.node owner).isGlobal = false := by
  intro described outline
  have known : outline = Outline.buildBySearch "a.o" abroadUnits "void" :=
    build_eq_buildBySearch "a.o" abroadUnits "void"
  have marks : (outline.node 4).isGlobal = true ∧ (outline.node 5).isGlobal = false ∧
      (outline.node 2).isGlobal = false := by
    rw [known]
    decide +kernel
  have member : 4 ∈ outline.objects := by
    rw [known]
    decide +kernel
  have isRow : (outline.node 2).kind = .codeLine := by
    rw [known]
    decide +kernel
  obtain ⟨nested, read, -⟩ := isGlobal_build "a.o" abroadUnits "void" 4
  obtain ⟨alone, -, -⟩ := isGlobal_build "a.o" abroadUnits "void" 5
  obtain ⟨-, -, row⟩ := isGlobal_build "a.o" abroadUnits "void" 2
  obtain ⟨unit, recorded, refers⟩ := read member
  obtain ⟨owner, named, -, same⟩ := row isRow
  refine ⟨member, isRow, nested.mp marks.1, ⟨unit, List.mem_of_getElem? recorded, refers⟩, ?_,
    owner, named, same.symm.trans marks.2.2⟩
  intro used
  exact Bool.false_ne_true (marks.2.1.symm.trans (alone.mpr used))

end Outline

end DebugOutline
