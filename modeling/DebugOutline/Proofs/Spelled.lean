import DebugOutline.Proofs.Described
import DebugOutline.Proofs.Qualifying
import DebugOutline.Proofs.Visits

/-! What a spelled name says of the names it is spelled from. Naming visits every object once, after
the objects that its name needs; so a name is composed of the names that these have when all are
spelled, unless it needs itself. Definitions take over the names of their declarations afterwards,
and then a type that is spelled from such a definition still shows the name it had before. -/
namespace DebugOutline

/-- A piece that no scope qualifies. -/
def NamePart.isPlain : NamePart → Bool
  | .qualifiedNameOf _ => false
  | _ => true

namespace Outline

variable {before after : Outline} {id : Nat} {void : String}

/-- The objects that the name of an object is spelled from. -/
def neededNames (outline : Outline) (void : String) (id : NodeId) : List NodeId :=
  (Spelling.of? outline void id).elim [] fun spelling => spelling.parts.filterMap NamePart.target?

/-- The name of one object is spelled from that of another. -/
def NeedsName (outline : Outline) (void : String) (id target : NodeId) : Prop :=
  target ∈ outline.neededNames void id

theorem needsName_iff {outline : Outline} {spelling : Spelling} {target : Nat}
    (spelled : Spelling.of? outline void id = some spelling) :
    outline.NeedsName void id target ↔ ∃ piece ∈ spelling.parts, piece.target? = some target := by
  simp [NeedsName, neededNames, spelled]

theorem lt_size_of_needsName {outline : Outline} {target : Nat}
    (needed : outline.NeedsName void id target) : id < outline.size := by
  refine lt_size_of_node_ne fun outside => ?_
  simp only [NeedsName, neededNames, Spelling.of?, outside] at needed
  cases needed

/-! ### What a spelling depends on -/

section Kept

variable (kept : Keeps Node.withoutName before after)
include kept

theorem Keeps.typePart (id : Nat) (missing : String) :
    Spelling.typePart after id missing = Spelling.typePart before id missing := by
  unfold Spelling.typePart
  rw [kept.read Node.typeId Node.typeId (fun _ => rfl)]

theorem Keeps.auxiliaryChildren (id : Nat) (form : AuxiliaryForm) :
    after.auxiliaryChildren id form = before.auxiliaryChildren id form := by
  unfold Outline.auxiliaryChildren
  rw [kept.read Node.children Node.children (fun _ => rfl)]
  apply List.filter_congr
  intro child _
  rw [kept.read Node.auxiliaryForm? Node.auxiliaryForm? (fun _ => rfl)]

theorem Keeps.array
    (extents : ∀ dimension ∈ before.auxiliaryChildren id .subrange,
      (after.node dimension).name = (before.node dimension).name) :
    Spelling.array after id = Spelling.array before id := by
  simp only [Spelling.array, kept.typePart, kept.auxiliaryChildren, List.map_congr_left extents]

theorem Keeps.subroutine (id : Nat) (void : String) :
    Spelling.subroutine after id void = Spelling.subroutine before id void := by
  have parameters : Spelling.formalParameters after id = Spelling.formalParameters before id := by
    unfold Spelling.formalParameters
    rw [kept.auxiliaryChildren]
    apply List.filter_congr
    intro parameter _
    rw [kept.read Node.tag Node.tag (fun _ => rfl)]
  simp only [Spelling.subroutine, kept.typePart, parameters]

theorem Keeps.arguments (id : Nat) :
    Spelling.arguments after id = Spelling.arguments before id := by
  have kind (id : Nat) := kept.read Node.kind Node.kind (fun _ => rfl) id
  have children (id : Nat) := kept.read Node.children Node.children (fun _ => rfl) id
  have isPack (id : Nat) := kept.read Node.isPack Node.isPack (fun _ => rfl) id
  have argument : Spelling.argument? after = Spelling.argument? before := by
    funext parameter
    unfold Spelling.argument?
    rw [kept.read Node.templateArgument? Node.templateArgument? (fun _ => rfl),
      kept.read Node.typeId Node.typeId (fun _ => rfl)]
  simp only [Spelling.arguments, kind, children, isPack, argument]

/-- An object is spelled as before while it and the extents under it have the names they had. -/
theorem Keeps.spelling (own : (after.node id).name = (before.node id).name)
    (extents : ∀ dimension ∈ before.auxiliaryChildren id .subrange,
      (after.node dimension).name = (before.node dimension).name) :
    Spelling.of? after void id = Spelling.of? before void id := by
  have lacks : Spelling.lacksArguments (after.node id) =
      Spelling.lacksArguments (before.node id) := by
    unfold Spelling.lacksArguments
    rw [kept.read Node.isTemplate Node.isTemplate (fun _ => rfl),
      kept.read Node.kind Node.kind (fun _ => rfl), own]
  unfold Spelling.of?
  dsimp only
  rw [kept.read Node.auxiliaryForm? Node.auxiliaryForm? (fun _ => rfl), lacks]
  cases (before.node id).auxiliaryForm? with
  | some form => simp only [Spelling.auxiliary?, own, kept.typePart, kept.array extents,
      kept.subroutine]
  | none => simp only [Spelling.template, own, kept.arguments]

end Kept

/-- Extents are never spelled. -/
theorem of?_of_mem_extents {outline : Outline} {dimension : Nat}
    (member : dimension ∈ outline.auxiliaryChildren id .subrange) :
    Spelling.of? outline void dimension = none := by
  have form : (outline.node dimension).auxiliaryForm? = some .subrange := by
    simpa using (List.mem_filter.mp member).2
  simp [Spelling.of?, form, Spelling.auxiliary?]

end Outline

namespace Naming

open Outline

variable {linked : Outline} {void : String} {active : NodeId → Prop}
  {naming before middle after : Naming} {id depth bound : Nat}

/-! ### Visited objects keep their names -/

/-- Objects that were visited before stay so, with the names that they have. -/
structure Grows (before after : Naming) : Prop where
  kept : Keeps Node.withoutName before.outline after.outline
  started : ∀ id, before.hasStarted id = true → after.hasStarted id = true
  name : ∀ id, before.hasStarted id = true →
    (after.outline.node id).name = (before.outline.node id).name

theorem Grows.refl (naming : Naming) : naming.Grows naming :=
  ⟨.refl _ _, fun _ started => started, fun _ _ => rfl⟩

theorem Grows.trans (first : before.Grows middle) (second : middle.Grows after) :
    before.Grows after where
  kept := first.kept.trans second.kept
  started id started := second.started id (first.started id started)
  name id started := (second.name id (first.started id started)).trans (first.name id started)

/-- A plain piece keeps its text once the object it names was visited. -/
theorem Grows.text (grows : before.Grows after) {piece : NamePart} (plain : piece.isPlain = true)
    (started : ∀ target ∈ piece.target?, before.hasStarted target = true) :
    piece.text after.outline = piece.text before.outline := by
  cases piece with
  | literal text => rfl
  | nameOf target => exact grows.name target (started target rfl)
  | qualifiedNameOf target => cases plain

theorem hasStarted_mark (naming : Naming) (id other : Nat) :
    Naming.hasStarted ⟨naming.outline, naming.started.setIfInBounds id true⟩ other =
      if other = id then true else naming.hasStarted other :=
  getD_setIfInBounds naming.started id other

theorem grows_mark (naming : Naming) (id : Nat) :
    naming.Grows ⟨naming.outline, naming.started.setIfInBounds id true⟩ where
  kept := .refl _ _
  started other started := by
    rw [hasStarted_mark]
    split
    · rfl
    · exact started
  name _ _ := rfl

/-- An object that was not visited before may get another name. -/
theorem Grows.write (grows : before.Grows after) (fresh : before.hasStarted id = false)
    (name : String) : before.Grows { after with outline := after.outline.modify id fun node =>
      { node with name := name } } where
  kept := grows.kept.trans (.modify _ id rfl)
  started := grows.started
  name other visited := by
    have apart : other ≠ id := by
      rintro rfl
      rw [fresh] at visited
      cases visited
    rw [← grows.name other visited, node_modify, if_neg fun same => apart same.1]

theorem grows_prepare {visit : Naming → NodeId → Naming}
    (one : ∀ (naming : Naming) id, naming.Grows (visit naming id)) (piece : NamePart)
    (naming : Naming) :
    naming.Grows (prepare visit piece naming) := by
  unfold prepare
  split
  · exact one naming _
  · exact .refl naming

theorem grows_gather {visit : Naming → NodeId → Naming}
    (one : ∀ (naming : Naming) id, naming.Grows (visit naming id)) (pieces : List NamePart)
    (naming : Naming) : naming.Grows (gather visit pieces naming).2 := by
  induction pieces generalizing naming with
  | nil => exact .refl naming
  | cons piece later ih => exact (grows_prepare one piece naming).trans (ih _)

theorem grows_resolve (void : String) (depth : Nat) (naming : Naming) (id : Nat) :
    naming.Grows (resolve void depth naming id) := by
  induction depth generalizing naming id with
  | zero => exact .refl naming
  | succ depth ih =>
    unfold resolve
    cases started : naming.hasStarted id with
    | true => exact .refl naming
    | false =>
      have marked := grows_mark naming id
      simp only [Bool.false_eq_true, if_false]
      split
      · exact marked
      · rename_i spelling _
        exact (marked.trans (grows_gather ih spelling.parts _)).write started _

/-- With enough depth for all that was not visited before, an object is visited. -/
theorem hasStarted_resolve (enough : pending naming.started ≤ depth) :
    (resolve void depth naming id).hasStarted id = true := by
  cases started : naming.hasStarted id with
  | true => exact (grows_resolve void depth naming id).started id started
  | false =>
    have fewer := pending_of_unmarked started
    obtain ⟨depth, rfl⟩ := Nat.exists_eq_add_one_of_ne_zero (by omega : depth ≠ 0)
    have marked : Naming.hasStarted ⟨naming.outline, naming.started.setIfInBounds id true⟩ id =
        true := by
      rw [hasStarted_mark, if_pos rfl]
    rw [resolve, started]
    simp only [Bool.false_eq_true, if_false]
    split
    · exact marked
    · exact (grows_gather (grows_resolve void depth) _ _).started id marked

theorem pending_prepare_le (void : String) (depth : Nat) (piece : NamePart) (naming : Naming) :
    pending (prepare (resolve void depth) piece naming).started ≤ pending naming.started := by
  unfold prepare
  split
  · exact pending_resolve_le void depth naming _
  · exact Nat.le_refl _

/-- Plain pieces are read with the names that their objects have when all pieces were read. -/
theorem texts_gather (pieces : List NamePart) (naming : Naming)
    (enough : pending naming.started ≤ depth)
    (plain : ∀ piece ∈ pieces, piece.isPlain = true) :
    (gather (resolve void depth) pieces naming).1 =
        pieces.map (·.text (gather (resolve void depth) pieces naming).2.outline) ∧
      ∀ piece ∈ pieces, ∀ target ∈ piece.target?,
        (gather (resolve void depth) pieces naming).2.hasStarted target = true := by
  induction pieces generalizing naming with
  | nil => exact ⟨rfl, by simp⟩
  | cons piece later ih =>
    obtain ⟨own, more⟩ := List.forall_mem_cons.mp plain
    have visited : ∀ target ∈ piece.target?,
        (prepare (resolve void depth) piece naming).hasStarted target = true := by
      intro target needed
      rw [prepare, Option.mem_def.mp needed]
      exact hasStarted_resolve enough
    have grows := grows_gather (grows_resolve void depth) later
      (prepare (resolve void depth) piece naming)
    obtain ⟨texts, all⟩ := ih (prepare (resolve void depth) piece naming)
      ((pending_prepare_le void depth piece naming).trans enough) more
    rw [gather_cons]
    refine ⟨by rw [List.map_cons, ← texts, grows.text own visited], ?_⟩
    rw [List.forall_mem_cons]
    exact ⟨fun target needed => grows.started target (visited target needed), all⟩

/-! ### Names composed of names -/

/-- An object whose name is spelled from plain names and not, however far around, from itself. -/
structure Composes (linked : Outline) (void : String) (id : NodeId) (spelling : Spelling) :
    Prop where
  spelled : Spelling.of? linked void id = some spelling
  plain : ∀ piece ∈ spelling.parts, piece.isPlain = true
  acyclic : ¬ Relation.TransGen (linked.NeedsName void) id id

/-- What holds while the objects of `active` are being named: whatever was not visited, is being
named or is never spelled has its first name, and whatever has been named has the name that its
spelling gives, from objects that have been named as well. -/
structure Follows (linked : Outline) (void : String) (active : NodeId → Prop) (naming : Naming) :
    Prop where
  kept : Keeps Node.withoutName linked naming.outline
  own : ∀ id, naming.hasStarted id = false ∨ active id ∨ Spelling.of? linked void id = none →
    (naming.outline.node id).name = (linked.node id).name
  visited : ∀ id, active id → naming.hasStarted id = true
  named : ∀ id spelling, Composes linked void id spelling →
    naming.hasStarted id = true → ¬ active id →
    (naming.outline.node id).name =
        spelling.compose (spelling.parts.map (·.text naming.outline)) ∧
      ∀ target, linked.NeedsName void id target →
        naming.hasStarted target = true ∧ ¬ active target

/-- Numbers that no object has are not spelled. -/
theorem lt_size_of_of? {spelling : Spelling}
    (spelled : Spelling.of? linked void id = some spelling) :
    id < linked.size := by
  refine lt_size_of_node_ne fun outside => ?_
  simp only [Spelling.of?, outside] at spelled
  cases spelled

namespace Follows

/-- An object that was not visited is still spelled as at first. -/
theorem of?_of_fresh (follows : Follows linked void active naming)
    (fresh : naming.hasStarted id = false) :
    Spelling.of? naming.outline void id = Spelling.of? linked void id :=
  follows.kept.spelling (follows.own id (.inl fresh)) fun dimension member =>
    follows.own dimension (.inr (.inr (of?_of_mem_extents member)))

/-- Beginning to name an object. -/
theorem mark (follows : Follows linked void active naming)
    (fresh : naming.hasStarted id = false) :
    Follows linked void (fun other => active other ∨ other = id)
      ⟨naming.outline, naming.started.setIfInBounds id true⟩ where
  kept := follows.kept
  own other first := by
    apply follows.own other
    rw [hasStarted_mark] at first
    split at first
    · rename_i same
      exact .inl (same ▸ fresh)
    · rename_i apart
      simpa [apart] using first
  visited other activity := by
    rw [hasStarted_mark]
    split
    · rfl
    · rename_i apart
      exact follows.visited other (activity.resolve_right apart)
  named other spelling composes started inactive := by
    obtain ⟨notActive, apart⟩ := not_or.mp inactive
    rw [hasStarted_mark, if_neg apart] at started
    obtain ⟨name, needs⟩ := follows.named other spelling composes started notActive
    refine ⟨name, fun target needed => ?_⟩
    obtain ⟨known, passive⟩ := needs target needed
    have other : target ≠ id := by
      rintro rfl
      rw [fresh] at known
      cases known
    rw [hasStarted_mark, if_neg other]
    exact ⟨known, not_or.mpr ⟨passive, other⟩⟩

/-- Done with an object that keeps its name. -/
theorem release (follows : Follows linked void (fun other => active other ∨ other = id) naming)
    (unspelled : Spelling.of? linked void id = none) : Follows linked void active naming where
  kept := follows.kept
  own other first := follows.own other (first.imp_right (Or.imp_left .inl))
  visited other activity := follows.visited other (.inl activity)
  named other spelling composes started inactive := by
    have apart : other ≠ id := by
      rintro rfl
      rw [composes.spelled] at unspelled
      cases unspelled
    obtain ⟨name, needs⟩ :=
      follows.named other spelling composes started (not_or.mpr ⟨inactive, apart⟩)
    exact ⟨name, fun target needed =>
      ⟨(needs target needed).1, (not_or.mp (needs target needed).2).1⟩⟩

/-- Texts are not changed by naming an object that they do not name. -/
theorem text_modify {outline : Outline} {change : Node → Node} {piece : NamePart}
    (plain : piece.isPlain = true) (apart : piece.target? ≠ some id) :
    piece.text (outline.modify id change) = piece.text outline := by
  cases piece with
  | literal text => rfl
  | nameOf target =>
    have other : target ≠ id := fun same => apart (congrArg some same)
    simp [NamePart.text, node_modify, other]
  | qualifiedNameOf target => cases plain

/-- Nor are the texts of all pieces of a name by naming an object that the name does not need. -/
theorem texts_modify {outline : Outline} {change : Node → Node} {other : NodeId}
    {spelling : Spelling} (composes : Composes linked void other spelling)
    (unneeded : ¬ linked.NeedsName void other id) :
    spelling.parts.map (·.text (outline.modify id change)) =
      spelling.parts.map (·.text outline) :=
  List.map_congr_left fun piece member => text_modify (composes.plain piece member) fun needed =>
    unneeded ((needsName_iff composes.spelled).mpr ⟨piece, member, needed⟩)

/-- Done with an object that gets its name. -/
theorem name {spelling : Spelling} {texts : List String}
    (follows : Follows linked void (fun other => active other ∨ other = id) naming)
    (spelled : Spelling.of? linked void id = some spelling) (inside : id < linked.size)
    (inactive : ¬ active id)
    (above : ∀ outer, active outer → Relation.TransGen (linked.NeedsName void) outer id)
    (read : (∀ piece ∈ spelling.parts, piece.isPlain = true) →
      texts = spelling.parts.map (·.text naming.outline) ∧
        ∀ piece ∈ spelling.parts, ∀ target ∈ piece.target?, naming.hasStarted target = true) :
    Follows linked void active { naming with outline := naming.outline.modify id fun node =>
      { node with name := spelling.compose texts } } where
  kept := follows.kept.trans (.modify _ id rfl)
  own other first := by
    have apart : other ≠ id := by
      rintro rfl
      rcases first with fresh | activity | unspelled
      · exact Bool.false_ne_true (fresh.symm.trans (follows.visited other (.inr rfl)))
      · exact inactive activity
      · rw [spelled] at unspelled
        cases unspelled
    rw [node_modify, if_neg fun same => apart same.1]
    exact follows.own other (first.imp_right (Or.imp_left .inl))
  visited other activity := follows.visited other (.inl activity)
  named other composed composes started passive := by
    -- Nothing that `other` needs is the object just named: it has been named, or it needs `other`.
    by_cases same : other = id
    · subst same
      obtain rfl : spelling = composed := Option.some.inj (spelled.symm.trans composes.spelled)
      obtain ⟨rfl, known⟩ := read composes.plain
      have apart : ¬ linked.NeedsName void other other := fun itself =>
        composes.acyclic (.single itself)
      have present : other < naming.outline.size := follows.kept.size ▸ inside
      refine ⟨?_, fun target needed => ⟨?_, fun activity => ?_⟩⟩
      · rw [node_modify, if_pos ⟨rfl, present⟩, texts_modify composes apart]
      · obtain ⟨piece, member, target⟩ := (needsName_iff spelled).mp needed
        exact known piece member _ target
      · exact composes.acyclic (.head needed (above target activity))
    · obtain ⟨name, needs⟩ :=
        follows.named other composed composes started (not_or.mpr ⟨passive, same⟩)
      have apart : ¬ linked.NeedsName void other id := fun needed =>
        (needs id needed).2 (.inr rfl)
      refine ⟨?_, fun target needed =>
        ⟨(needs target needed).1, (not_or.mp (needs target needed).2).1⟩⟩
      rw [node_modify, if_neg fun changed => same changed.1, texts_modify composes apart, name]

theorem gather {visit : Naming → NodeId → Naming}
    (one : ∀ naming target, Follows linked void active naming →
      (∀ outer, active outer → Relation.TransGen (linked.NeedsName void) outer target) →
      pending naming.started ≤ bound → Follows linked void active (visit naming target))
    (fewer : ∀ naming id, pending (visit naming id).started ≤ pending naming.started)
    (follows : Follows linked void active naming) (enough : pending naming.started ≤ bound)
    (pieces : List NamePart)
    (above : ∀ piece ∈ pieces, ∀ target ∈ piece.target?, ∀ outer, active outer →
      Relation.TransGen (linked.NeedsName void) outer target) :
    Follows linked void active (gather visit pieces naming).2 := by
  induction pieces generalizing naming with
  | nil => exact follows
  | cons piece later ih =>
    obtain ⟨own, more⟩ := List.forall_mem_cons.mp above
    rw [gather_cons]
    have prepared : Follows linked void active (prepare visit piece naming) ∧
        pending (prepare visit piece naming).started ≤ bound := by
      unfold prepare
      split
      · rename_i target needed
        exact ⟨one naming target follows (own target needed) enough,
          (fewer naming target).trans enough⟩
      · exact ⟨follows, enough⟩
    exact ih prepared.1 prepared.2 more

/-- Naming an object while the objects that need it are being named. -/
theorem resolve (follows : Follows linked void active naming)
    (above : ∀ outer, active outer → Relation.TransGen (linked.NeedsName void) outer id)
    (enough : pending naming.started ≤ depth) :
    Follows linked void active (resolve void depth naming id) := by
  induction depth generalizing active naming id with
  | zero =>
    have started : naming.hasStarted id = true := marked_of_pending (Nat.eq_zero_of_le_zero enough)
    rwa [resolve_of_hasStarted started]
  | succ depth ih =>
    cases fresh : naming.hasStarted id with
    | true => rwa [resolve_of_hasStarted fresh]
    | false =>
      have fewer := pending_of_unmarked fresh
      have left : pending (naming.started.setIfInBounds id true) ≤ depth := by omega
      have marked := follows.mark fresh
      have inactive : ¬ active id := fun activity =>
        Bool.false_ne_true (fresh.symm.trans (follows.visited id activity))
      rw [Naming.resolve, fresh]
      simp only [Bool.false_eq_true, if_false]
      rw [follows.of?_of_fresh fresh]
      cases spelled : Spelling.of? linked void id with
      | none => exact marked.release spelled
      | some spelling =>
        have inside : id < linked.size := lt_size_of_of? spelled
        refine (marked.gather (fun naming target follows above => ih follows above)
          (pending_resolve_le void depth) left spelling.parts ?_).name spelled inside inactive above
          (texts_gather spelling.parts _ left)
        intro piece member target needed outer activity
        have needs := (needsName_iff spelled).mpr ⟨piece, member, needed⟩
        rcases activity with activity | rfl
        · exact (above outer activity).tail needs
        · exact .single needs

end Follows

/-- Nothing has been named yet. -/
theorem follows_start (linked : Outline) (void : String) :
    Follows linked void (fun _ => False) ⟨linked, .replicate linked.size false⟩ where
  kept := .refl _ _
  own _ _ := rfl
  visited _ none := none.elim
  named id spelling composes started _ := by
    have inside : id < linked.size := lt_size_of_of? composes.spelled
    simp [hasStarted, Array.getD, inside] at started

/-- When the pass is over, every object has been visited and none is being named. -/
theorem follows_spellNames (linked : Outline) (void : String) :
    ∃ naming : Naming, naming.outline = linked.spellNames void ∧
      Follows linked void (fun _ => False) naming ∧
      ∀ id < linked.size, naming.hasStarted id = true := by
  have pass (ids : List NodeId) (naming : Naming)
      (follows : Follows linked void (fun _ => False) naming)
      (enough : pending naming.started ≤ linked.size) :
      let final := ids.foldl (resolve void linked.size) naming
      Follows linked void (fun _ => False) final ∧
        ∀ id, naming.hasStarted id = true ∨ id ∈ ids → final.hasStarted id = true := by
    induction ids generalizing naming with
    | nil => exact ⟨follows, fun id reached => reached.resolve_right List.not_mem_nil⟩
    | cons first rest ih =>
      obtain ⟨final, all⟩ := ih _ (follows.resolve (fun _ none => none.elim) enough)
        ((pending_resolve_le void _ naming first).trans enough)
      refine ⟨final, fun id reached => all id ?_⟩
      rcases reached with started | member
      · exact .inl ((grows_resolve void _ naming first).started id started)
      · rcases List.mem_cons.mp member with rfl | later
        · exact .inl (hasStarted_resolve enough)
        · exact .inr later
  have few : pending (.replicate linked.size false) ≤ linked.size :=
    Array.count_le_size.trans_eq Array.size_replicate
  obtain ⟨follows, all⟩ := pass linked.ids _ (follows_start linked void) few
  exact ⟨_, rfl, follows, fun id inside => all id (.inr (mem_ids.mpr inside))⟩

end Naming

namespace Outline

variable {linked : Outline} {void : String} {id : Nat} {spelling : Spelling}

/-- When all names are spelled, a name that is spelled from plain names and not from itself is
composed of the names that these have then. -/
theorem name_spellNames (composes : Naming.Composes linked void id spelling) :
    ((linked.spellNames void).node id).name =
      spelling.compose (spelling.parts.map (·.text (linked.spellNames void))) := by
  obtain ⟨naming, same, follows, all⟩ := Naming.follows_spellNames linked void
  rw [← same]
  exact (follows.named id spelling composes (all id (Naming.lt_size_of_of? composes.spelled))
    not_false).1

/-- A name that is not spelled stays as it is. -/
theorem name_spellNames_of_unspelled (unspelled : Spelling.of? linked void id = none) :
    ((linked.spellNames void).node id).name = (linked.node id).name := by
  obtain ⟨naming, same, follows, -⟩ := Naming.follows_spellNames linked void
  rw [← same]
  exact follows.own id (.inr (.inr unspelled))

end Outline

/-! ### Words -/

namespace Spelling

private theorem not_mem_of_mem_splitOn {separator : α} [BEq α] [LawfulBEq α] {items : List α} :
    ∀ piece ∈ items.splitOn separator, separator ∉ piece := by
  induction items with
  | nil => simp [List.splitOn_nil]
  | cons first rest ih =>
    rw [List.splitOn_cons_eq_if_modifyHead]
    split
    · exact List.forall_mem_cons.mpr ⟨List.not_mem_nil, ih⟩
    · rename_i apart
      cases split : rest.splitOn separator with
      | nil => simp
      | cons head tail =>
        rw [split, List.forall_mem_cons] at ih
        have other : separator ≠ first := fun same => apart (beq_iff_eq.mpr same.symm)
        simpa [other, ih.1] using ih.2

theorem words_plain {text word : String} (member : word ∈ words text) :
    word ≠ "" ∧ ' ' ∉ word.toList := by
  obtain ⟨spelled, nonempty⟩ := List.mem_filter.mp member
  obtain ⟨piece, split, rfl⟩ := List.mem_map.mp spelled
  exact ⟨by simpa using nonempty, by simpa using not_mem_of_mem_splitOn piece split⟩

/-- Joined words are told apart again. -/
theorem words_joinWords (texts : List String) : words (joinWords texts) = texts.flatMap words := by
  have plain : ∀ word ∈ texts.flatMap words, word ≠ "" ∧ ' ' ∉ word.toList := by
    intro word member
    obtain ⟨text, -, own⟩ := List.mem_flatMap.mp member
    exact words_plain own
  unfold joinWords
  generalize texts.flatMap words = all at plain
  cases all with
  | nil => rfl
  | cons first rest =>
    unfold words
    rw [String.toList_intercalate, show " ".toList = [' '] from rfl,
      List.splitOn_intercalate ' ' (by simpa using fun word member => (plain word member).2)
        (by simp), List.map_map]
    simp only [Function.comp_def, String.ofList_toList, List.map_id']
    exact List.filter_eq_self.mpr fun word member => by simpa using (plain word member).1

/-- Between the same words, two texts make the same name exactly if they have the same words. -/
theorem joinWords_inj {before behind : List String} {one other : String} :
    joinWords (before ++ [one] ++ behind) = joinWords (before ++ [other] ++ behind) ↔
      words one = words other := by
  constructor
  · intro same
    have all := congrArg words same
    simpa [words_joinWords] using all
  · intro same
    simp [joinWords, same]

end Spelling

/-! ### Modifiers -/

/-- The words that a modifier puts before and behind its own name and that of its type. -/
def AuxiliaryForm.words? : AuxiliaryForm → Option (List String × List String)
  | .const => some (["const"], [])
  | .volatile => some (["volatile"], [])
  | .restrict => some (["restrict"], [])
  | .pointer | .pointerToMember => some ([], ["*"])
  | .reference => some ([], ["&"])
  | .rvalueReference => some ([], ["&&"])
  | .unspecified => some ([], [])
  | .array | .subrange | .subroutine | .subroutineParameter | .enumerator | .inheritance => none

namespace Outline

variable {outline : Outline} {id target : Nat} {void : String} {form : AuxiliaryForm}
  {before behind : List String}

theorem text_literals (outline : Outline) (texts : List String) :
    (texts.map NamePart.literal).map (·.text outline) = texts := by
  simp [Function.comp_def, NamePart.text]

theorem of?_modifier (void : String) (isForm : (outline.node id).auxiliaryForm? = some form)
    (words : form.words? = some (before, behind))
    (typed : (outline.node id).typeId = some target) :
    Spelling.of? outline void id = some (.ofWords (before.map .literal ++
      [.literal (outline.node id).name, .nameOf target] ++ behind.map .literal)) := by
  unfold Spelling.of?
  dsimp only
  rw [isForm]
  cases form <;> cases words <;> simp [Spelling.auxiliary?, Spelling.typePart, typed]

/-- A modifier that does not modify itself is spelled from the spelled name of its type. -/
theorem name_modifier (isForm : (outline.node id).auxiliaryForm? = some form)
    (words : form.words? = some (before, behind))
    (typed : (outline.node id).typeId = some target)
    (acyclic : ¬ Relation.TransGen (outline.NeedsName void) id id) :
    ((outline.spellNames void).node id).name = Spelling.joinWords (before ++
      [(outline.node id).name, ((outline.spellNames void).node target).name] ++ behind) := by
  have spelled := of?_modifier void isForm words typed
  have plain : ∀ piece ∈ before.map NamePart.literal ++
      [.literal (outline.node id).name, .nameOf target] ++ behind.map NamePart.literal,
      piece.isPlain = true := by
    simp only [List.mem_append, List.mem_map, List.mem_cons, List.not_mem_nil]
    rintro piece ((⟨text, -, rfl⟩ | rfl | rfl | none) | ⟨text, -, rfl⟩)
    · rfl
    · rfl
    · rfl
    · cases none
    · rfl
  rw [name_spellNames ⟨spelled, plain, acyclic⟩, Spelling.ofWords, List.map_append,
    List.map_append, text_literals, text_literals]
  rfl

theorem linkClass?_modifier {node : Node} (isAuxiliary : node.kind = .auxiliary)
    (isForm : node.auxiliaryForm? = some form) (words : form.words? = some (before, behind)) :
    node.linkClass? = none := by
  unfold Node.auxiliaryForm? at isForm
  unfold Node.linkClass?
  rw [isAuxiliary]
  dsimp only
  split at isForm
  · rename_i detailed
    obtain rfl := Option.some.inj isForm
    rw [detailed]
    rename_i own
    cases own <;> first | rfl | cases words
  · rename_i detailed
    rw [detailed]
  · rename_i detailed
    rw [detailed]
  · cases isForm

/-- In the outline of an input file, a modifier that does not modify itself is named after the name
that its type has when all names are spelled. So it is named after the type of the finished outline
exactly if that has the same words, as it has unless it takes the name of a declaration. -/
theorem name_modifier_build (input : String) (units : List Dwarf.UnitRecord) (void : String)
    (id target : NodeId) (form : AuxiliaryForm) (before behind : List String) :
    let draft := (Draft.ofUnits input units).outline
    let spelled := draft.link.spellNames void
    let outline := (Outline.build input units void).1
    let around (name : String) :=
      Spelling.joinWords (before ++ [(draft.node id).name, name] ++ behind)
    (outline.node id).auxiliaryForm? = some form → form.words? = some (before, behind) →
    (outline.node id).typeId = some target →
    ¬ Relation.TransGen (draft.link.NeedsName void) id id →
      (outline.node id).name = around (spelled.node target).name ∧
      ((outline.node id).name = around (outline.node target).name ↔
        Spelling.words (spelled.node target).name = Spelling.words (outline.node target).name) ∧
      ((outline.node target).referenceId = none →
        (outline.node id).name = around (outline.node target).name) := by
  intro draft spelled outline around isForm words typed acyclic
  have alone : (outline.node id).referenceId = none := by
    have isAuxiliary := kind_of_auxiliaryForm? input units void id (by rw [isForm]; rfl)
    have noClass := linkClass?_modifier isAuxiliary isForm words
    rw [(LinksResolve.build input units void).declaration, declarationAt?,
      Option.filter_eq_none_iff]
    intro reference _
    simp [Node.linksTo, noClass]
  have built : outline = draft.finish void := build_fst input units void
  have alone : ((draft.finish void).node id).referenceId = none := built ▸ alone
  have linked := keeps_spellNames draft.link void
  have first : (draft.link.node id).name = (draft.node id).name :=
    (keeps_link draft).read Node.name (·.1.name) (fun _ => rfl) id
  have sameForm : (draft.link.node id).auxiliaryForm? = (outline.node id).auxiliaryForm? := by
    rw [built, read_finish_of_alone alone Node.auxiliaryForm? fun _ => rfl,
      linked.read Node.auxiliaryForm? Node.auxiliaryForm? (fun _ => rfl)]
  have sameType : (draft.link.node id).typeId = (outline.node id).typeId := by
    rw [built, read_finish_of_alone alone Node.typeId fun _ => rfl,
      linked.read Node.typeId Node.typeId (fun _ => rfl)]
  have name : (outline.node id).name = around (spelled.node target).name := by
    rw [built, name_finish_of_alone alone,
      name_modifier (sameForm.trans isForm) words (sameType.trans typed) acyclic, first]
  refine ⟨name, ?_, fun unreferred => ?_⟩
  · have split (name : String) : around name = Spelling.joinWords
        ((before ++ [(draft.node id).name]) ++ [name] ++ behind) := by
      simp only [around, List.append_assoc, List.singleton_append]
    rw [name, split, split]
    exact Spelling.joinWords_inj
  · rw [name, built, name_finish_of_alone (built ▸ unreferred)]

/-! ### A pointer to a definition -/

/-- One object has another for its type or for its declaration. -/
def Refers (outline : Outline) (id target : NodeId) : Prop :=
  (outline.node id).typeId = some target ∨ (outline.node id).referenceId = some target

theorem lt_size_of_refers (refers : outline.Refers id target) : id < outline.size := by
  refine lt_size_of_node_ne fun outside => ?_
  simp only [Refers, outside] at refers
  rcases refers with typed | declared
  · cases typed
  · cases declared

theorem acyclic_of_rank {relation : Nat → Nat → Prop} (rank : Nat → Nat)
    (less : ∀ id target, relation id target → rank target < rank id) (id : Nat) :
    ¬ Relation.TransGen relation id id := by
  intro around
  have descends (target : Nat) (path : Relation.TransGen relation id target) :
      rank target < rank id := by
    induction path with
    | single step => exact less _ _ step
    | tail _ step ih => exact (less _ _ step).trans ih
  exact Nat.lt_irrefl _ (descends id around)

theorem acyclic_of_lt {relation : Nat → Nat → Prop}
    (earlier : ∀ id target, relation id target → target < id) (id : Nat) :
    ¬ Relation.TransGen relation id id :=
  acyclic_of_rank (fun id => id) earlier id

/-- A structure that is declared inside another and defined outside of it, with a pointer to the
definition, and a pointer to a type with a name of its own. -/
private def pointerUnit : Dwarf.UnitRecord where
  entries := #[
    { offset := 11, tag := .compileUnit },
    { offset := 20, tag := .structureType, parent := some 11,
      attributes := [⟨.name, .string, .string "Outer"⟩] },
    { offset := 24, tag := .structureType, parent := some 20,
      attributes := [⟨.name, .string, .string "Inner"⟩] },
    { offset := 30, tag := .structureType, parent := some 11,
      attributes := [⟨.specification, .ref4, .reference 24⟩] },
    { offset := 40, tag := .pointerType, parent := some 11,
      attributes := [⟨.type, .ref4, .reference 30⟩] },
    { offset := 44, tag := .baseType, parent := some 11,
      attributes := [⟨.name, .string, .string "int"⟩] },
    { offset := 48, tag := .pointerType, parent := some 11,
      attributes := [⟨.type, .ref4, .reference 44⟩] }]

/-- A pointer to a type with a name of its own is named after it. -/
theorem name_pointer_to_int :
    ((Outline.build "a.o" [pointerUnit] "void").1.node 7).name = "int *" := by
  have earlier : ∀ id ∈ (Sketch.ofUnits "a.o" [pointerUnit]).outline.searchLinks.ids,
      ∀ target ∈ (Sketch.ofUnits "a.o" [pointerUnit]).outline.searchLinks.neededNames "void" id,
        target < id := by
    decide +kernel
  rw [← link_ofUnits_eq_searchLinks] at earlier
  have acyclic := acyclic_of_lt fun id target needed =>
    earlier id (mem_ids.mpr (lt_size_of_needsName needed)) target needed
  obtain ⟨-, -, named⟩ := name_modifier_build "a.o" [pointerUnit] "void" 7 6 .pointer [] ["*"]
    (by rw [build_eq_buildBySearch]; decide +kernel) rfl
    (by rw [build_eq_buildBySearch]; decide +kernel) (acyclic 7)
  have unreferred : ((Outline.build "a.o" [pointerUnit] "void").1.node 6).referenceId = none := by
    rw [build_eq_buildBySearch]
    decide +kernel
  rw [named unreferred, ← (Sketch.shows_ofUnits "a.o" [pointerUnit]).outline,
    build_eq_buildBySearch]
  decide +kernel

/-- A pointer may lack the name that its type takes from a declaration. -/
theorem pointer_lacks_name : ¬ ∀ (input : String) (units : List Dwarf.UnitRecord) (void : String),
    let draft := (Draft.ofUnits input units).outline
    let outline := (Outline.build input units void).1
    (∀ id, ¬ Relation.TransGen outline.Refers id id) →
    ∀ (id target : NodeId) (form : AuxiliaryForm) (before behind : List String),
      (outline.node id).auxiliaryForm? = some form → form.words? = some (before, behind) →
      (outline.node id).typeId = some target →
      (outline.node id).name = Spelling.joinWords
        (before ++ [(draft.node id).name, (outline.node target).name] ++ behind) := by
  intro named
  have same := named "a.o" [pointerUnit] "void"
  rw [build_eq_buildBySearch, ← (Sketch.shows_ofUnits "a.o" [pointerUnit]).outline] at same
  have earlier : ∀ id ∈ (buildBySearch "a.o" [pointerUnit] "void").ids,
      ((buildBySearch "a.o" [pointerUnit] "void").node id).typeId.all (· < id) ∧
        ((buildBySearch "a.o" [pointerUnit] "void").node id).referenceId.all (· < id) := by
    decide +kernel
  have lacking : ((buildBySearch "a.o" [pointerUnit] "void").node 5).name = "*" := by
    decide +kernel
  have composed : Spelling.joinWords ([] ++
      [((Sketch.ofUnits "a.o" [pointerUnit]).outline.node 5).name,
        ((buildBySearch "a.o" [pointerUnit] "void").node 4).name] ++ ["*"]) = "Inner *" := by
    decide +kernel
  have acyclic := acyclic_of_lt fun id target refers => by
    obtain ⟨type, declaration⟩ := earlier id (mem_ids.mpr (lt_size_of_refers refers))
    rcases refers with typed | declared
    · simpa [typed] using type
    · simpa [declared] using declaration
  have conflict := same acyclic 5 4 .pointer [] ["*"] (by decide +kernel) rfl (by decide +kernel)
  rw [lacking, composed] at conflict
  exact absurd conflict (by decide)

end Outline

end DebugOutline
