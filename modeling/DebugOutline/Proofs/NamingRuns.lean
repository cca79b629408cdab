import DebugOutline.Proofs.Spelled

/-! The pass that spells names, as a run without any bound on how deep names stand in names. A run
tells, step by step, which object is started, gets its name or is finished. Whatever the objects of
an outline refer to, there is one run over it and no other. -/
namespace DebugOutline

open Dwarf (UnitRecord)
open Outline (Keeps pending pending_of_unmarked marked_of_pending mem_ids node_modify)

namespace Naming

/-- What happens to an object: it is started, it may get its name, and then it is done. -/
inductive Step where
  | start (id : NodeId)
  | write (id : NodeId) (name : String)
  | finish (id : NodeId)
  deriving DecidableEq, Repr

namespace Step

def id : Step → NodeId
  | start id | write id _ | finish id => id

@[simp] theorem id_start (object : NodeId) : (start object).id = object := rfl

@[simp] theorem id_write (object : NodeId) (name : String) : (write object name).id = object := rfl

@[simp] theorem id_finish (object : NodeId) : (finish object).id = object := rfl

/-- Only a name that is written changes an outline. -/
def apply (outline : Outline) : Step → Outline
  | write id name => outline.modify id fun node => { node with name := name }
  | start _ | finish _ => outline

end Step

/-- What has to be done: one object is named, pieces are read after the objects that they name, or
objects are named one after the other. -/
inductive Task where
  | name (id : NodeId)
  | read (pieces : List NamePart)
  | all (ids : List NodeId)

/-- The objects that a task asks for. -/
def Task.targets : Task → List NodeId
  | name id => [id]
  | read pieces => pieces.filterMap NamePart.target?
  | all ids => ids

/-- Doing a task from one naming to another, with the steps taken and the texts read. An object that
has been started is left alone, even if its name is still to be written. -/
inductive Runs (void : String) : Naming → Task → List Step → List String → Naming → Prop
  | known {naming : Naming} {id : NodeId} (started : naming.hasStarted id = true) :
      Runs void naming (.name id) [] [] naming
  | keep {naming : Naming} {id : NodeId} (fresh : naming.hasStarted id = false)
      (unspelled : Spelling.of? naming.outline void id = none) :
      Runs void naming (.name id) [.start id, .finish id] []
        { naming with started := naming.started.setIfInBounds id true }
  | spell {naming next : Naming} {id : NodeId} {spelling : Spelling} {log : List Step}
      {texts : List String} (fresh : naming.hasStarted id = false)
      (spelled : Spelling.of? naming.outline void id = some spelling)
      (gathered : Runs void { naming with started := naming.started.setIfInBounds id true }
        (.read spelling.parts) log texts next) :
      Runs void naming (.name id)
        (.start id :: log ++ [.write id (spelling.compose texts), .finish id]) []
        { next with outline := next.outline.modify id fun node =>
          { node with name := spelling.compose texts } }
  | nothing {naming : Naming} : Runs void naming (.read []) [] [] naming
  | plain {naming next : Naming} {piece : NamePart} {later : List NamePart} {log : List Step}
      {texts : List String} (free : piece.target? = none)
      (rest : Runs void naming (.read later) log texts next) :
      Runs void naming (.read (piece :: later)) log (piece.text naming.outline :: texts) next
  | named {naming middle next : Naming} {piece : NamePart} {later : List NamePart}
      {target : NodeId} {log more : List Step} {texts : List String}
      (needed : piece.target? = some target)
      (first : Runs void naming (.name target) log [] middle)
      (rest : Runs void middle (.read later) more texts next) :
      Runs void naming (.read (piece :: later)) (log ++ more)
        (piece.text middle.outline :: texts) next
  | done {naming : Naming} : Runs void naming (.all []) [] [] naming
  | next {naming middle next : Naming} {id : NodeId} {ids : List NodeId} {log more : List Step}
      (first : Runs void naming (.name id) log [] middle)
      (rest : Runs void middle (.all ids) more [] next) :
      Runs void naming (.all (id :: ids)) (log ++ more) [] next

variable {void : String} {before middle after other : Naming} {task : Task} {id depth : Nat}
  {log more : List Step} {texts others : List String}

/-! ### There is a run -/

theorem runs_gather {visit : Naming → NodeId → Naming} {bound : Nat}
    (one : ∀ (naming : Naming) id, pending naming.started ≤ bound →
      ∃ log, Runs void naming (.name id) log [] (visit naming id))
    (fewer : ∀ (naming : Naming) id, pending (visit naming id).started ≤ pending naming.started)
    (pieces : List NamePart) (before : Naming) (enough : pending before.started ≤ bound) :
    ∃ log, Runs void before (.read pieces) log (gather visit pieces before).1
      (gather visit pieces before).2 := by
  induction pieces generalizing before with
  | nil => exact ⟨[], .nothing⟩
  | cons piece later ih =>
    rw [gather_cons]
    unfold prepare
    cases needed : piece.target? with
    | none =>
      obtain ⟨log, rest⟩ := ih before enough
      exact ⟨log, .plain needed rest⟩
    | some target =>
      obtain ⟨log, first⟩ := one before target enough
      obtain ⟨more, rest⟩ := ih (visit before target) ((fewer before target).trans enough)
      exact ⟨log ++ more, .named needed first rest⟩

/-- With as many levels as there are objects left to start, no visit is cut off. -/
theorem runs_resolve (before : Naming) (id : Nat) (enough : pending before.started ≤ depth) :
    ∃ log, Runs void before (.name id) log [] (resolve void depth before id) := by
  induction depth generalizing before id with
  | zero => exact ⟨[], .known (marked_of_pending (Nat.eq_zero_of_le_zero enough))⟩
  | succ depth ih =>
    cases fresh : before.hasStarted id with
    | true =>
      rw [resolve_of_hasStarted fresh]
      exact ⟨[], .known fresh⟩
    | false =>
      have fewer := pending_of_unmarked fresh
      have left : pending (before.started.setIfInBounds id true) ≤ depth := by omega
      rw [resolve, fresh]
      simp only [Bool.false_eq_true, if_false]
      cases spelled : Spelling.of? before.outline void id with
      | none => exact ⟨_, .keep fresh spelled⟩
      | some spelling =>
        obtain ⟨log, gathered⟩ := runs_gather ih (pending_resolve_le void depth) spelling.parts
          { before with started := before.started.setIfInBounds id true } left
        exact ⟨_, .spell fresh spelled gathered⟩

theorem runs_foldl (void : String) (ids : List NodeId) (before : Naming)
    (enough : pending before.started ≤ depth) :
    ∃ log, Runs void before (.all ids) log [] (ids.foldl (resolve void depth) before) := by
  induction ids generalizing before with
  | nil => exact ⟨[], .done⟩
  | cons id rest ih =>
    obtain ⟨log, first⟩ := runs_resolve before id enough
    obtain ⟨more, later⟩ := ih (resolve void depth before id)
      ((pending_resolve_le void depth before id).trans enough)
    exact ⟨log ++ more, .next first later⟩

/-! ### There is no other run -/

theorem Runs.unique (run : Runs void before task log texts after)
    (again : Runs void before task more others other) :
    more = log ∧ others = texts ∧ other = after := by
  induction run generalizing more others other with
  | known started =>
    cases again with
    | known => exact ⟨rfl, rfl, rfl⟩
    | keep fresh | spell fresh => exact absurd (started.symm.trans fresh) (by decide)
  | keep fresh unspelled =>
    cases again with
    | known started => exact absurd (started.symm.trans fresh) (by decide)
    | keep => exact ⟨rfl, rfl, rfl⟩
    | spell _ spelled => exact absurd (unspelled.symm.trans spelled) (by simp)
  | spell fresh spelled _ ih =>
    cases again with
    | known started => exact absurd (started.symm.trans fresh) (by decide)
    | keep _ unspelled => exact absurd (unspelled.symm.trans spelled) (by simp)
    | spell _ same gathered =>
      obtain rfl := Option.some.inj (spelled.symm.trans same)
      obtain ⟨rfl, rfl, rfl⟩ := ih gathered
      exact ⟨rfl, rfl, rfl⟩
  | nothing =>
    cases again
    exact ⟨rfl, rfl, rfl⟩
  | plain free _ ih =>
    cases again with
    | plain _ rest =>
      obtain ⟨rfl, rfl, rfl⟩ := ih rest
      exact ⟨rfl, rfl, rfl⟩
    | named needed => exact absurd (free.symm.trans needed) (by simp)
  | named needed _ _ visit ih =>
    cases again with
    | plain free => exact absurd (free.symm.trans needed) (by simp)
    | named same first rest =>
      obtain rfl := Option.some.inj (needed.symm.trans same)
      obtain ⟨rfl, -, rfl⟩ := visit first
      obtain ⟨rfl, rfl, rfl⟩ := ih rest
      exact ⟨rfl, rfl, rfl⟩
  | done =>
    cases again
    exact ⟨rfl, rfl, rfl⟩
  | next _ _ visit ih =>
    cases again with
    | next first rest =>
      obtain ⟨rfl, -, rfl⟩ := visit first
      obtain ⟨rfl, -, rfl⟩ := ih rest
      exact ⟨rfl, rfl, rfl⟩

/-! ### The steps of a run -/

/-- The steps that an object takes, with the name that it has in the end. -/
def stepsOf (void : String) (first last : Outline) (id : NodeId) : List Step :=
  match Spelling.of? first void id with
  | none => [.start id, .finish id]
  | some _ => [.start id, .write id (last.node id).name, .finish id]

/-- What the steps between two namings say. Those of one object are all its steps if it is started
in between, and none otherwise; and what is written is all that changes. -/
structure Logged (void : String) (before after : Naming) (log : List Step) : Prop where
  grows : before.Grows after
  still : ∀ id, after.hasStarted id = false ∨
    (before.outline.node id).auxiliaryForm? = some .subrange →
      (after.outline.node id).name = (before.outline.node id).name
  written : log.foldl Step.apply before.outline = after.outline
  steps : ∀ id, log.filter (·.id = id) =
    if before.hasStarted id = false ∧ after.hasStarted id = true then
      stepsOf void before.outline after.outline id
    else []

namespace Logged

theorem refl (void : String) (naming : Naming) : Logged void naming naming [] where
  grows := .refl naming
  still _ _ := rfl
  written := rfl
  steps id := by simp

/-- An object that has not been started is spelled as before. -/
theorem of?_of_fresh (logged : Logged void before after log)
    (fresh : after.hasStarted id = false) :
    Spelling.of? after.outline void id = Spelling.of? before.outline void id := by
  refine logged.grows.kept.spelling (logged.still id (.inl fresh)) fun dimension member => ?_
  exact logged.still dimension (.inr (by simpa using (List.mem_filter.mp member).2))

theorem trans (first : Logged void before middle log) (second : Logged void middle after more) :
    Logged void before after (log ++ more) where
  grows := first.grows.trans second.grows
  still id still := by
    have form := first.grows.kept.read Node.auxiliaryForm? Node.auxiliaryForm? (fun _ => rfl) id
    have earlier : after.hasStarted id = false → middle.hasStarted id = false := by
      intro fresh
      cases started : middle.hasStarted id with
      | false => rfl
      | true => exact (second.grows.started id started).symm.trans fresh
    rw [second.still id (still.imp_right form.trans), first.still id (still.imp_left earlier)]
  written := by rw [List.foldl_append, first.written, second.written]
  steps id := by
    rw [List.filter_append, first.steps, second.steps]
    -- An object takes its steps in the first part, in the second, or not at all.
    cases early : before.hasStarted id with
    | true => simp [first.grows.started id early]
    | false =>
      cases between : middle.hasStarted id with
      | true => simp [second.grows.started id between, stepsOf, second.grows.name id between]
      | false => simp [stepsOf, first.of?_of_fresh between]

/-- An object that keeps its name. -/
theorem keep (fresh : before.hasStarted id = false)
    (unspelled : Spelling.of? before.outline void id = none) :
    Logged void before { before with started := before.started.setIfInBounds id true }
      [.start id, .finish id] where
  grows := grows_mark before id
  still _ _ := rfl
  written := rfl
  steps other := by
    rw [hasStarted_mark]
    by_cases same : other = id
    · subst same
      simp [fresh, stepsOf, unspelled]
    · simp [Ne.symm same, same]

/-- An object that gets its name after what this is spelled from. -/
theorem spell {spelling : Spelling} (name : String) (fresh : before.hasStarted id = false)
    (spelled : Spelling.of? before.outline void id = some spelling)
    (gathered : Logged void { before with started := before.started.setIfInBounds id true }
      after log) :
    Logged void before
      { after with outline := after.outline.modify id fun node => { node with name := name } }
      (.start id :: log ++ [.write id name, .finish id]) := by
  have marked : after.hasStarted id = true :=
    gathered.grows.started id (by rw [hasStarted_mark, if_pos rfl])
  have inside : id < after.outline.size :=
    gathered.grows.kept.size ▸ lt_size_of_of? spelled
  constructor
  case grows => exact ((grows_mark before id).trans gathered.grows).write fresh name
  case still =>
    intro other still
    have apart : other ≠ id := by
      rintro rfl
      rcases still with unstarted | extent
      · exact absurd (marked.symm.trans unstarted) (by decide)
      · simp [Spelling.of?, extent, Spelling.auxiliary?] at spelled
    dsimp only
    rw [node_modify, if_neg fun same => apart same.1]
    exact gathered.still other still
  case written =>
    have same := gathered.written
    dsimp only at same
    simp [Step.apply, same]
  case steps =>
    intro other
    have inner := gathered.steps other
    have marks (outline : Outline) :
        Naming.hasStarted ⟨outline, after.started⟩ other = after.hasStarted other := rfl
    rw [hasStarted_mark] at inner
    by_cases same : other = id
    · -- None of the steps in between is its own, since it was started before them.
      subst same
      simp [inner, marks, marked, fresh, stepsOf, spelled, node_modify, inside]
    · simp [Ne.symm same, same, inner, marks, stepsOf, node_modify]

end Logged

theorem Runs.logged (run : Runs void before task log texts after) :
    Logged void before after log := by
  induction run with
  | known => exact .refl void _
  | keep fresh unspelled => exact .keep fresh unspelled
  | spell fresh spelled _ ih => exact .spell _ fresh spelled ih
  | nothing => exact .refl void _
  | plain _ _ ih => exact ih
  | named _ _ _ visit ih => exact visit.trans ih
  | done => exact .refl void _
  | next _ _ visit ih => exact visit.trans ih

/-- When a task is over, all that it asked for has been started. -/
theorem Runs.hasStarted (run : Runs void before task log texts after) :
    ∀ id ∈ task.targets, after.hasStarted id = true := by
  induction run with
  | known started => simpa [Task.targets] using started
  | keep => simp [Task.targets, hasStarted_mark]
  | spell _ _ gathered _ =>
    simp only [Task.targets, List.mem_singleton, forall_eq]
    exact gathered.logged.grows.started _ (by rw [hasStarted_mark, if_pos rfl])
  | nothing => simp [Task.targets]
  | plain free _ ih => simpa [Task.targets, free] using ih
  | named needed _ rest visit ih =>
    simp only [Task.targets, List.filterMap_cons, needed, List.forall_mem_cons]
    exact ⟨rest.logged.grows.started _ (visit _ (List.mem_singleton_self _)), ih⟩
  | done => simp [Task.targets]
  | next _ rest visit ih =>
    simp only [Task.targets, List.forall_mem_cons]
    exact ⟨rest.logged.grows.started _ (visit _ (List.mem_singleton_self _)), ih⟩

/-! ### The whole pass -/

/-- Nothing has been started. -/
def fresh (outline : Outline) : Naming := ⟨outline, .replicate outline.size false⟩

/-- A template that lacks its arguments: its kind takes some, and its name is there without them. -/
structure LacksArguments (node : Node) : Prop where
  isTemplate : node.isTemplate = true
  takes : node.kind.takesArguments = true
  named : node.name ≠ ""
  bare : '<' ∉ node.name.toList

/-- A pass over all objects that comes to an end. It is the only one, and spells the names of the
outline. Each object is started once and finished once, and its name is written at most once in
between; nothing but these names changes, and only where a name is spelled. -/
structure Completes (outline : Outline) (void : String) (log : List Step) (last : Naming) :
    Prop where
  run : Runs void (fresh outline) (.all outline.ids) log [] last
  only : ∀ {other texts final}, Runs void (fresh outline) (.all outline.ids) other texts final →
    other = log ∧ final = last
  result : last.outline = outline.spellNames void
  started : ∀ id, last.hasStarted id = true
  inside : ∀ step ∈ log, step.id < outline.size
  steps : ∀ id < outline.size,
    log.filter (·.id = id) = stepsOf void outline (outline.spellNames void) id
  written : log.foldl Step.apply outline = outline.spellNames void
  kept : Keeps Node.withoutName outline (outline.spellNames void)
  renamed : ∀ id, ((outline.spellNames void).node id).name ≠ (outline.node id).name →
    (outline.node id).auxiliaryForm?.isSome ∨ LacksArguments (outline.node id)

/-- Only objects that stand for types and templates that lack their arguments are spelled. -/
theorem auxiliary_or_lacks_of_spelled {outline : Outline}
    (spelled : Spelling.of? outline void id ≠ none) :
    (outline.node id).auxiliaryForm?.isSome ∨ LacksArguments (outline.node id) := by
  unfold Spelling.of? at spelled
  dsimp only at spelled
  cases form : (outline.node id).auxiliaryForm? with
  | some form => exact .inl rfl
  | none =>
    rw [form] at spelled
    have lacks : Spelling.lacksArguments (outline.node id) = true := by
      by_contra full
      simp [full] at spelled
    simp only [Spelling.lacksArguments, Bool.and_eq_true, bne_iff_ne, Bool.not_eq_true',
      ← Bool.not_eq_true, List.contains_iff_mem] at lacks
    obtain ⟨⟨⟨isTemplate, takes⟩, named⟩, bare⟩ := lacks
    exact .inr ⟨isTemplate, takes, named, bare⟩

theorem exists_completes (outline : Outline) (void : String) :
    ∃ log last, Completes outline void log last := by
  have few : pending (fresh outline).started ≤ outline.size :=
    Array.count_le_size.trans_eq Array.size_replicate
  obtain ⟨log, run⟩ := runs_foldl void outline.ids (fresh outline) few
  have logged := run.logged
  have marks (id : Nat) : (fresh outline).hasStarted id = false ↔ id < outline.size := by
    by_cases inside : id < outline.size <;> simp [fresh, Naming.hasStarted, Array.getD, inside]
  have started (id : Nat) :
      (outline.ids.foldl (resolve void outline.size) (fresh outline)).hasStarted id = true := by
    by_cases inside : id < outline.size
    · exact run.hasStarted id (mem_ids.mpr inside)
    · have beyond : (fresh outline).hasStarted id = true := by
        simpa only [Bool.not_eq_false] using mt (marks id).mp inside
      exact logged.grows.started id beyond
  refine ⟨log, outline.ids.foldl (resolve void outline.size) (fresh outline), ?_⟩
  constructor
  case run => exact run
  case only =>
    intro other texts final again
    obtain ⟨same, -, ends⟩ := run.unique again
    exact ⟨same, ends⟩
  case result => rfl
  case started => exact started
  case inside =>
    intro step member
    by_contra outside
    have none := logged.steps step.id
    rw [if_neg fun both => outside ((marks step.id).mp both.1), List.filter_eq_nil_iff] at none
    simpa using none step member
  case steps =>
    intro id inside
    rw [logged.steps, if_pos ⟨(marks id).mpr inside, started id⟩]
    rfl
  case written => exact logged.written
  case kept => exact logged.grows.kept
  case renamed =>
    intro id changed
    exact auxiliary_or_lacks_of_spelled fun unspelled =>
      changed (Outline.name_spellNames_of_unspelled unspelled)

end Naming

/-- Spelling names comes to an end, with every object started and finished once, whatever the
objects refer to. In the outline of an input file it only renames auxiliary objects and templates
that lack their arguments. -/
theorem Outline.spellNames_completes (void : String) :
    (∀ outline : Outline, ∃ log last, Naming.Completes outline void log last) ∧
    ∀ (input : String) (units : List UnitRecord) (id : NodeId),
      let linked := (Draft.ofUnits input units).outline.link
      ((linked.spellNames void).node id).name ≠ (linked.node id).name →
        (linked.node id).kind = .auxiliary ∨ Naming.LacksArguments (linked.node id) := by
  refine ⟨fun outline => Naming.exists_completes outline void, fun input units id => ?_⟩
  intro linked changed
  obtain ⟨log, last, completes⟩ := Naming.exists_completes linked void
  refine (completes.renamed id changed).imp_left fun form => ?_
  have kept := keeps_link (Draft.ofUnits input units).outline
  have kind : (linked.node id).kind = ((Draft.ofUnits input units).outline.node id).kind :=
    kept.read Node.kind (·.1.kind) (fun _ => rfl) id
  have same : (linked.node id).auxiliaryForm? =
      ((Draft.ofUnits input units).outline.node id).auxiliaryForm? :=
    kept.read Node.auxiliaryForm? (·.1.auxiliaryForm?) (fun _ => rfl) id
  rw [kind]
  exact Draft.kind_of_auxiliaryForm? input units id (same ▸ form)

end DebugOutline
