import DebugOutline.Proofs.NameRules

/-! Templates with their arguments. An argument that is a type shows the scopes around the type,
with the names that these have when the argument is read: a scope that is itself a template shows
its own arguments only if it has got them by then. Which of two objects is named first depends on
where they stand in the outline, and on where the objects stand whose names depend on theirs. -/
namespace DebugOutline

namespace Outline

/-- The name of one object depends on that of another, however indirectly. -/
def RestsOn (outline : Outline) : NodeId → NodeId → Prop :=
  Relation.ReflTransGen outline.NameDepends

/-- Something that leads to one object comes before everything that leads to another. -/
def NamedBefore (outline : Outline) (id other : NodeId) : Prop :=
  ∃ first, outline.RestsOn first id ∧ ∀ start, outline.RestsOn start other → first < start

/-- An outline in the middle of the pass, when a piece of the name of `id` is read: the objects of
`named` have the names that they have in `current`, all others still their first. -/
structure Midway (linked current : Outline) (id : NodeId) (piece : NamePart)
    (named : NodeId → Prop) (midway : Outline) : Prop where
  others : Keeps Node.withoutName linked midway
  first : ∀ other, ¬ named other → (midway.node other).name = (linked.node other).name
  last : ∀ other, named other → (midway.node other).name = (current.node other).name
  self : ¬ named id
  target : ∀ target ∈ piece.target?, named target
  needed : ∀ other target, named other → linked.NameDepends other target → named target
  before : ∀ other, linked.NamedBefore other id → named other
  after : ∀ other < linked.size, linked.NamedBefore id other → ¬ named other

end Outline

namespace Naming

open Outline

variable {linked : Outline} {void : String} {root id depth : Nat} {active inner : NodeId → Prop}
  {naming middle next : Naming} {spelling : Spelling} {texts : List String}

/-! ### What has been named -/

/-- Done with: visited, and no longer being named. -/
def Settled (active : NodeId → Prop) (naming : Naming) (id : NodeId) : Prop :=
  naming.hasStarted id = true ∧ ¬ active id

/-- What is done with stays so, under its name. -/
def Advances (active : NodeId → Prop) (naming : Naming) (inner : NodeId → Prop) (next : Naming) :
    Prop :=
  ∀ id, Settled active naming id →
    Settled inner next id ∧ (next.outline.node id).name = (naming.outline.node id).name

theorem Advances.refl (active : NodeId → Prop) (naming : Naming) :
    Advances active naming active naming :=
  fun _ settled => ⟨settled, rfl⟩

theorem Advances.trans {outer : NodeId → Prop} (first : Advances active naming inner middle)
    (second : Advances inner middle outer next) : Advances active naming outer next := by
  intro id settled
  obtain ⟨known, name⟩ := first id settled
  obtain ⟨still, same⟩ := second id known
  exact ⟨still, same.trans name⟩

/-- A text was read midway, when everything that had its name was done with. -/
def ReadMidway (linked : Outline) (active : NodeId → Prop) (naming : Naming) (id : NodeId)
    (piece : NamePart) (text : String) : Prop :=
  ∃ named midway, Midway linked naming.outline id piece named midway ∧ text = piece.text midway ∧
    ∀ other, named other → Settled active naming other

theorem ReadMidway.advance {piece : NamePart} {text : String}
    (read : ReadMidway linked active naming id piece text)
    (advances : Advances active naming inner next) :
    ReadMidway linked inner next id piece text := by
  obtain ⟨named, midway, amid, same, settled⟩ := read
  refine ⟨named, midway, { amid with last := fun other done => ?_ }, same, fun other done => ?_⟩
  · exact (amid.last other done).trans (advances other (settled other done)).2.symm
  · exact (advances other (settled other done)).1

/-- The name of an object is put together from texts that were read midway. -/
def Recorded (linked : Outline) (active : NodeId → Prop) (naming : Naming) (id : NodeId)
    (spelling : Spelling) : Prop :=
  ∃ texts, (naming.outline.node id).name = spelling.compose texts ∧
    List.Forall₂ (ReadMidway linked active naming id) spelling.parts texts

/-! ### Stages of the pass -/

/-- What holds while `root` is visited and the objects of `active` are being named: besides the
names, whatever has been named has been named after all that it needs, objects before `root` have
been named, and whatever was visited leads back to `root` or an object before it. -/
structure Stage (linked : Outline) (void : String) (root : NodeId) (active : NodeId → Prop)
    (naming : Naming) : Prop where
  follows : Follows linked void active naming
  closed : ∀ id target, Settled active naming id → linked.NameDepends id target →
    Settled active naming target
  earlier : ∀ id < root, Settled active naming id
  reached : ∀ id < linked.size, naming.hasStarted id = true → ∃ first ≤ root, linked.RestsOn first id
  path : ∀ id, active id → linked.RestsOn root id
  recorded : ∀ id spelling, Spelling.of? linked void id = some spelling →
    Settled active naming id → Recorded linked active naming id spelling

namespace Stage

theorem settled_of_restsOn {other : Nat} (stage : Stage linked void root active naming)
    (settled : Settled active naming id) (leads : linked.RestsOn id other) :
    Settled active naming other := by
  induction leads with
  | refl => exact settled
  | tail _ depends ih => exact stage.closed _ _ ih depends

/-- While an object is being named, whatever is named before it has its name, and whatever it is
named before does not. -/
theorem midway {piece : NamePart} (stage : Stage linked void root active naming)
    (activity : active id) (target : ∀ target ∈ piece.target?, Settled active naming target) :
    Midway linked naming.outline id piece (Settled active naming) naming.outline where
  others := stage.follows.kept
  first other unsettled := by
    refine stage.follows.own other ?_
    cases started : naming.hasStarted other with
    | false => exact .inl rfl
    | true => exact .inr (.inl (not_not.mp fun passive => unsettled ⟨started, passive⟩))
  last _ _ := rfl
  self settled := settled.2 activity
  target := target
  needed other target settled depends := stage.closed other target settled depends
  -- What comes before all that leads to `id` comes before `root`, so its visit is over.
  before other := by
    rintro ⟨first, leads, least⟩
    have sooner := least root (stage.path id activity)
    exact stage.settled_of_restsOn (stage.earlier first sooner) leads
  -- Something before `root` would lead to `id`, and then `id` would not be waiting for its name.
  after other inside := by
    rintro ⟨first, leads, least⟩ settled
    obtain ⟨start, reached, back⟩ := stage.reached other inside settled.1
    have sooner : first < root := (least start back).trans_le reached
    exact (stage.settled_of_restsOn (stage.earlier first sooner) leads).2 activity

/-- From one stage to the next: at most one object is done with in addition. -/
theorem advance (stage : Stage linked void root active naming)
    (follows : Follows linked void inner next) (advances : Advances active naming inner next)
    (fresh : ∀ other, Settled inner next other → Settled active naming other ∨ other = id)
    (needed : ∀ target, Settled inner next id → linked.NameDepends id target →
      Settled inner next target)
    (recorded : ∀ spelling, Spelling.of? linked void id = some spelling →
      Settled inner next id → Recorded linked inner next id spelling)
    (reached : ∀ other, next.hasStarted other = true →
      naming.hasStarted other = true ∨ linked.RestsOn root other)
    (path : ∀ other, inner other → linked.RestsOn root other) :
    Stage linked void root inner next where
  follows := follows
  closed other target settled depends := by
    rcases fresh other settled with known | rfl
    · exact (advances target (stage.closed other target known depends)).1
    · exact needed target settled depends
  earlier other sooner := (advances other (stage.earlier other sooner)).1
  reached other inside started := by
    rcases reached other started with known | leads
    · exact stage.reached other inside known
    · exact ⟨root, Nat.le_refl _, leads⟩
  path := path
  recorded other spelling spelled settled := by
    rcases fresh other settled with known | rfl
    · obtain ⟨texts, name, read⟩ := stage.recorded other spelling spelled known
      obtain ⟨-, same⟩ := advances other known
      exact ⟨texts, same.trans name, read.imp fun _ _ read => read.advance advances⟩
    · exact recorded spelling spelled settled

/-! ### One visit -/

theorem advances_mark (fresh : naming.hasStarted id = false) :
    Advances active naming (fun other => active other ∨ other = id)
      ⟨naming.outline, naming.started.setIfInBounds id true⟩ := by
  rintro other ⟨started, passive⟩
  have apart : other ≠ id := by
    rintro rfl
    exact Bool.false_ne_true (fresh.symm.trans started)
  refine ⟨⟨?_, not_or.mpr ⟨passive, apart⟩⟩, rfl⟩
  rw [hasStarted_mark, if_neg apart]
  exact started

theorem mark (stage : Stage linked void root active naming) (fresh : naming.hasStarted id = false)
    (rests : linked.RestsOn root id) :
    Stage linked void root (fun other => active other ∨ other = id)
      ⟨naming.outline, naming.started.setIfInBounds id true⟩ := by
  refine stage.advance (stage.follows.mark fresh) (advances_mark fresh) ?_
    (fun target settled => absurd (.inr rfl) settled.2)
    (fun spelling _ settled => absurd (.inr rfl) settled.2) ?_ ?_
  · rintro other ⟨started, inactive⟩
    obtain ⟨passive, apart⟩ := not_or.mp inactive
    rw [hasStarted_mark, if_neg apart] at started
    exact .inl ⟨started, passive⟩
  · intro other started
    rw [hasStarted_mark] at started
    split at started
    · rename_i same
      exact .inr (same ▸ rests)
    · exact .inl started
  · rintro other (activity | rfl)
    · exact stage.path other activity
    · exact rests

theorem advances_release :
    Advances (fun other => active other ∨ other = id) naming active naming :=
  fun _ settled => ⟨⟨settled.1, (not_or.mp settled.2).1⟩, rfl⟩

theorem settled_or_eq {other : Nat} (settled : Settled active naming other) :
    Settled (fun other => active other ∨ other = id) naming other ∨ other = id := by
  by_cases same : other = id
  · exact .inr same
  · exact .inl ⟨settled.1, not_or.mpr ⟨settled.2, same⟩⟩

/-- Done with an object that keeps its name. -/
theorem release (stage : Stage linked void root (fun other => active other ∨ other = id) naming)
    (unspelled : Spelling.of? linked void id = none) : Stage linked void root active naming := by
  refine stage.advance (stage.follows.release unspelled) advances_release
    (fun other => settled_or_eq) ?_ ?_ (fun other started => .inl started)
    (fun other activity => stage.path other (.inl activity))
  · intro target _ depends
    have needed : linked.NeedsName void id target := needsName_iff_nameDepends.mpr depends
    rw [NeedsName, neededNames, unspelled] at needed
    exact absurd needed List.not_mem_nil
  · intro spelling spelled
    exact absurd (unspelled.symm.trans spelled) (by simp)

theorem advances_name (change : Node → Node) :
    Advances (fun other => active other ∨ other = id) naming active
      { naming with outline := naming.outline.modify id change } := by
  intro other settled
  obtain ⟨passive, apart⟩ := not_or.mp settled.2
  exact ⟨⟨settled.1, passive⟩, by rw [node_modify, if_neg fun same => apart same.1]⟩

/-- Done with an object that gets its name. -/
theorem name (stage : Stage linked void root (fun other => active other ∨ other = id) naming)
    (spelled : Spelling.of? linked void id = some spelling)
    (follows : Follows linked void active { naming with
      outline := naming.outline.modify id fun node => { node with name := spelling.compose texts } })
    (read : List.Forall₂ (ReadMidway linked (fun other => active other ∨ other = id) naming id)
      spelling.parts texts)
    (settled : ∀ piece ∈ spelling.parts, ∀ target ∈ piece.target?,
      Settled (fun other => active other ∨ other = id) naming target) :
    Stage linked void root active { naming with
      outline := naming.outline.modify id fun node =>
        { node with name := spelling.compose texts } } := by
  have advances : Advances (fun other => active other ∨ other = id) naming active _ :=
    advances_name fun node => { node with name := spelling.compose texts }
  have inside : id < naming.outline.size := stage.follows.kept.size ▸ lt_size_of_of? spelled
  refine stage.advance follows advances (fun other done => settled_or_eq done) ?_ ?_
    (fun other started => .inl started) (fun other activity => stage.path other (.inl activity))
  · intro target _ depends
    obtain ⟨piece, member, needed⟩ :=
      (needsName_iff spelled).mp (needsName_iff_nameDepends.mpr depends)
    exact (advances target (settled piece member target needed)).1
  · intro also same _
    obtain rfl := Option.some.inj (spelled.symm.trans same)
    refine ⟨texts, ?_, read.imp fun _ _ read => read.advance advances⟩
    rw [node_modify, if_pos ⟨rfl, inside⟩]

section

variable (acyclic : ∀ id, ¬ Relation.TransGen linked.NameDepends id id)
include acyclic

section Gather

variable {visit : Naming → NodeId → Naming} {bound : Nat}
  (one : ∀ naming target, Stage linked void root active naming →
    (∀ outer, active outer → Relation.TransGen linked.NameDepends outer target) →
    linked.RestsOn root target → pending naming.started ≤ bound →
    Stage linked void root active (visit naming target) ∧
      Advances active naming active (visit naming target) ∧
      (visit naming target).hasStarted target = true)
  (fewer : ∀ naming id, pending (visit naming id).started ≤ pending naming.started)
  (activity : active id)
include one fewer activity

/-- Visiting what a piece of the name of an object needs. That is not being named itself, since it
would lead back to itself. -/
theorem prepare (stage : Stage linked void root active naming)
    (enough : pending naming.started ≤ bound) (piece : NamePart)
    (above : ∀ target ∈ piece.target?, ∀ outer, active outer →
      Relation.TransGen linked.NameDepends outer target) :
    Stage linked void root active (prepare visit piece naming) ∧
      Advances active naming active (prepare visit piece naming) ∧
      pending (prepare visit piece naming).started ≤ bound ∧
      ∀ target ∈ piece.target?, Settled active (prepare visit piece naming) target := by
  unfold Naming.prepare
  split
  · rename_i target needed
    have leads := above target needed
    obtain ⟨after, advances, started⟩ := one naming target stage leads
      ((stage.path id activity).trans (leads id activity).to_reflTransGen) enough
    refine ⟨after, advances, (fewer naming target).trans enough, fun other same => ?_⟩
    obtain rfl := Option.some.inj (needed.symm.trans same)
    exact ⟨started, fun around => acyclic target (leads target around)⟩
  · rename_i unneeded
    exact ⟨stage, .refl _ _, enough, fun other needed =>
      absurd (unneeded.symm.trans needed) (by simp)⟩

/-- Reading the pieces of a name, each after what it needs. -/
theorem gather (stage : Stage linked void root active naming)
    (enough : pending naming.started ≤ bound) (pieces : List NamePart)
    (above : ∀ piece ∈ pieces, ∀ target ∈ piece.target?, ∀ outer, active outer →
      Relation.TransGen linked.NameDepends outer target) :
    Stage linked void root active (Naming.gather visit pieces naming).2 ∧
      Advances active naming active (Naming.gather visit pieces naming).2 ∧
      List.Forall₂ (ReadMidway linked active (Naming.gather visit pieces naming).2 id) pieces
        (Naming.gather visit pieces naming).1 ∧
      ∀ piece ∈ pieces, ∀ target ∈ piece.target?,
        Settled active (Naming.gather visit pieces naming).2 target := by
  induction pieces generalizing naming with
  | nil => exact ⟨stage, .refl _ _, .nil, fun _ none => absurd none List.not_mem_nil⟩
  | cons piece later ih =>
    obtain ⟨own, more⟩ := List.forall_mem_cons.mp above
    obtain ⟨between, toPiece, left, settled⟩ :=
      stage.prepare acyclic one fewer activity enough piece own
    obtain ⟨after, toEnd, read, all⟩ := ih between left more
    rw [gather_cons]
    refine ⟨after, toPiece.trans toEnd, .cons ?_ read, List.forall_mem_cons.mpr ⟨?_, all⟩⟩
    · have now : ReadMidway linked active (Naming.prepare visit piece naming) id piece
          (piece.text (Naming.prepare visit piece naming).outline) :=
        ⟨_, _, between.midway activity settled, rfl, fun _ done => done⟩
      exact now.advance toEnd
    · exact fun target needed => (toEnd target (settled target needed)).1

end Gather

/-- Naming an object while the objects that rest on it are being named. -/
theorem resolve (stage : Stage linked void root active naming)
    (above : ∀ outer, active outer → Relation.TransGen linked.NameDepends outer id)
    (rests : linked.RestsOn root id) (enough : pending naming.started ≤ depth) :
    Stage linked void root active (resolve void depth naming id) ∧
      Advances active naming active (resolve void depth naming id) := by
  induction depth generalizing active naming id with
  | zero =>
    have started : naming.hasStarted id = true := marked_of_pending (Nat.eq_zero_of_le_zero enough)
    rw [resolve_of_hasStarted started]
    exact ⟨stage, .refl _ _⟩
  | succ depth ih =>
    cases fresh : naming.hasStarted id with
    | true =>
      rw [resolve_of_hasStarted fresh]
      exact ⟨stage, .refl _ _⟩
    | false =>
      have fewer := pending_of_unmarked fresh
      have left : pending (naming.started.setIfInBounds id true) ≤ depth := by omega
      have marked := stage.mark fresh rests
      have advances : Advances active naming (fun other => active other ∨ other = id) _ :=
        advances_mark fresh
      have inactive : ¬ active id := fun activity =>
        Bool.false_ne_true (fresh.symm.trans (stage.follows.visited id activity))
      rw [Naming.resolve, fresh]
      simp only [Bool.false_eq_true, if_false]
      rw [stage.follows.of?_of_fresh fresh]
      cases spelled : Spelling.of? linked void id with
      | none => exact ⟨marked.release spelled, advances.trans advances_release⟩
      | some spelling =>
        have leads (piece : NamePart) (member : piece ∈ spelling.parts) (target : NodeId)
            (needed : target ∈ piece.target?) (outer : NodeId)
            (activity : active outer ∨ outer = id) :
            Relation.TransGen linked.NameDepends outer target := by
          have depends : linked.NameDepends id target := needsName_iff_nameDepends.mp
            ((needsName_iff spelled).mpr ⟨piece, member, needed⟩)
          rcases activity with activity | rfl
          · exact (above outer activity).tail depends
          · exact .single depends
        obtain ⟨gathered, toEnd, read, settled⟩ := marked.gather acyclic
          (fun naming target stage above rests enough =>
            ⟨(ih stage above rests enough).1, (ih stage above rests enough).2,
              hasStarted_resolve enough⟩)
          (pending_resolve_le void depth) (.inr rfl) left spelling.parts leads
        have follows := gathered.follows.name spelled (lt_size_of_of? spelled) inactive
          (needsName_eq linked void ▸ above)
          (texts_gather spelling.parts _ left)
        exact ⟨gathered.name spelled follows read settled,
          (advances.trans toEnd).trans (advances_name _)⟩

end

end Stage

/-! ### The whole pass -/

/-- Nothing has been visited yet. -/
theorem stage_start (linked : Outline) (void : String) :
    Stage linked void 0 (fun _ => False) ⟨linked, .replicate linked.size false⟩ := by
  have unvisited (id : Nat) (inside : id < linked.size) :
      Naming.hasStarted ⟨linked, .replicate linked.size false⟩ id = false := by
    simp [hasStarted, Array.getD, inside]
  refine ⟨follows_start linked void, fun id target settled depends => ?_,
    fun id none => absurd none (Nat.not_lt_zero id), fun id inside started => ?_,
    fun id none => none.elim, fun id spelling spelled settled => ?_⟩
  · have needed : linked.NeedsName void id target := needsName_iff_nameDepends.mpr depends
    rw [Settled, unvisited id (lt_size_of_needsName needed)] at settled
    exact absurd settled.1 Bool.false_ne_true
  · rw [unvisited id inside] at started
    exact absurd started Bool.false_ne_true
  · rw [Settled, unvisited id (lt_size_of_of? spelled)] at settled
    exact absurd settled.1 Bool.false_ne_true

/-- The next object is visited when the one before it is done with. -/
theorem Stage.proceed (stage : Stage linked void root (fun _ => False) naming)
    (settled : Settled (fun _ => False) naming root) :
    Stage linked void (root + 1) (fun _ => False) naming where
  follows := stage.follows
  closed := stage.closed
  earlier id sooner := by
    rcases Nat.lt_succ_iff_lt_or_eq.mp sooner with earlier | rfl
    · exact stage.earlier id earlier
    · exact settled
  reached id inside started := by
    obtain ⟨first, before, rests⟩ := stage.reached id inside started
    exact ⟨first, before.trans (Nat.le_succ root), rests⟩
  path _ none := none.elim
  recorded := stage.recorded

/-- When the pass is over, every object is done with. -/
theorem stage_spellNames (linked : Outline) (void : String)
    (acyclic : ∀ id, ¬ Relation.TransGen linked.NameDepends id id) :
    ∃ naming : Naming, naming.outline = linked.spellNames void ∧
      Stage linked void linked.size (fun _ => False) naming := by
  have pass (count : Nat) :
      let naming := (List.range count).foldl (resolve void linked.size)
        ⟨linked, .replicate linked.size false⟩
      Stage linked void count (fun _ => False) naming ∧ pending naming.started ≤ linked.size := by
    induction count with
    | zero => exact ⟨stage_start linked void, Array.count_le_size.trans_eq Array.size_replicate⟩
    | succ count ih =>
      obtain ⟨stage, enough⟩ := ih
      rw [List.range_succ, List.foldl_concat]
      obtain ⟨after, -⟩ := stage.resolve acyclic (fun _ none => none.elim) .refl enough
      exact ⟨after.proceed ⟨hasStarted_resolve enough, not_false⟩,
        (pending_resolve_le void _ _ count).trans enough⟩
  exact ⟨_, rfl, (pass linked.size).1⟩

end Naming

namespace Outline

variable {linked : Outline} {void : String} {id : Nat}

/-- What something named rests on has been named as well. -/
theorem Midway.named_of_restsOn {current midway : Outline} {piece : NamePart}
    {named : NodeId → Prop} {target other : Nat}
    (amid : Midway linked current id piece named midway) (done : named target)
    (rests : linked.RestsOn target other) : named other := by
  induction rests with
  | refl => exact done
  | tail _ depends ih => exact amid.needed _ _ ih depends

/-- Under scopes that have the names they have in the end, a type is qualified as in the end. -/
theorem text_midway {current midway : Outline} {named : NodeId → Prop} {target : Nat}
    (amid : Midway linked current id (.qualifiedNameOf target) named midway)
    (kept : Keeps Node.withoutName linked current)
    (same : ∀ scope ∈ linked.enclosing (linked.node target).parent,
      (midway.node scope).name = (current.node scope).name) :
    (NamePart.qualifiedNameOf target).text midway =
      (NamePart.qualifiedNameOf target).text current := by
  have places := (kept.symm.trans amid.others).weaken _ skeleton_of_withoutName
  have fromLinked := kept.weaken _ skeleton_of_withoutName
  have under : midway.qualifierUnder (current.node target).parent =
      current.qualifierUnder (current.node target).parent := by
    refine places.qualifierUnder fun scope member => same scope ?_
    rwa [fromLinked.enclosing, fromLinked.parent] at member
  simp only [NamePart.text, places.kind, places.parent, under,
    amid.last target (amid.target target rfl)]

private theorem eq_map_of_forall₂ {relation : α → β → Prop} {value : α → β} {items : List α}
    {images : List β} (related : List.Forall₂ relation items images)
    (same : ∀ item ∈ items, ∀ image, relation item image → image = value item) :
    images = items.map value := by
  induction related with
  | nil => rfl
  | cons first _ ih =>
    obtain ⟨own, others⟩ := List.forall_mem_cons.mp same
    rw [List.map_cons, own _ first, ih others]

/-- An argument that names an object shows it with the scopes around it. -/
theorem not_nameOf_mem_arguments {target : Nat} :
    .nameOf target ∉ Spelling.arguments linked id := by
  intro member
  obtain ⟨parameter, -, argument⟩ := List.mem_filterMap.mp member
  unfold Spelling.argument? at argument
  split at argument
  · split at argument <;> cases argument
  all_goals cases argument

/-- A template gets its arguments in the order of its parameters, each as it reads midway through
the pass. Where every scope around a type has no other name in the end, or is named before the
template, the arguments read as in the end. -/
theorem name_suffixed (linked : Outline) (void : String)
    (acyclic : ∀ id, ¬ Relation.TransGen linked.NameDepends id id) (id : NodeId)
    (suffixed : (linked.node id).isSuffixed = true) :
    let final := linked.spellNames void
    let suffix (texts : List String) :=
      (linked.node id).name ++ "<" ++ String.intercalate ", " texts ++ ">"
    (∃ texts, (final.node id).name = suffix texts ∧ List.Forall₂ (fun piece text =>
        ∃ named midway, Midway linked final id piece named midway ∧ text = piece.text midway)
      (Spelling.arguments linked id) texts) ∧
    ((∀ target, .qualifiedNameOf target ∈ Spelling.arguments linked id →
      ∀ scope ∈ linked.enclosing (linked.node target).parent,
        (final.node scope).name = (linked.node scope).name ∨ linked.RestsOn target scope ∨
          linked.NamedBefore scope id) →
      (final.node id).name = suffix ((Spelling.arguments linked id).map (·.text final))) := by
  intro final suffix
  have spelled : Spelling.of? linked void id = some (Spelling.template linked id) := by
    simp only [Node.isSuffixed, Bool.and_eq_true, Option.isNone_iff_eq_none] at suffixed
    simp [Spelling.of?, suffixed]
  obtain ⟨naming, same, stage⟩ := Naming.stage_spellNames linked void acyclic
  obtain ⟨texts, name, read⟩ := stage.recorded id _ spelled
    (stage.earlier id (Naming.lt_size_of_of? spelled))
  have kept := keeps_spellNames linked void
  rw [same] at name
  have read : List.Forall₂ (fun piece text =>
      ∃ named midway, Midway linked final id piece named midway ∧ text = piece.text midway)
      (Spelling.arguments linked id) texts := by
    refine read.imp fun piece text => ?_
    rintro ⟨named, midway, amid, text, -⟩
    rw [same] at amid
    exact ⟨named, midway, amid, text⟩
  refine ⟨⟨texts, name, read⟩, fun settled => name.trans (congrArg suffix ?_)⟩
  refine eq_map_of_forall₂ read fun piece member text => ?_
  rintro ⟨named, midway, amid, rfl⟩
  cases piece with
  | literal text => rfl
  | nameOf target => exact absurd member not_nameOf_mem_arguments
  | qualifiedNameOf target =>
    refine text_midway amid kept fun scope encloses => ?_
    by_cases done : named scope
    · exact amid.last scope done
    · rcases settled target member scope encloses with kept | rests | before
      · exact (amid.first scope done).trans kept.symm
      · exact absurd (amid.named_of_restsOn (amid.target target rfl) rests) done
      · exact absurd (amid.before scope before) done

/-! ### A type inside a template -/

/-- A template with a structure inside, and two templates over that structure, one described before
the template around it and one after. -/
private def templateUnit : Dwarf.UnitRecord where
  entries := #[
    { offset := 11, tag := .compileUnit },
    { offset := 20, tag := .baseType, parent := some 11,
      attributes := [⟨.name, .string, .string "int"⟩] },
    { offset := 24, tag := .classType, parent := some 11,
      attributes := [⟨.name, .string, .string "Early"⟩] },
    { offset := 28, tag := .templateTypeParameter, parent := some 24,
      attributes := [⟨.name, .string, .string "T"⟩, ⟨.type, .ref4, .reference 44⟩] },
    { offset := 36, tag := .classType, parent := some 11,
      attributes := [⟨.name, .string, .string "Box"⟩] },
    { offset := 40, tag := .templateTypeParameter, parent := some 36,
      attributes := [⟨.name, .string, .string "T"⟩, ⟨.type, .ref4, .reference 20⟩] },
    { offset := 44, tag := .structureType, parent := some 36,
      attributes := [⟨.name, .string, .string "Inner"⟩] },
    { offset := 48, tag := .classType, parent := some 11,
      attributes := [⟨.name, .string, .string "Late"⟩] },
    { offset := 52, tag := .templateTypeParameter, parent := some 48,
      attributes := [⟨.name, .string, .string "T"⟩, ⟨.type, .ref4, .reference 44⟩] }]

private theorem acyclic_templateUnit (id : Nat) : ¬ Relation.TransGen
    (Draft.ofUnits "a.o" [templateUnit]).outline.link.NameDepends id id := by
  have less : ∀ id ∈ (Sketch.ofUnits "a.o" [templateUnit]).outline.searchLinks.ids, ∀ target ∈
      (Sketch.ofUnits "a.o" [templateUnit]).outline.searchLinks.neededNames "void" id,
        [0, 0, 0, 1, 0, 1, 0, 0, 1].getD target 0 < [0, 0, 0, 1, 0, 1, 0, 0, 1].getD id 0 := by
    decide +kernel
  rw [← link_ofUnits_eq_searchLinks] at less
  exact acyclic_nameDepends (fun id => [0, 0, 0, 1, 0, 1, 0, 0, 1].getD id 0) less id

/-- The template around the structure is named before the later one of the others. -/
theorem name_suffixed_late :
    let linked := (Draft.ofUnits "a.o" [templateUnit]).outline.link
    (∀ id, ¬ Relation.TransGen linked.NameDepends id id) ∧ (linked.node 8).isSuffixed = true ∧
      ((linked.spellNames "void").node 8).name = "Late<Box<int>::Inner>" := by
  intro linked
  have known : linked = (Sketch.ofUnits "a.o" [templateUnit]).outline.searchLinks :=
    link_ofUnits_eq_searchLinks "a.o" [templateUnit]
  have suffixed : (linked.node 8).isSuffixed = true := by
    rw [known]
    decide +kernel
  refine ⟨acyclic_templateUnit, suffixed, ?_⟩
  obtain ⟨-, named⟩ := name_suffixed linked "void" acyclic_templateUnit 8 suffixed
  have arguments : Spelling.arguments linked 8 = [.qualifiedNameOf 7] := by
    rw [known]
    decide +kernel
  have enclosing : linked.enclosing (linked.node 7).parent = [5] := by
    rw [known]
    decide +kernel
  have unneeded : ∀ id ∈ linked.ids, 8 ∉ linked.neededNames "void" id := by
    rw [known]
    decide +kernel
  have alone (start : Nat) (rests : linked.RestsOn start 8) : 5 < start := by
    rcases rests.cases_tail with same | ⟨other, -, depends⟩
    · exact same ▸ (by decide)
    · have needed : linked.NeedsName "void" other 8 := needsName_iff_nameDepends.mpr depends
      exact absurd needed (unneeded other (mem_ids.mpr (lt_size_of_needsName needed)))
  rw [named, arguments, known]
  · decide +kernel
  · intro target member scope encloses
    obtain rfl : target = 7 := by simpa [arguments] using member
    obtain rfl : scope = 5 := by simpa [enclosing] using encloses
    exact .inr (.inr ⟨5, .refl, alone⟩)

/-- A template may show a scope without the arguments that the scope gets later. -/
theorem suffix_lacks_arguments : ¬ ∀ (input : String) (units : List Dwarf.UnitRecord)
    (void : String),
    let linked := (Draft.ofUnits input units).outline.link
    let final := linked.spellNames void
    (∀ id, ¬ Relation.TransGen linked.NameDepends id id) →
    ∀ id, (linked.node id).isSuffixed = true →
      (final.node id).name = (linked.node id).name ++ "<" ++
        String.intercalate ", " ((Spelling.arguments linked id).map (·.text final)) ++ ">" := by
  intro named
  have same := named "a.o" [templateUnit] "void" acyclic_templateUnit 3
  rw [link_ofUnits_eq_searchLinks] at same
  exact absurd (same (by decide +kernel)) (by decide +kernel)

end Outline

end DebugOutline
