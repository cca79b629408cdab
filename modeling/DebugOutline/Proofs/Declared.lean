import DebugOutline.Proofs.Completing
import DebugOutline.Proofs.Described

/-! What definitions take from their declarations. A declaration may itself refer to another one, so
that each object leads along a chain of declarations. Where the chain ends, the object is completed
from its end backwards, in whatever order the objects are visited; where it does not, the visits end
all the same, since none starts an object twice. -/
namespace DebugOutline

open Dwarf (Entry UnitRecord)

/-! ### The visits as a relation -/

namespace Completion

/-- Nothing has been visited. -/
def unvisited (outline : Outline) : Completion := ⟨outline, .replicate outline.size false⟩

def mark (completion : Completion) (id : NodeId) : Completion :=
  { completion with started := completion.started.setIfInBounds id true }

/-- A visit that ends: nothing is left to do, or there is no declaration, or the declaration has
been visited and the object is completed from it. -/
inductive Visits : Completion → NodeId → Completion → Prop
  | known {completion : Completion} {id : NodeId} (started : completion.hasStarted id = true) :
      Visits completion id completion
  | alone {completion : Completion} {id : NodeId} (fresh : completion.hasStarted id = false)
      (unreferred : (completion.outline.node id).referenceId = none) :
      Visits completion id (completion.mark id)
  | after {completion next : Completion} {id reference : NodeId}
      (fresh : completion.hasStarted id = false)
      (refers : (completion.outline.node id).referenceId = some reference)
      (declared : Visits (completion.mark id) reference next) :
      Visits completion id { next with outline := next.outline.completeFrom id reference }

/-- Visits one after the other. -/
inductive VisitsAll : Completion → List NodeId → Completion → Prop
  | nil {completion : Completion} : VisitsAll completion [] completion
  | cons {completion middle next : Completion} {id : NodeId} {rest : List NodeId}
      (first : Visits completion id middle) (later : VisitsAll middle rest next) :
      VisitsAll completion (id :: rest) next

open Outline (Keeps pending pending_of_unmarked pending_mark marked_of_pending getD_setIfInBounds)

variable {completion next middle other : Completion} {id reference depth : Nat} {order : List Nat}

theorem hasStarted_mark (completion : Completion) (id other : Nat) :
    (completion.mark id).hasStarted other = if other = id then true
      else completion.hasStarted other :=
  getD_setIfInBounds completion.started id other

/-- With as many levels as there are objects left to visit, no visit is cut off. -/
theorem visits_complete (enough : pending completion.started ≤ depth) :
    Visits completion id (complete depth completion id) := by
  induction depth generalizing completion id with
  | zero => exact .known (marked_of_pending (Nat.eq_zero_of_le_zero enough))
  | succ depth ih =>
    cases fresh : completion.hasStarted id with
    | true =>
      rw [complete_of_hasStarted fresh]
      exact .known fresh
    | false =>
      have fewer := pending_of_unmarked fresh
      have left : pending (completion.started.setIfInBounds id true) ≤ depth := by omega
      rw [complete, fresh]
      simp only [Bool.false_eq_true, if_false]
      cases refers : (completion.outline.node id).referenceId with
      | none => exact .alone fresh refers
      | some reference => exact .after fresh refers (ih left)

namespace Visits

theorem unique (visits : Visits completion id next) (again : Visits completion id other) :
    next = other := by
  induction visits generalizing other with
  | known started =>
    cases again with
    | known => rfl
    | alone fresh => exact absurd (started.symm.trans fresh) (by decide)
    | after fresh => exact absurd (started.symm.trans fresh) (by decide)
  | alone fresh unreferred =>
    cases again with
    | known started => exact absurd (started.symm.trans fresh) (by decide)
    | alone => rfl
    | after _ refers => exact absurd (unreferred.symm.trans refers) (by simp)
  | after fresh refers _ ih =>
    cases again with
    | known started => exact absurd (started.symm.trans fresh) (by decide)
    | alone _ unreferred => exact absurd (unreferred.symm.trans refers) (by simp)
    | after _ same declared =>
      obtain rfl := Option.some.inj (refers.symm.trans same)
      rw [ih declared]

/-- What was visited before stays so, and so does what is visited now. -/
theorem hasStarted (visits : Visits completion id next) :
    next.hasStarted id = true ∧
      ∀ other, completion.hasStarted other = true → next.hasStarted other = true := by
  have marks (completion : Completion) (id other : Nat)
      (started : completion.hasStarted other = true) :
      (completion.mark id).hasStarted other = true := by
    rw [hasStarted_mark]
    split
    · rfl
    · exact started
  induction visits with
  | known started => exact ⟨started, fun _ known => known⟩
  | @alone completion id =>
    exact ⟨by rw [hasStarted_mark, if_pos rfl], marks completion id⟩
  | @after completion _ id _ _ _ _ ih =>
    refine ⟨ih.2 id (by rw [hasStarted_mark, if_pos rfl]), fun other started => ?_⟩
    exact ih.2 other (marks completion id other started)

theorem pending_le (visits : Visits completion id next) :
    pending next.started ≤ pending completion.started := by
  induction visits with
  | known => exact Nat.le_refl _
  | @alone completion id => exact Nat.le_of_add_right_le (pending_mark completion.started id).ge
  | @after completion _ id _ _ _ _ ih =>
    exact ih.trans (Nat.le_of_add_right_le (pending_mark completion.started id).ge)

end Visits

namespace VisitsAll

theorem unique (visits : VisitsAll completion order next)
    (again : VisitsAll completion order other) : next = other := by
  induction visits with
  | nil =>
    cases again
    rfl
  | cons first _ ih =>
    cases again with
    | cons also rest =>
      obtain rfl := first.unique also
      exact ih rest

theorem hasStarted (visits : VisitsAll completion order next) :
    (∀ id ∈ order, next.hasStarted id = true) ∧
      ∀ id, completion.hasStarted id = true → next.hasStarted id = true := by
  induction visits with
  | nil => exact ⟨by simp, fun _ started => started⟩
  | cons first _ ih =>
    obtain ⟨own, earlier⟩ := first.hasStarted
    refine ⟨List.forall_mem_cons.mpr ⟨ih.2 _ own, ih.1⟩, fun id started => ?_⟩
    exact ih.2 id (earlier id started)

end VisitsAll

theorem visitsAll_foldl (order : List NodeId) (enough : pending completion.started ≤ depth) :
    VisitsAll completion order (order.foldl (complete depth) completion) := by
  induction order generalizing completion with
  | nil => exact .nil
  | cons id rest ih =>
    have first : Visits completion id (complete depth completion id) := visits_complete enough
    exact .cons first (ih (first.pending_le.trans enough))

end Completion

/-! ### Chains of declarations -/

namespace Node

/-- Whether an object is a function. -/
def isFunction (node : Node) : Bool := node.function?.isSome

theorem isStatic_of_function? {node : Node} {info : FunctionInfo}
    (function : node.function? = some info) : node.isStatic = info.isStatic := by
  unfold function? at function
  unfold isStatic
  split at function <;> simp_all

/-- A function is static once its declaration is; nothing else changes about a function, and what
is no function does not become one. -/
theorem function?_complete (node declaration : Node) :
    (node.complete declaration).function? = node.function?.map fun info =>
      { info with isStatic := info.isStatic || declaration.function?.any (·.isStatic) } := by
  rw [complete_eq]
  cases detail : node.detail <;> cases declared : declaration.function? <;>
    simp only [function?, detail, Detail.complete, Option.map_some, Option.map_none,
      Option.any_none, Option.any_some, Bool.or_false]
  split <;> simp_all

/-- What is taken over from a declaration is not made from its qualifier. -/
theorem complete_of_withoutQualifier {declaration other : Node} (node : Node)
    (same : declaration.withoutQualifier = other.withoutQualifier) :
    node.complete declaration = node.complete other := by
  simp only [withoutQualifier, Node.mk.injEq] at same
  simp [complete_eq, function?, same]

end Node

namespace Outline

variable {outline before after : Outline} {id reference : Nat} {chain path : List Nat}

/-- The declarations that an object leads to, one after the other, up to one that refers to none. -/
inductive Declarations (outline : Outline) : NodeId → List NodeId → Prop
  | last {id : NodeId} (alone : (outline.node id).referenceId = none) : Declarations outline id []
  | next {id reference : NodeId} {chain : List NodeId}
      (refers : (outline.node id).referenceId = some reference)
      (rest : Declarations outline reference chain) : Declarations outline id (reference :: chain)

/-- One object refers to another as its declaration. -/
def RefersTo (outline : Outline) (id reference : NodeId) : Prop :=
  (outline.node id).referenceId = some reference

namespace Declarations

theorem unique (declared : outline.Declarations id chain) (again : outline.Declarations id path) :
    chain = path := by
  induction declared generalizing path with
  | last alone =>
    cases again with
    | last => rfl
    | next refers => exact absurd (alone.symm.trans refers) (by simp)
  | next refers _ ih =>
    cases again with
    | last alone => exact absurd (alone.symm.trans refers) (by simp)
    | next same rest =>
      obtain rfl := Option.some.inj (refers.symm.trans same)
      rw [ih rest]

/-- Further along, there is less of a chain. -/
theorem shorter (declared : outline.Declarations id chain)
    (leads : Relation.TransGen outline.RefersTo id reference) :
    ∃ rest, outline.Declarations reference rest ∧ rest.length < chain.length := by
  induction leads with
  | single refers =>
    cases declared with
    | last alone => exact absurd (alone.symm.trans refers) (by simp)
    | next same rest =>
      obtain rfl := Option.some.inj (same.symm.trans refers)
      exact ⟨_, rest, Nat.lt_succ_self _⟩
  | tail _ refers ih =>
    obtain ⟨rest, declared, less⟩ := ih
    cases declared with
    | last alone => exact absurd (alone.symm.trans refers) (by simp)
    | next same later =>
      obtain rfl := Option.some.inj (same.symm.trans refers)
      exact ⟨_, later, (Nat.lt_succ_self _).trans less⟩

/-- A chain that ends does not come back. -/
theorem acyclic (declared : outline.Declarations id chain) :
    ¬ Relation.TransGen outline.RefersTo id id := by
  intro around
  obtain ⟨rest, again, less⟩ := declared.shorter around
  rw [declared.unique again] at less
  exact Nat.lt_irrefl _ less

end Declarations

/-- An object completed along its chain, from the end backwards. -/
def completedAlong (outline : Outline) (id : NodeId) : List NodeId → Node
  | [] => outline.node id
  | reference :: chain => (outline.node id).complete (outline.completedAlong reference chain)

theorem completed_withoutQualifier (outline : Outline) (id reference : Nat) (node : Node) :
    (outline.completed id reference node).withoutQualifier =
      (node.complete (outline.node reference)).withoutQualifier := by
  unfold completed
  dsimp only
  split_ifs <;> rfl

/-- The end of a chain says what an object is called and where it stands in the source. -/
theorem place_completedAlong (outline : Outline) (id : Nat) (chain : List Nat) :
    (outline.completedAlong id chain).name = (outline.node (chain.getLastD id)).name ∧
      (outline.completedAlong id chain).line = (outline.node (chain.getLastD id)).line ∧
      (outline.completedAlong id chain).file = (outline.node (chain.getLastD id)).file := by
  induction chain generalizing id with
  | nil => exact ⟨rfl, rfl, rfl⟩
  | cons reference rest ih =>
    rw [completedAlong, Node.complete_eq, List.getLastD_cons]
    exact ih reference

/-- The last declaration of a chain that has a type; the object itself, if none has one. -/
def typeGiver (outline : Outline) (id : NodeId) (chain : List NodeId) : NodeId :=
  (chain.filter fun reference => (outline.node reference).typeId.isSome).getLastD id

theorem typeGiver_cons (outline : Outline) (id reference : Nat) (chain : List Nat) :
    outline.typeGiver id (reference :: chain) =
      if (outline.node (outline.typeGiver reference chain)).typeId.isSome then
        outline.typeGiver reference chain
      else id := by
  unfold typeGiver
  have given : ∀ other ∈ chain.filter fun other => (outline.node other).typeId.isSome,
      (outline.node other).typeId.isSome = true := fun other member => (List.mem_filter.mp member).2
  rw [List.filter_cons]
  generalize chain.filter _ = later at given ⊢
  by_cases typed : (outline.node reference).typeId.isSome = true
  · rw [if_pos typed, List.getLastD_cons, if_pos]
    rcases List.mem_cons.mp (List.getLastD_mem_cons (l := later)) with same | member
    · exact same ▸ typed
    · exact given _ member
  · rw [if_neg typed]
    cases later with
    | nil => exact (if_neg typed).symm
    | cons first others =>
      rw [List.getLastD_cons, List.getLastD_cons, if_pos]
      exact given _ List.getLastD_mem_cons

/-- A type comes with its offset, from the last declaration that has one. -/
theorem type_completedAlong (outline : Outline) (id : Nat) (chain : List Nat) :
    (outline.completedAlong id chain).typeId =
        (outline.node (outline.typeGiver id chain)).typeId ∧
      (outline.completedAlong id chain).typeOffset =
        (outline.node (outline.typeGiver id chain)).typeOffset := by
  induction chain generalizing id with
  | nil => exact ⟨rfl, rfl⟩
  | cons reference rest ih =>
    obtain ⟨type, offset⟩ := ih reference
    rw [completedAlong, Node.complete_eq, typeGiver_cons, type, offset]
    cases given : (outline.node (outline.typeGiver reference rest)).typeId <;> simp [given]

/-- Whether one of the functions that a chain begins with is static. -/
def isStaticAlong (outline : Outline) (id : NodeId) (chain : List NodeId) : Bool :=
  ((id :: chain).takeWhile fun reference => (outline.node reference).isFunction).any fun function =>
    (outline.node function).isStatic

theorem isStaticAlong_cons {info : FunctionInfo}
    (function : (outline.node id).function? = some info) (reference : Nat) (chain : List Nat) :
    outline.isStaticAlong id (reference :: chain) =
      (info.isStatic || outline.isStaticAlong reference chain) := by
  have isFunction : (outline.node id).isFunction = true := by rw [Node.isFunction, function]; rfl
  rw [isStaticAlong, List.takeWhile_cons, isFunction, ← Node.isStatic_of_function? function]
  rfl

/-- A function is static if one of the functions that its chain begins with is. -/
theorem function?_completedAlong (outline : Outline) (id : Nat) (chain : List Nat) :
    (outline.completedAlong id chain).function? = (outline.node id).function?.map fun info =>
      { info with isStatic := outline.isStaticAlong id chain } := by
  induction chain generalizing id with
  | nil =>
    cases function : (outline.node id).function? with
    | none => exact function
    | some info =>
      simp [completedAlong, isStaticAlong, Node.isFunction, function,
        Node.isStatic_of_function? function]
  | cons reference rest ih =>
    rw [completedAlong, Node.function?_complete, ih reference]
    cases function : (outline.node id).function? with
    | none => rfl
    | some info =>
      rw [isStaticAlong_cons function]
      cases declared : (outline.node reference).function? with
      | none =>
        simp [isStaticAlong, Node.isFunction, declared]
      | some => rfl

/-- What definitions take from their declarations: whatever refers to none stays as it is, and where
a chain of declarations ends, its end gives name and place, the last declaration with a type gives
the type, and a function is static if one of the functions that the chain begins with is. -/
structure FollowsDeclarations (before after : Outline) : Prop where
  alone : ∀ id, (before.node id).referenceId = none → after.node id = before.node id
  place : ∀ id chain, before.Declarations id chain →
    (after.node id).name = (before.node (chain.getLastD id)).name ∧
      (after.node id).line = (before.node (chain.getLastD id)).line ∧
      (after.node id).file = (before.node (chain.getLastD id)).file
  type : ∀ id chain, before.Declarations id chain →
    (after.node id).typeId = (before.node (before.typeGiver id chain)).typeId ∧
      (after.node id).typeOffset = (before.node (before.typeGiver id chain)).typeOffset
  static : ∀ id chain, before.Declarations id chain → (before.node id).isFunction = true →
    (after.node id).isStatic = before.isStaticAlong id chain

end Outline

namespace Completion

open Outline

variable {before : Outline} {active : NodeId → Prop} {completion next : Completion}
  {id : Nat} {order : List Nat}

/-- What holds while the objects of `active` are being completed: whatever was not visited or is
being completed is as it was, and whatever has been visited and has a chain that ends is completed
along it, but for the qualifier. -/
structure Follows (before : Outline) (active : NodeId → Prop) (completion : Completion) : Prop where
  kept : Keeps declaredView before completion.outline
  own : ∀ id, completion.hasStarted id = false ∨ active id →
    completion.outline.node id = before.node id
  visited : ∀ id, active id → completion.hasStarted id = true
  settled : ∀ id chain, before.Declarations id chain → completion.hasStarted id = true →
    ¬ active id → (completion.outline.node id).withoutQualifier =
      (before.completedAlong id chain).withoutQualifier

namespace Follows

theorem referenceId (follows : Follows before active completion) (id : Nat) :
    (completion.outline.node id).referenceId = (before.node id).referenceId :=
  follows.kept.read Node.referenceId (fun view => view.1.referenceId) (fun _ => rfl) id

/-- Beginning to complete an object. -/
theorem mark (follows : Follows before active completion)
    (fresh : completion.hasStarted id = false) :
    Follows before (fun other => active other ∨ other = id) (completion.mark id) where
  kept := follows.kept
  own other first := by
    apply follows.own other
    rw [hasStarted_mark] at first
    split at first
    · rename_i same
      exact .inl (same ▸ fresh)
    · rename_i apart
      simpa [apart] using first
  visited other activity := by
    rw [hasStarted_mark]
    split
    · rfl
    · rename_i apart
      exact follows.visited other (activity.resolve_right apart)
  settled other chain declared started inactive := by
    obtain ⟨passive, apart⟩ := not_or.mp inactive
    rw [hasStarted_mark, if_neg apart] at started
    exact follows.settled other chain declared started passive

/-- Done with an object that is as it should be. -/
theorem release (follows : Follows before (fun other => active other ∨ other = id) completion)
    (settled : ∀ chain, before.Declarations id chain →
      (completion.outline.node id).withoutQualifier =
        (before.completedAlong id chain).withoutQualifier) :
    Follows before active completion where
  kept := follows.kept
  own other first := follows.own other (first.imp_right .inl)
  visited other activity := follows.visited other (.inl activity)
  settled other chain declared started inactive := by
    by_cases same : other = id
    · subst same
      exact settled chain declared
    · exact follows.settled other chain declared started (not_or.mpr ⟨inactive, same⟩)

/-- Done with an object that is completed from its declaration. The declaration is done with, since
no chain that ends comes back to an object that is being completed. -/
theorem complete {reference : Nat}
    (follows : Follows before (fun other => active other ∨ other = id) completion)
    (refers : before.RefersTo id reference) (inside : id < before.size) (inactive : ¬ active id)
    (above : ∀ outer, active outer → Relation.TransGen before.RefersTo outer id)
    (declared : completion.hasStarted reference = true) :
    Follows before active
      { completion with outline := completion.outline.completeFrom id reference } where
  kept := follows.kept.trans
    (keeps_completeFrom_of_refers ((follows.referenceId id).trans refers))
  own other first := by
    have apart : other ≠ id := by
      rintro rfl
      rcases first with fresh | activity
      · exact Bool.false_ne_true (fresh.symm.trans (follows.visited other (.inr rfl)))
      · exact inactive activity
    rw [completeFrom_eq_modify, node_modify, if_neg fun same => apart same.1]
    exact follows.own other (first.imp_right .inl)
  visited other activity := follows.visited other (.inl activity)
  settled other chain leads started passive := by
    by_cases same : other = id
    · subst same
      -- The chain ends, so it meets neither the object itself nor one that waits for it.
      have passive : ¬ (active reference ∨ reference = other) := by
        rintro (activity | rfl)
        · exact leads.acyclic (.head refers (above reference activity))
        · exact leads.acyclic (.single refers)
      cases leads with
      | last alone => exact absurd (alone.symm.trans refers) (by simp)
      | next given rest =>
        obtain rfl := Option.some.inj (given.symm.trans refers)
        have present : other < completion.outline.size := follows.kept.size ▸ inside
        rw [completeFrom_eq_modify, node_modify, if_pos ⟨rfl, present⟩,
          completed_withoutQualifier, follows.own other (.inr (.inr rfl)), completedAlong,
          Node.complete_of_withoutQualifier _ (follows.settled _ _ rest declared passive)]
    · rw [completeFrom_eq_modify, node_modify, if_neg fun changed => same changed.1]
      exact follows.settled other chain leads started (not_or.mpr ⟨passive, same⟩)

/-- Visiting an object while the objects that lead to it are being completed. -/
theorem visits (run : Visits completion id next) (follows : Follows before active completion)
    (above : ∀ outer, active outer → Relation.TransGen before.RefersTo outer id) :
    Follows before active next := by
  induction run generalizing active with
  | known => exact follows
  | @alone completion id fresh unreferred =>
    refine (follows.mark fresh).release fun chain declared => ?_
    cases declared with
    | last =>
      rw [(follows.mark fresh).own id (.inr (.inr rfl))]
      rfl
    | next refers =>
      rw [follows.referenceId] at unreferred
      exact absurd (unreferred.symm.trans refers) (by simp)
  | @after completion next id reference fresh refers declared ih =>
    have leads : before.RefersTo id reference := (follows.referenceId id).symm.trans refers
    have inactive : ¬ active id := fun activity =>
      Bool.false_ne_true (fresh.symm.trans (follows.visited id activity))
    have inside : id < before.size := lt_size_of_node_ne fun outside => by
      rw [RefersTo, outside] at leads
      cases leads
    refine (ih (follows.mark fresh) ?_).complete leads inside inactive above declared.hasStarted.1
    rintro outer (activity | rfl)
    · exact (above outer activity).tail leads
    · exact .single leads

theorem visitsAll (run : VisitsAll completion order next)
    (follows : Follows before (fun _ => False) completion) :
    Follows before (fun _ => False) next := by
  induction run with
  | nil => exact follows
  | cons first _ ih => exact ih (follows.visits first fun _ none => none.elim)

end Follows

theorem hasStarted_unvisited (outside : before.size ≤ id) :
    (unvisited before).hasStarted id = true := by
  simp [unvisited, hasStarted, Array.getD, outside]

/-- Nothing has been completed yet. -/
theorem follows_unvisited (before : Outline) :
    Follows before (fun _ => False) (unvisited before) where
  kept := .refl _ _
  own _ _ := rfl
  visited _ none := none.elim
  settled id chain declared started _ := by
    cases declared with
    | last => rfl
    | next refers =>
      have inside : id < before.size := lt_size_of_node_ne fun outside => by
        rw [outside] at refers
        cases refers
      simp [unvisited, hasStarted, Array.getD, inside] at started

/-- When all objects have been visited, an object whose chain ends is completed along it. -/
theorem VisitsAll.node_eq (run : VisitsAll (unvisited before) order next)
    (covers : before.ids ⊆ order) {chain : List Nat} (declared : before.Declarations id chain) :
    (next.outline.node id).withoutQualifier =
      (before.completedAlong id chain).withoutQualifier := by
  refine (follows_unvisited before).visitsAll run |>.settled id chain declared ?_ not_false
  by_cases inside : id < before.size
  · exact run.hasStarted.1 id (covers (mem_ids.mpr inside))
  · exact run.hasStarted.2 id (hasStarted_unvisited (Nat.le_of_not_lt inside))

/-- In whatever order the objects are visited, definitions follow their declarations. -/
theorem VisitsAll.followsDeclarations (run : VisitsAll (unvisited before) order next)
    (covers : before.ids ⊆ order) : before.FollowsDeclarations next.outline where
  alone id unreferred := by
    obtain ⟨apart, whole⟩ := Prod.mk.inj
      (((follows_unvisited before).visitsAll run).kept.node id)
    have still : (next.outline.node id).referenceId = none :=
      (congrArg (fun node : Node => node.referenceId) apart).trans unreferred
    simpa [still, unreferred] using whole
  place id chain declared := by
    obtain ⟨name, line, file⟩ := before.place_completedAlong id chain
    have same := run.node_eq covers declared
    exact ⟨(congrArg (fun node : Node => node.name) same).trans name,
      (congrArg (fun node : Node => node.line) same).trans line,
      (congrArg (fun node : Node => node.file) same).trans file⟩
  type id chain declared := by
    obtain ⟨type, offset⟩ := before.type_completedAlong id chain
    have same := run.node_eq covers declared
    exact ⟨(congrArg (fun node : Node => node.typeId) same).trans type,
      (congrArg (fun node : Node => node.typeOffset) same).trans offset⟩
  static id chain declared isFunction := by
    obtain ⟨info, function⟩ := Option.isSome_iff_exists.mp isFunction
    have same := congrArg (fun node : Node => node.function?) (run.node_eq covers declared)
    have static := same.trans (before.function?_completedAlong id chain)
    rw [function] at static
    exact Node.isStatic_of_function? static

/-- With enough levels, visits in any order end, and with nothing but what they make. -/
theorem visitsAll_iff (enough : pending completion.started ≤ depth) (next : Completion) :
    VisitsAll completion order next ↔ next = order.foldl (complete depth) completion := by
  have run := visitsAll_foldl order enough
  refine ⟨fun again => again.unique run, ?_⟩
  rintro rfl
  exact run

end Completion

namespace Outline

/-- In whatever order the objects are visited, the visits end, and when every object has been
visited, definitions follow their declarations. -/
theorem exists_visitsAll (outline : Outline) (order : List NodeId) : ∃ final : Completion,
    (∀ next, Completion.VisitsAll (.unvisited outline) order next ↔ next = final) ∧
      (order = outline.ids → final.outline = outline.completeDefinitions) ∧
      (outline.ids ⊆ order → outline.FollowsDeclarations final.outline) := by
  have enough : pending (Completion.unvisited outline).started ≤ outline.size :=
    Array.count_le_size.trans_eq Array.size_replicate
  refine ⟨_, Completion.visitsAll_iff enough, ?_, ?_⟩
  · rintro rfl
    rfl
  · exact (Completion.visitsAll_foldl order enough).followsDeclarations

theorem followsDeclarations_completeDefinitions (outline : Outline) :
    outline.FollowsDeclarations outline.completeDefinitions := by
  obtain ⟨final, -, same, follows⟩ := outline.exists_visitsAll outline.ids
  exact same rfl ▸ follows (List.Subset.refl _)

-- The first function is defined by the second one, and that by the third.
example :
    let functions : Outline := ⟨#[{ kind := .inputFile, offset := 0 },
      { kind := .function, offset := 1, referenceId := some 2, detail := .function {} },
      { kind := .function, offset := 2, referenceId := some 3, typeId := some 0
        detail := .function { isStatic := true } },
      { kind := .function, offset := 3, name := "f", line := 7, detail := .function {} }], ∅⟩
    let completed := functions.completeDefinitions.node 1
    (completed.name, completed.line, completed.typeId, completed.isStatic) =
      ("f", 7, some 0, true) := by decide

end Outline

/-! ### Functions -/

theorem Reading.isFunction_detail (entry : Entry) (kind : Kind) (inAggregate : Bool)
    {node : Node} (detailed : node.detail = (Reading.detail entry kind inAggregate).value) :
    node.isFunction = true ↔ kind = .function := by
  unfold Node.isFunction Node.function?
  rw [detailed]
  unfold Reading.detail
  cases kind
  case parameter =>
    dsimp only [Reading.value_pure]
    by_cases variadic : entry.tag = .unspecifiedParameters <;> simp [variadic]
  case «variable» => cases inAggregate <;> simp
  case member => cases inAggregate <;> simp
  all_goals simp

/-- An entry describes a function or says nothing that only functions say. -/
theorem Reading.isFunction_node (unit : UnitRecord) (unitIndex : Nat) (entry : Entry)
    (role : Role) (inAggregate : Bool) :
    (Reading.node unit unitIndex entry role inAggregate).value.isFunction = true ↔
      (Reading.node unit unitIndex entry role inAggregate).value.kind = .function := by
  rw [(Reading.node_isOf unit unitIndex entry role inAggregate).kind]
  cases role with
  | auxiliary form => cases form <;> simp [Role.kind, Reading.node, Node.isFunction, Node.function?]
  | object kind => exact Reading.isFunction_detail entry kind inAggregate rfl

namespace Outline

theorem isFunction_ofUnits (input : String) (units : List UnitRecord) (id : Nat) :
    ((Draft.ofUnits input units).outline.node id).isFunction = true ↔
      ((Draft.ofUnits input units).outline.node id).kind = .function := by
  refine (Draft.everywhere_ofUnits (fun node => node.isFunction = true ↔ node.kind = .function)
    input units ?_ (by decide) (by simp [Node.isFunction, Node.function?]) ?_
    Reading.isFunction_node).node id
  · intro a b same described
    simp only [Node.withoutPlace, Node.mk.injEq] at same
    simpa [Node.isFunction, Node.function?, same] using described
  · simp [Node.isFunction, Node.function?, Node.ofRow]

/-- What comes before completing changes no kind and no detail. -/
theorem keeps_detail_qualifyNames (outline : Outline) (void : String) :
    Keeps (fun node => (node.kind, node.detail)) outline
      (outline.link.spellNames void).qualifyNames := by
  refine (((keeps_link outline).weaken _ ?_).trans ((keeps_spellNames _ void).weaken _ ?_)).trans
    ((keeps_qualifyNames _).weaken _ ?_) <;> intro a b same
  · simp only [Node.withoutLinks, Prod.mk.injEq, Node.mk.injEq] at same
    simp [same]
  · simp only [Node.withoutName, Node.mk.injEq] at same
    simp [same]
  · simp only [Node.withoutQualifier, Node.mk.injEq] at same
    simp [same]

/-- Definitions follow their declarations in the outline of an input file, and would in any order
of visits. The visits end even where declarations refer to one another in a ring, since they start
no object twice. -/
theorem completeDefinitions_follows (input : String) (units : List UnitRecord) (void : String) :
    let outline := ((Draft.ofUnits input units).outline.link.spellNames void).qualifyNames
    (∀ id, (outline.node id).isFunction = true ↔ (outline.node id).kind = .function) ∧
      outline.FollowsDeclarations outline.completeDefinitions ∧
      ∀ order, ∃ final : Completion,
        (∀ next, Completion.VisitsAll (.unvisited outline) order next ↔ next = final) ∧
          (order = outline.ids → final.outline = outline.completeDefinitions) ∧
          (outline.ids ⊆ order → outline.FollowsDeclarations final.outline) := by
  intro outline
  refine ⟨fun id => ?_, followsDeclarations_completeDefinitions _, exists_visitsAll _⟩
  have described := isFunction_ofUnits input units id
  obtain ⟨kind, detail⟩ := Prod.mk.inj
    ((keeps_detail_qualifyNames (Draft.ofUnits input units).outline void).node id)
  rw [Node.isFunction, Node.function?] at described ⊢
  rwa [kind, detail]

end Outline

end DebugOutline
