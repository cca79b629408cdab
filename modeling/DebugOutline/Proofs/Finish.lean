import DebugOutline.Build
import DebugOutline.Proofs.WellFormed

/-! What each pass over the whole outline may change: linking sets types, declarations and the
global mark, spelling sets names, qualifying sets qualifiers, completing sets what a declaration
says of objects that have one, and spreading sets the global mark. No pass moves an object. -/
namespace DebugOutline

namespace Node

/-- An object before its offsets are resolved. -/
def withoutLinks (node : Node) : Node :=
  { node with typeId := none, referenceId := none, isGlobal := false }

def withoutName (node : Node) : Node := { node with name := "" }

def withoutQualifier (node : Node) : Node := { node with qualifier := "" }

def withoutMark (node : Node) : Node := { node with isGlobal := false }

/-- An object without what a declaration may say of it. -/
def withoutDeclared (node : Node) : Node :=
  { node with
    name := "", line := 0, file := .none, typeId := none, typeOffset := none, qualifier := ""
    detail := .none }

/-- The declaration of an object, unless it comes from an offset of its entry. -/
def givenReference (node : Node) : Option NodeId :=
  if node.referenceOffset = none then node.referenceId else none

/-- What no pass changes: the place of an object and, if it refers to no declaration, what its own
entry says beside the name. -/
def lasting (node : Node) : Node × Option (UInt64 × SourceFile × Detail) :=
  (node.skeleton,
    if node.referenceOffset = none ∧ node.referenceId = none then
      some (node.line, node.file, node.detail)
    else none)

end Node

namespace Outline

variable {outline before after : Outline} {id : Nat} {void : String}

theorem Keeps.skeleton (kept : Keeps Node.lasting before after) :
    Keeps Node.skeleton before after :=
  kept.weaken _ fun _ _ same => congrArg Prod.fst same

/-! ### Linking -/

theorem skeleton_of_withoutMark (a b : Node) (same : a.withoutMark = b.withoutMark) :
    a.skeleton = b.skeleton := by
  simp only [Node.withoutMark, Node.mk.injEq] at same
  simp [Node.skeleton, same]

theorem keeps_markForeign (outline : Outline) (target unit : Nat) :
    Keeps Node.withoutMark outline (outline.markForeign target unit) := by
  unfold markForeign
  split
  · exact .refl _ _
  · exact .modify outline target rfl

/-- What linking leaves: everything but types, declarations of entries that refer to one, and the
global mark. -/
abbrev linkView (node : Node) : Node × Option NodeId :=
  (node.withoutLinks, node.givenReference)

private theorem linkView_of_withoutMark (a b : Node) (same : a.withoutMark = b.withoutMark) :
    linkView a = linkView b := by
  simp only [Node.withoutMark, Node.mk.injEq] at same
  simp [linkView, Node.withoutLinks, Node.givenReference, same]

theorem skeleton_of_linkView (a b : Node) (same : linkView a = linkView b) :
    a.skeleton = b.skeleton := by
  simp only [linkView, Node.withoutLinks, Prod.mk.injEq, Node.mk.injEq] at same
  simp [Node.skeleton, same]

theorem keeps_linkType (outline : Outline) (id : Nat) :
    Keeps linkView outline (outline.linkType id) := by
  unfold linkType
  split
  · exact .refl _ _
  · exact .trans (.modify outline id rfl)
      ((keeps_markForeign _ _ _).weaken _ linkView_of_withoutMark)

theorem keeps_linkDeclaration (outline : Outline) (id : Nat) :
    Keeps linkView outline (outline.linkDeclaration id) := by
  unfold linkDeclaration
  split
  · exact .refl _ _
  · rename_i target found
    split
    · have refers : (outline.node id).referenceOffset ≠ none := by
        intro none
        simp [none] at found
      refine .trans (.modify outline id ?_)
        ((keeps_markForeign _ _ _).weaken _ linkView_of_withoutMark)
      simp [linkView, Node.withoutLinks, Node.givenReference, refers]
    · exact .refl _ _

theorem keeps_link (outline : Outline) :
    Keeps (fun node => (node.withoutLinks, node.givenReference)) outline outline.link := by
  apply Keeps.foldl
  intro outline id
  exact (keeps_linkType outline id).trans (keeps_linkDeclaration _ id)

end Outline

/-! ### Spelling names -/

/-- Whatever a mark and a new name leave true, naming an object leaves true. -/
theorem Naming.resolve_induction (property : Naming → Prop)
    (marked : ∀ naming id, property naming →
      property { naming with started := naming.started.setIfInBounds id true })
    (named : ∀ naming id name, property naming →
      property { naming with outline := naming.outline.modify id fun node =>
        { node with name := name } })
    (depth : Nat) (naming : Naming) (id : NodeId) (start : property naming) :
    property (Naming.resolve void depth naming id) := by
  induction depth generalizing naming id with
  | zero => exact start
  | succ depth ih =>
    have gathered (parts : List NamePart) (naming : Naming) (start : property naming) :
        property (Naming.gather (Naming.resolve void depth) parts naming).2 := by
      induction parts generalizing naming with
      | nil => exact start
      | cons part rest rest_ih =>
        apply rest_ih
        split
        · exact ih naming _ start
        · exact start
    unfold Naming.resolve
    split
    · exact start
    · dsimp only
      split
      · exact marked naming id start
      · exact named _ _ _ (gathered _ _ (marked naming id start))

namespace Outline

/-- Names have nothing to do with places. -/
theorem skeleton_of_withoutName (a b : Node) (same : a.withoutName = b.withoutName) :
    a.skeleton = b.skeleton := by
  simp only [Node.withoutName, Node.mk.injEq] at same
  simp [Node.skeleton, same]

theorem keeps_resolve (void : String) (depth : Nat) (naming : Naming) (id : NodeId) :
    Keeps Node.withoutName naming.outline (Naming.resolve void depth naming id).outline :=
  Naming.resolve_induction (fun next => Keeps Node.withoutName naming.outline next.outline)
    (fun _ _ kept => kept) (fun next id _ kept => kept.trans (.modify next.outline id rfl))
    depth naming id (.refl _ _)

theorem keeps_spellNames (outline : Outline) (void : String) :
    Keeps Node.withoutName outline (outline.spellNames void) := by
  have pass (ids : List NodeId) (naming : Naming) :
      Keeps Node.withoutName naming.outline
        (ids.foldl (Naming.resolve void outline.size) naming).outline := by
    induction ids generalizing naming with
    | nil => exact .refl _ _
    | cons id rest ih => exact (keeps_resolve void outline.size naming id).trans (ih _)
  exact pass outline.ids ⟨outline, Array.replicate outline.size false⟩

/-! ### Qualifying names -/

theorem keeps_qualify (outline : Outline) (id : Nat) :
    Keeps Node.withoutQualifier outline (outline.qualify id) := by
  unfold qualify
  dsimp only
  split
  · exact .modify outline id rfl
  · exact .refl _ _

theorem keeps_qualifyNames (outline : Outline) :
    Keeps Node.withoutQualifier outline outline.qualifyNames :=
  Keeps.foldl keeps_qualify outline.ids outline

end Outline

/-! ### Completing definitions -/

theorem Node.complete_withoutDeclared (node declaration : Node) :
    (node.complete declaration).withoutDeclared = node.withoutDeclared := by
  cases typed : declaration.typeId <;> cases declared : declaration.function? <;>
    cases detail : node.detail <;>
    simp only [Node.complete, typed, declared, detail, Node.withoutDeclared] <;> split <;> rfl

/-- The type of the declaration, if it has one. -/
theorem Node.complete_typeId (node declaration : Node) :
    (node.complete declaration).typeId = declaration.typeId.or node.typeId := by
  cases typed : declaration.typeId <;> cases declared : declaration.function? <;>
    cases detail : node.detail <;>
    simp only [Node.complete, typed, declared, detail, Option.or] <;> split <;> rfl

namespace Outline

/-- What an object becomes when it is completed from a declaration. -/
def completed (outline : Outline) (id reference : NodeId) (node : Node) : Node :=
  let declaration := outline.node reference
  let qualifier :=
    if declaration.kind.isSymbol && (outline.node id).kind.isSymbol then
      outline.qualifierUnder declaration.parent
    else ""
  let node := node.complete declaration
  if qualifier = "" then node else { node with qualifier := qualifier }

/-- Completing an object changes it alone, and only in what a declaration says. -/
theorem completeFrom_eq_modify (outline : Outline) (id reference : Nat) :
    outline.completeFrom id reference = outline.modify id (outline.completed id reference) := rfl

theorem completed_withoutDeclared (outline : Outline) (id reference : Nat) (node : Node) :
    (outline.completed id reference node).withoutDeclared = node.withoutDeclared := by
  unfold completed
  dsimp only
  split_ifs <;> exact Node.complete_withoutDeclared _ _

theorem completed_typeId (outline : Outline) (id reference : Nat) (node : Node) :
    (outline.completed id reference node).typeId =
      (outline.node reference).typeId.or node.typeId := by
  unfold completed
  dsimp only
  split_ifs <;> exact Node.complete_typeId _ _

theorem completed_skeleton (outline : Outline) (id reference : Nat) (node : Node) :
    (outline.completed id reference node).skeleton = node.skeleton := by
  have kept := outline.completed_withoutDeclared id reference node
  simp only [Node.withoutDeclared, Node.mk.injEq] at kept
  simp [Node.skeleton, kept]

theorem completed_referenceId (outline : Outline) (id reference : Nat) (node : Node) :
    (outline.completed id reference node).referenceId = node.referenceId := by
  simpa [Node.withoutDeclared] using
    congrArg Node.referenceId (outline.completed_withoutDeclared id reference node)

theorem keeps_completeFrom (outline : Outline) (id reference : Nat) :
    Keeps Node.withoutDeclared outline (outline.completeFrom id reference) :=
  .modify outline id (outline.completed_withoutDeclared id reference _)

end Outline

theorem Completion.keeps_complete (depth : Nat) (completion : Completion) (id : NodeId) :
    Outline.Keeps Node.withoutDeclared completion.outline
      (Completion.complete depth completion id).outline := by
  induction depth generalizing completion id with
  | zero => exact .refl _ _
  | succ depth ih =>
    unfold Completion.complete
    split
    · exact .refl _ _
    · dsimp only
      split
      · exact .refl _ _
      · rename_i reference _
        have inner := ih
          { completion with started := completion.started.setIfInBounds id true } reference
        exact inner.trans (Outline.keeps_completeFrom _ id reference)

/-- Whatever completing an object that refers to a declaration leaves true, completing it after its
declaration leaves true. -/
theorem Completion.complete_induction {property : Outline → Prop}
    (completed : ∀ outline id reference, (outline.node id).referenceId = some reference →
      property outline → property (outline.completeFrom id reference))
    (depth : Nat) (completion : Completion) (id : NodeId) (start : property completion.outline) :
    property (Completion.complete depth completion id).outline := by
  induction depth generalizing completion id with
  | zero => exact start
  | succ depth ih =>
    unfold Completion.complete
    split
    · exact start
    · dsimp only
      split
      · exact start
      · rename_i reference refers
        have inner := ih
          { completion with started := completion.started.setIfInBounds id true } reference start
        apply completed _ id reference _ inner
        rw [← refers]
        exact (keeps_complete depth _ reference).read Node.referenceId Node.referenceId
          (fun _ => rfl) id

namespace Outline

/-- Completing leaves every object that refers to no declaration as it was. -/
theorem completeDefinitions_induction {property : Outline → Prop}
    (completed : ∀ outline id reference, (outline.node id).referenceId = some reference →
      property outline → property (outline.completeFrom id reference))
    (outline : Outline) (start : property outline) : property outline.completeDefinitions := by
  have pass (ids : List NodeId) (completion : Completion) (start : property completion.outline) :
      property (ids.foldl (Completion.complete outline.size) completion).outline := by
    induction ids generalizing completion with
    | nil => exact start
    | cons id rest ih =>
      exact ih _ (Completion.complete_induction completed _ completion id start)
  exact pass outline.ids ⟨outline, Array.replicate outline.size false⟩ start

/-- What completing leaves: all that declarations say nothing of, and objects without one. -/
abbrev declaredView (node : Node) : Node × Option Node :=
  (node.withoutDeclared, if node.referenceId = none then some node else none)

theorem keeps_completeFrom_of_refers {id reference : Nat}
    (refers : (outline.node id).referenceId = some reference) :
    Keeps declaredView outline (outline.completeFrom id reference) := by
  rw [completeFrom_eq_modify]
  refine .modify outline id ?_
  have still := (outline.completed_referenceId id reference (outline.node id)).trans refers
  simp [declaredView, completed_withoutDeclared, still, refers]

theorem keeps_completeDefinitions (outline : Outline) :
    Keeps declaredView outline outline.completeDefinitions :=
  completeDefinitions_induction
    (fun _ _ _ refers kept => kept.trans (keeps_completeFrom_of_refers refers)) _ (.refl _ _)

/-! ### Spreading the global mark -/

theorem keeps_inheritGlobal (outline : Outline) (id : Nat) :
    Keeps Node.withoutMark outline (outline.inheritGlobal id) := by
  unfold inheritGlobal
  split
  · exact .modify outline id rfl
  · exact .refl _ _

theorem keeps_spreadGlobals (outline : Outline) :
    Keeps Node.withoutMark outline outline.spreadGlobals :=
  Keeps.foldl keeps_inheritGlobal outline.ids outline

/-! ### All passes -/

private theorem lasting_of_link (a b : Node)
    (same : (a.withoutLinks, a.givenReference) = (b.withoutLinks, b.givenReference)) :
    a.lasting = b.lasting := by
  simp only [Node.withoutLinks, Node.givenReference, Prod.mk.injEq, Node.mk.injEq] at same
  by_cases refers : a.referenceOffset = none
  · have other : b.referenceOffset = none := by simpa [same] using refers
    have declared : a.referenceId = b.referenceId := by simpa [refers, other] using same.2
    simp [Node.lasting, Node.skeleton, same, declared]
  · have other : b.referenceOffset ≠ none := by simpa [same] using refers
    simp [Node.lasting, Node.skeleton, same, other]

private theorem lasting_of_complete (a b : Node)
    (same : (a.withoutDeclared, if a.referenceId = none then some a else none) =
      (b.withoutDeclared, if b.referenceId = none then some b else none)) :
    a.lasting = b.lasting := by
  obtain ⟨apart, whole⟩ := Prod.mk.inj same
  have declared : a.referenceId = b.referenceId := by
    simpa [Node.withoutDeclared] using congrArg Node.referenceId apart
  by_cases refers : b.referenceId = none
  · have identical : a = b := by simpa [declared, refers] using whole
    rw [identical]
  · simp only [Node.withoutDeclared, Node.mk.injEq] at apart
    simp [Node.lasting, Node.skeleton, apart, refers]

/-- No pass moves an object or changes what is said of one that refers to no declaration. -/
theorem keeps_finish (outline : Outline) (void : String) :
    Keeps Node.lasting outline (outline.finish void) := by
  have linked := (keeps_link outline).weaken _ lasting_of_link
  have spelled := (keeps_spellNames outline.link void).weaken Node.lasting fun a b same => by
    simp only [Node.withoutName, Node.mk.injEq] at same
    simp [Node.lasting, Node.skeleton, same]
  have qualified := (keeps_qualifyNames (outline.link.spellNames void)).weaken Node.lasting
    fun a b same => by
      simp only [Node.withoutQualifier, Node.mk.injEq] at same
      simp [Node.lasting, Node.skeleton, same]
  have completed := (keeps_completeDefinitions
    (outline.link.spellNames void).qualifyNames).weaken _ lasting_of_complete
  have spread := (keeps_spreadGlobals
    (outline.link.spellNames void).qualifyNames.completeDefinitions).weaken Node.lasting
    fun a b same => by
      simp only [Node.withoutMark, Node.mk.injEq] at same
      simp [Node.lasting, Node.skeleton, same]
  exact linked.trans (spelled.trans (qualified.trans (completed.trans spread)))

end Outline

end DebugOutline
