import DebugOutline.Proofs.Finish

/-! Whatever objects are linked to, as types or as declarations, stands for an entry. Linking looks
targets up in the index, and completing passes types on. -/
namespace DebugOutline

namespace Outline

/-- Types and declarations of objects are objects of entries. -/
def LinksInside (outline : Outline) : Prop :=
  ∀ id target, (outline.node id).typeId = some target ∨
    (outline.node id).referenceId = some target → target ∈ outline.objects

namespace LinksInside

variable {outline before after : Outline} {id target : Nat}

theorem of_keeps (inside : before.LinksInside)
    (kept : Keeps (fun node => (node.skeleton, node.typeId, node.referenceId)) before after) :
    after.LinksInside := by
  have skeleton : Keeps Node.skeleton before after :=
    kept.weaken _ fun _ _ same => congrArg Prod.fst same
  intro id target linked
  have types := kept.read Node.typeId (·.2.1) (fun _ => rfl) id
  have references := kept.read Node.referenceId (·.2.2) (fun _ => rfl) id
  rw [types, references] at linked
  rw [skeleton.objects]
  exact inside id target linked

/-- Changing one object is safe if all that it is linked to afterwards stands for entries. -/
theorem modify (inside : outline.LinksInside) {change : Node → Node}
    (skeleton : ∀ node, (change node).skeleton = node.skeleton)
    (linked : ∀ target, (change (outline.node id)).typeId = some target ∨
      (change (outline.node id)).referenceId = some target → target ∈ outline.objects) :
    (outline.modify id change).LinksInside := by
  have objects : (outline.modify id change).objects = outline.objects :=
    (Keeps.modify outline id (skeleton _)).objects
  intro other target
  rw [objects, node_modify]
  split
  · rename_i changed
    rw [changed.1]
    exact linked target
  · exact inside other target

theorem markForeign (inside : outline.LinksInside) (target unit : Nat) :
    (outline.markForeign target unit).LinksInside := by
  apply inside.of_keeps
  apply (keeps_markForeign outline target unit).weaken
  intro a b same
  simp only [Node.withoutMark, Node.mk.injEq] at same
  simp [Node.skeleton, same]

theorem linkType (inside : outline.LinksInside)
    (found : ∀ offset target, outline.find? offset = some target → target ∈ outline.objects) :
    (outline.linkType id).LinksInside := by
  unfold Outline.linkType
  split
  · exact inside
  · rename_i target resolved
    obtain ⟨offset, -, hit⟩ := Option.bind_eq_some_iff.mp resolved
    apply markForeign
    refine inside.modify (fun _ => rfl) ?_
    rintro other (type | declaration)
    · cases type
      exact found offset target hit
    · exact inside id other (.inr declaration)

theorem linkDeclaration (inside : outline.LinksInside)
    (found : ∀ offset target, outline.find? offset = some target → target ∈ outline.objects) :
    (outline.linkDeclaration id).LinksInside := by
  unfold Outline.linkDeclaration
  split
  · exact inside
  · rename_i target resolved
    obtain ⟨offset, -, hit⟩ := Option.bind_eq_some_iff.mp resolved
    split
    · apply markForeign
      refine inside.modify (fun _ => rfl) ?_
      rintro other (type | declaration)
      · exact inside id other (.inl type)
      · cases declaration
        exact found offset target hit
    · exact inside

/-- Linking an outline whose objects are not linked yet. -/
theorem link (valid : outline.WellFormed) (inside : outline.LinksInside) :
    outline.link.LinksInside := by
  have pass (ids : List NodeId) (outline : Outline) (valid : outline.WellFormed)
      (inside : outline.LinksInside) :
      (ids.foldl (fun outline id => (outline.linkType id).linkDeclaration id)
        outline).LinksInside := by
    induction ids generalizing outline with
    | nil => exact inside
    | cons id rest ih =>
      have typed : (outline.linkType id).WellFormed :=
        valid.of_keeps ((keeps_linkType outline id).weaken _ skeleton_of_linkView)
      have declared : ((outline.linkType id).linkDeclaration id).WellFormed :=
        typed.of_keeps ((keeps_linkDeclaration _ id).weaken _ skeleton_of_linkView)
      apply ih _ declared
      apply linkDeclaration
      · exact inside.linkType fun _ _ hit => (valid.find_sound hit).1
      · exact fun _ _ hit => (typed.find_sound hit).1
  exact pass outline.ids outline valid inside

/-- What an object is linked to once it is completed. -/
theorem completed (inside : outline.LinksInside) {reference : Nat}
    (linked : (outline.completed id reference (outline.node id)).typeId = some target ∨
      (outline.completed id reference (outline.node id)).referenceId = some target) :
    target ∈ outline.objects := by
  rw [completed_typeId, completed_referenceId] at linked
  rcases linked with type | declaration
  · rcases Option.or_eq_some_iff.mp type with declared | ⟨-, own⟩
    · exact inside reference target (.inl declared)
    · exact inside id target (.inl own)
  · exact inside id target (.inr declaration)

theorem completeDefinitions (inside : outline.LinksInside) :
    outline.completeDefinitions.LinksInside := by
  apply completeDefinitions_induction _ outline inside
  intro outline id reference _ inside
  exact inside.modify (outline.completed_skeleton id reference) fun _ => inside.completed

/-- All passes together leave only links to objects of entries. -/
theorem finish (valid : outline.WellFormed) (inside : outline.LinksInside) (void : String) :
    (outline.finish void).LinksInside := by
  have linked := inside.link valid
  have spelled : (outline.link.spellNames void).LinksInside := by
    apply linked.of_keeps
    apply (keeps_spellNames outline.link void).weaken
    intro a b same
    simp only [Node.withoutName, Node.mk.injEq] at same
    simp [Node.skeleton, same]
  have qualified : (outline.link.spellNames void).qualifyNames.LinksInside := by
    apply spelled.of_keeps
    apply (keeps_qualifyNames _).weaken
    intro a b same
    simp only [Node.withoutQualifier, Node.mk.injEq] at same
    simp [Node.skeleton, same]
  apply qualified.completeDefinitions.of_keeps
  apply (keeps_spreadGlobals _).weaken
  intro a b same
  simp only [Node.withoutMark, Node.mk.injEq] at same
  simp [Node.skeleton, same]

end LinksInside

end Outline

end DebugOutline
