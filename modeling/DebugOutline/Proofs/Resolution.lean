import DebugOutline.Proofs.Tree

/-! Links against the offsets they come from: whatever an object is linked to in the finished
outline is what the recorded offset leads to in the index. Linking looks both offsets up, and
completing passes a type on together with its offset. -/
namespace DebugOutline

/-- The links of an object with their offsets, and what it may be linked to. -/
def Node.links (node : Node) : Node × Option LinkClass :=
  ({ kind := .inputFile, offset := 0, typeOffset := node.typeOffset, typeId := node.typeId
     referenceOffset := node.referenceOffset, referenceId := node.referenceId },
    node.linkClass?)

theorem Node.linksTo_iff (node target : Node) : node.linksTo target = true ↔
    ∃ shared, node.linkClass? = some shared ∧ target.linkClass? = some shared := by
  unfold linksTo
  cases node.linkClass? with
  | none => simp
  | some shared =>
    rw [Option.isSome_some, Bool.true_and, beq_iff_eq]
    simp [eq_comm]

namespace Outline

variable {outline before after : Outline} {id target : Nat}

/-- The object that the type offset of an object leads to. -/
def typeAt? (outline : Outline) (id : NodeId) : Option NodeId :=
  (outline.node id).typeOffset.bind outline.find?

/-- The object that the declaration offset of an object leads to, if the two go together. -/
def declarationAt? (outline : Outline) (id : NodeId) : Option NodeId :=
  ((outline.node id).referenceOffset.bind outline.find?).filter fun target =>
    (outline.node id).linksTo (outline.node target)

/-- Every object is linked to what its offsets lead to. -/
structure LinksResolve (outline : Outline) : Prop where
  type : ∀ id, (outline.node id).typeId = outline.typeAt? id
  declaration : ∀ id, (outline.node id).referenceId = outline.declarationAt? id

/-! ### What the links depend on -/

theorem linkClass?_of_linkView (a b : Node) (same : linkView a = linkView b) :
    a.linkClass? = b.linkClass? := by
  simp only [linkView, Node.withoutLinks, Prod.mk.injEq, Node.mk.injEq] at same
  simp [Node.linkClass?, Node.isPack, Node.templateArgument?, same]

theorem typeAt?_of_offset (find : ∀ offset, after.find? offset = before.find? offset)
    (offset : (after.node id).typeOffset = (before.node id).typeOffset) :
    after.typeAt? id = before.typeAt? id := by
  unfold typeAt?
  rw [offset, funext find]

theorem declarationAt?_of_offset (find : ∀ offset, after.find? offset = before.find? offset)
    (offset : (after.node id).referenceOffset = (before.node id).referenceOffset)
    (classes : ∀ id, (after.node id).linkClass? = (before.node id).linkClass?) :
    after.declarationAt? id = before.declarationAt? id := by
  unfold declarationAt? Node.linksTo
  simp only [offset, funext find, classes]

theorem LinksResolve.of_keeps (resolve : before.LinksResolve)
    (kept : Keeps Node.links before after) : after.LinksResolve := by
  have classes (id : Nat) : (after.node id).linkClass? = (before.node id).linkClass? :=
    kept.read Node.linkClass? (·.2) (fun _ => rfl) id
  constructor <;> intro id
  · have offset := kept.read Node.typeOffset (·.1.typeOffset) (fun _ => rfl) id
    rw [typeAt?_of_offset kept.find offset, ← resolve.type]
    exact kept.read Node.typeId (·.1.typeId) (fun _ => rfl) id
  · have offset := kept.read Node.referenceOffset (·.1.referenceOffset) (fun _ => rfl) id
    rw [declarationAt?_of_offset kept.find offset classes, ← resolve.declaration]
    exact kept.read Node.referenceId (·.1.referenceId) (fun _ => rfl) id

/-! ### Linking -/

theorem typeAt?_of_linkView (kept : Keeps linkView before after) (id : Nat) :
    after.typeAt? id = before.typeAt? id :=
  typeAt?_of_offset kept.find (kept.read Node.typeOffset (·.1.typeOffset) (fun _ => rfl) id)

theorem declarationAt?_of_linkView (kept : Keeps linkView before after) (id : Nat) :
    after.declarationAt? id = before.declarationAt? id :=
  declarationAt?_of_offset kept.find
    (kept.read Node.referenceOffset (·.1.referenceOffset) (fun _ => rfl) id)
    fun id => linkClass?_of_linkView _ _ (kept.node id)

theorem typeId_markForeign (outline : Outline) (target unit id : Nat) :
    ((outline.markForeign target unit).node id).typeId = (outline.node id).typeId :=
  (keeps_markForeign outline target unit).read Node.typeId Node.typeId (fun _ => rfl) id

theorem referenceId_markForeign (outline : Outline) (target unit id : Nat) :
    ((outline.markForeign target unit).node id).referenceId = (outline.node id).referenceId :=
  (keeps_markForeign outline target unit).read Node.referenceId Node.referenceId (fun _ => rfl) id

/-- Numbers that no object has lead nowhere. -/
theorem lt_size_of_typeAt? (found : outline.typeAt? id = some target) : id < outline.size := by
  refine lt_size_of_node_ne fun outside => ?_
  simp only [typeAt?, outside] at found
  cases found

theorem lt_size_of_declarationAt? (found : outline.declarationAt? id = some target) :
    id < outline.size := by
  refine lt_size_of_node_ne fun outside => ?_
  simp only [declarationAt?, outside] at found
  cases found

/-- Linking the type of one object sets the type of that object and no other link. -/
theorem links_linkType (outline : Outline) (id other : Nat) :
    ((outline.linkType id).node other).typeId =
        (if other = id then outline.typeAt? id else none).or (outline.node other).typeId ∧
      ((outline.linkType id).node other).referenceId = (outline.node other).referenceId := by
  have resolved : (outline.node id).typeOffset.bind outline.find? = outline.typeAt? id := rfl
  unfold linkType
  rw [resolved]
  cases found : outline.typeAt? id with
  | none => simp
  | some target =>
    have inside := lt_size_of_typeAt? found
    dsimp only
    rw [typeId_markForeign, referenceId_markForeign, node_modify]
    by_cases same : other = id <;> simp [same, inside]

/-- Linking the declaration of one object sets the declaration of that object and no other link. -/
theorem links_linkDeclaration (outline : Outline) (id other : Nat) :
    ((outline.linkDeclaration id).node other).typeId = (outline.node other).typeId ∧
      ((outline.linkDeclaration id).node other).referenceId =
        (if other = id then outline.declarationAt? id else none).or
          (outline.node other).referenceId := by
  unfold linkDeclaration
  cases found : (outline.node id).referenceOffset.bind outline.find? with
  | none =>
    have nothing : outline.declarationAt? id = none := by simp [declarationAt?, found]
    simp [nothing]
  | some target =>
    dsimp only
    split
    · rename_i matching
      have hit : outline.declarationAt? id = some target := by
        simp [declarationAt?, found, matching]
      have inside := lt_size_of_declarationAt? hit
      rw [hit, typeId_markForeign, referenceId_markForeign, node_modify]
      by_cases same : other = id <;> simp [same, inside]
    · rename_i mismatch
      have nothing : outline.declarationAt? id = none := by
        simp [declarationAt?, found, mismatch]
      simp [nothing]

/-- Linking one object while others of the same outline may be linked already. -/
theorem links_linkBoth {current : Outline} (kept : Keeps linkView outline current)
    (id other : Nat) :
    (((current.linkType id).linkDeclaration id).node other).typeId =
        (if other = id then outline.typeAt? id else none).or (current.node other).typeId ∧
      (((current.linkType id).linkDeclaration id).node other).referenceId =
        (if other = id then outline.declarationAt? id else none).or
          (current.node other).referenceId := by
  have typed := links_linkType current id other
  have declared := links_linkDeclaration (current.linkType id) id other
  rw [typed.1, typed.2, typeAt?_of_linkView kept,
    declarationAt?_of_linkView (kept.trans (keeps_linkType current id))] at declared
  exact declared

/-- What an object is linked to for the second time it is linked to for the first. -/
theorem or_linked (find : NodeId → Option NodeId) (link : Option NodeId) (first other : NodeId)
    (rest : List NodeId) :
    (if other ∈ rest then find other else none).or
        ((if other = first then find first else none).or link) =
      (if other ∈ first :: rest then find other else none).or link := by
  by_cases same : other = first
  · subst same
    by_cases later : other ∈ rest <;> cases find other <;> simp [later]
  · simp [same]

/-- Linking some objects sets their links; what was linked before stays where they have none. -/
theorem links_sweep (ids : List NodeId) {current : Outline} (kept : Keeps linkView outline current)
    (other : Nat) :
    let after := ids.foldl (fun outline id => (outline.linkType id).linkDeclaration id) current
    (after.node other).typeId =
        (if other ∈ ids then outline.typeAt? other else none).or (current.node other).typeId ∧
      (after.node other).referenceId =
        (if other ∈ ids then outline.declarationAt? other else none).or
          (current.node other).referenceId := by
  induction ids generalizing current with
  | nil => simp
  | cons first rest ih =>
    have typed := keeps_linkType current first
    have declared := keeps_linkDeclaration (current.linkType first) first
    obtain ⟨type, reference⟩ := ih (kept.trans (typed.trans declared))
    have own := links_linkBoth kept first other
    rw [own.1, or_linked] at type
    rw [own.2, or_linked] at reference
    exact ⟨type, reference⟩

/-- What an object that was not linked before is linked to when all are. -/
theorem links_link (outline : Outline)
    (unlinked : ∀ id, (outline.node id).typeId = none ∧ (outline.node id).referenceId = none)
    (id : Nat) : (outline.link.node id).typeId = outline.typeAt? id ∧
      (outline.link.node id).referenceId = outline.declarationAt? id := by
  obtain ⟨type, reference⟩ := links_sweep outline.ids (.refl linkView outline) id
  obtain ⟨noType, noReference⟩ := unlinked id
  rw [noType, Option.or_none] at type
  rw [noReference, Option.or_none] at reference
  refine ⟨type.trans ?_, reference.trans ?_⟩
  · cases found : outline.typeAt? id with
    | none => exact ite_self none
    | some target => exact if_pos (mem_ids.mpr (lt_size_of_typeAt? found))
  · cases found : outline.declarationAt? id with
    | none => exact ite_self none
    | some target => exact if_pos (mem_ids.mpr (lt_size_of_declarationAt? found))

theorem LinksResolve.link (unlinked : ∀ id, (outline.node id).typeId = none ∧
    (outline.node id).referenceId = none) : outline.link.LinksResolve where
  type id := by
    rw [typeAt?_of_linkView (keeps_link outline)]
    exact (links_link outline unlinked id).1
  declaration id := by
    rw [declarationAt?_of_linkView (keeps_link outline)]
    exact (links_link outline unlinked id).2

end Outline

/-! ### Completing definitions -/

/-- What completing makes of the detail of an object. -/
def Detail.complete (detail : Detail) (declared : Option FunctionInfo) : Detail :=
  match detail, declared with
  | .function info, some declared =>
    .function (if declared.isStatic then { info with isStatic := true } else info)
  | detail, _ => detail

/-- The type of a declaration comes with its offset; neither changes without the other. -/
theorem Node.complete_eq (node declaration : Node) : node.complete declaration = { node with
    name := declaration.name, line := declaration.line, file := declaration.file
    typeId := declaration.typeId.or node.typeId
    typeOffset := if declaration.typeId.isSome then declaration.typeOffset else node.typeOffset
    detail := node.detail.complete declaration.function? } := by
  cases typed : declaration.typeId <;> cases detail : node.detail <;>
    cases declared : declaration.function? <;>
    simp only [complete, Detail.complete, typed, detail, declared] <;> split <;> simp_all

theorem Node.complete_linkClass? (node declaration : Node) :
    (node.complete declaration).linkClass? = node.linkClass? := by
  rw [complete_eq]
  unfold linkClass? isPack templateArgument?
  cases node.detail <;> cases declaration.function? <;> rfl

namespace Outline

variable {outline : Outline} {id target : Nat}

/-- Completing passes on a type that its offset leads to, or no type at all. -/
theorem LinksResolve.completeFrom (resolve : outline.LinksResolve) (id reference : NodeId) :
    (outline.completeFrom id reference).LinksResolve := by
  have kept := keeps_completeFrom outline id reference
  have one (other : Nat) : (outline.completeFrom id reference).node other =
      if other = id ∧ id < outline.size then _ else outline.node other :=
    node_modify outline id other _
  have classes (other : Nat) :
      ((outline.completeFrom id reference).node other).linkClass? =
        (outline.node other).linkClass? := by
    rw [one]
    split
    · dsimp only
      split_ifs <;> exact Node.complete_linkClass? _ _
    · rfl
  constructor <;> intro other
  · unfold typeAt?
    rw [funext kept.find, one]
    split
    · have passed : ((outline.node other).complete (outline.node reference)).typeId =
          ((outline.node other).complete (outline.node reference)).typeOffset.bind
            outline.find? := by
        have declared := resolve.type reference
        have own := resolve.type other
        unfold typeAt? at declared own
        rw [Node.complete_eq]
        dsimp only
        cases typed : (outline.node reference).typeId with
        | none => simpa using own
        | some target => simpa [typed] using declared
      dsimp only
      split_ifs <;> exact passed
    · exact resolve.type other
  · have offset := kept.read Node.referenceOffset Node.referenceOffset (fun _ => rfl) other
    rw [declarationAt?_of_offset kept.find offset classes, ← resolve.declaration]
    exact kept.read Node.referenceId Node.referenceId (fun _ => rfl) other

theorem LinksResolve.completeDefinitions (resolve : outline.LinksResolve) :
    outline.completeDefinitions.LinksResolve := by
  apply completeDefinitions_induction _ outline resolve
  intro outline id reference _ resolve
  exact resolve.completeFrom id reference

/-! ### All passes -/

theorem LinksResolve.finish (unlinked : ∀ id, (outline.node id).typeId = none ∧
    (outline.node id).referenceId = none) (void : String) :
    (outline.finish void).LinksResolve := by
  have linked : outline.link.LinksResolve := .link unlinked
  have spelled : (outline.link.spellNames void).LinksResolve := by
    apply linked.of_keeps
    apply (keeps_spellNames outline.link void).weaken
    intro a b same
    simp only [Node.withoutName, Node.mk.injEq] at same
    simp [Node.links, Node.linkClass?, Node.isPack, Node.templateArgument?, same]
  have qualified : (outline.link.spellNames void).qualifyNames.LinksResolve := by
    apply spelled.of_keeps
    apply (keeps_qualifyNames _).weaken
    intro a b same
    simp only [Node.withoutQualifier, Node.mk.injEq] at same
    simp [Node.links, Node.linkClass?, Node.isPack, Node.templateArgument?, same]
  apply qualified.completeDefinitions.of_keeps
  apply (keeps_spreadGlobals _).weaken
  intro a b same
  simp only [Node.withoutMark, Node.mk.injEq] at same
  simp [Node.links, Node.linkClass?, Node.isPack, Node.templateArgument?, same]

theorem LinksResolve.build (input : String) (units : List Dwarf.UnitRecord) (void : String) :
    (Outline.build input units void).1.LinksResolve := by
  rw [build_fst]
  exact LinksResolve.finish (Draft.sound_ofUnits input units).unlinked void

/-- In the outline of an input file, the type of an object is what its type offset leads to, its
declaration is what its declaration offset leads to where the two go together, and the offsets of
both are those that were recorded. -/
theorem links_eq_find (input : String) (units : List Dwarf.UnitRecord) (void : String)
    (id : NodeId) :
    let outline := (Outline.build input units void).1
    (outline.node id).typeId = (outline.node id).typeOffset.bind outline.find? ∧
    (∀ target, (outline.node id).referenceId = some target ↔
      (outline.node id).referenceOffset.bind outline.find? = some target ∧
        ∃ shared, (outline.node id).linkClass? = some shared ∧
          (outline.node target).linkClass? = some shared) ∧
    (∀ target, (outline.node id).typeId = some target →
      (outline.node id).typeOffset = some (outline.node target).offset) ∧
    (∀ target, (outline.node id).referenceId = some target →
      (outline.node id).referenceOffset = some (outline.node target).offset) := by
  intro outline
  have resolve : outline.LinksResolve := .build input units void
  have valid : outline.WellFormed := .build input units void
  have declared (target : Nat) : (outline.node id).referenceId = some target ↔
      (outline.node id).referenceOffset.bind outline.find? = some target ∧
        ∃ shared, (outline.node id).linkClass? = some shared ∧
          (outline.node target).linkClass? = some shared := by
    rw [resolve.declaration, declarationAt?, Option.filter_eq_some_iff, Node.linksTo_iff]
  have recorded {offset : Option UInt64} {target : Nat}
      (leads : offset.bind outline.find? = some target) :
      offset = some (outline.node target).offset := by
    obtain ⟨offset, rfl, found⟩ := Option.bind_eq_some_iff.mp leads
    rw [(valid.find_sound found).2]
  refine ⟨resolve.type id, declared, ?_, ?_⟩
  · intro target linked
    exact recorded ((resolve.type id).symm.trans linked)
  · intro target linked
    exact recorded ((declared target).mp linked).1

end Outline

end DebugOutline
