import DebugOutline.Proofs.Spelled

/-! What every name says of the names it depends on. A type that is made from other types depends on
these, a subroutine type also on the types of its parameters, and a template that lacks its
arguments on the types among them. Where no name depends on itself, the visits of the pass do not show: each
name is what its rule makes of the names that are there when all are spelled. -/
namespace DebugOutline

/-- Whether an object of this form stands for a type made from another one. -/
def AuxiliaryForm.isMade : AuxiliaryForm → Bool
  | .subrange | .subroutineParameter | .enumerator | .inheritance => false
  | _ => true

/-- What a modifier of this form says instead of a type that is not there. -/
def AuxiliaryForm.missing (void : String) : AuxiliaryForm → String
  | .pointer => void
  | _ => ""

/-- Whether a template gets its arguments. -/
def Node.isSuffixed (node : Node) : Bool :=
  node.auxiliaryForm?.isNone && Spelling.lacksArguments node

namespace Outline

variable {outline linked before after : Outline} {id target : Nat} {void : String}
  {form : AuxiliaryForm}

/-! ### Dependencies -/

/-- The name of one object depends on that of another. -/
inductive NameDepends (outline : Outline) (id : NodeId) : NodeId → Prop
  | type {form : AuxiliaryForm} {target : NodeId}
      (isForm : (outline.node id).auxiliaryForm? = some form) (made : form.isMade = true)
      (typed : (outline.node id).typeId = some target) : NameDepends outline id target
  | parameter {parameter target : NodeId}
      (isForm : (outline.node id).auxiliaryForm? = some .subroutine)
      (child : parameter ∈ (outline.node id).children)
      (isParameter : (outline.node parameter).auxiliaryForm? = some .subroutineParameter)
      (formal : (outline.node parameter).tag = some .formalParameter)
      (typed : (outline.node parameter).typeId = some target) : NameDepends outline id target
  | argument {parameter target : NodeId} (suffixed : (outline.node id).isSuffixed = true)
      (child : parameter ∈ (outline.node id).children)
      (isParameter : (outline.node parameter).kind = .templateParameter)
      (isType : (outline.node parameter).templateArgument? = some .type)
      (typed : (outline.node parameter).typeId = some target) : NameDepends outline id target
  | packed {pack parameter target : NodeId} (suffixed : (outline.node id).isSuffixed = true)
      (child : pack ∈ (outline.node id).children)
      (isParameter : (outline.node pack).kind = .templateParameter)
      (isPack : (outline.node pack).templateArgument? = some .pack)
      (member : parameter ∈ (outline.node pack).children)
      (isType : (outline.node parameter).templateArgument? = some .type)
      (typed : (outline.node parameter).typeId = some target) : NameDepends outline id target

theorem target?_typePart (outline : Outline) (id : Nat) (missing : String) :
    (Spelling.typePart outline id missing).target? = (outline.node id).typeId := by
  unfold Spelling.typePart
  cases (outline.node id).typeId <;> rfl

theorem mem_formalParameters {parameter : Nat} :
    parameter ∈ Spelling.formalParameters outline id ↔
      parameter ∈ (outline.node id).children ∧
        (outline.node parameter).auxiliaryForm? = some .subroutineParameter ∧
        (outline.node parameter).tag = some .formalParameter := by
  simp only [Spelling.formalParameters, auxiliaryChildren, List.mem_filter, beq_iff_eq,
    Array.mem_toList_iff, and_assoc]

/-- An argument names the type of a type parameter. -/
theorem target?_argument {parameter : Nat} :
    (Spelling.argument? outline parameter).bind NamePart.target? = some target ↔
      (outline.node parameter).templateArgument? = some .type ∧
        (outline.node parameter).typeId = some target := by
  unfold Spelling.argument?
  generalize (outline.node parameter).templateArgument? = argument
  cases argument with
  | none => simp
  | some argument =>
    cases argument <;> cases (outline.node parameter).typeId <;> simp [NamePart.target?]

/-- The arguments of a template name the types of its type parameters and of those in its packs. -/
theorem exists_argument :
    (∃ piece ∈ Spelling.arguments outline id, piece.target? = some target) ↔
      ∃ parameter, (outline.node parameter).templateArgument? = some .type ∧
        (outline.node parameter).typeId = some target ∧
        ∃ child ∈ (outline.node id).children, (outline.node child).kind = .templateParameter ∧
          (parameter = child ∨ (outline.node child).templateArgument? = some .pack ∧
            parameter ∈ (outline.node child).children) := by
  simp only [Spelling.arguments, List.mem_filterMap, List.mem_flatMap, List.mem_filter,
    Array.mem_toList_iff, beq_iff_eq]
  constructor
  · rintro ⟨piece, ⟨parameter, ⟨child, ⟨member, isParameter⟩, from_child⟩, argument⟩, named⟩
    obtain ⟨isType, typed⟩ := target?_argument.mp
      ((congrArg (·.bind NamePart.target?) argument).trans named)
    refine ⟨parameter, isType, typed, child, member, isParameter, ?_⟩
    split at from_child
    · rename_i isPack
      exact .inr ⟨beq_iff_eq.mp isPack, Array.mem_toList_iff.mp from_child⟩
    · exact .inl (List.mem_singleton.mp from_child)
  · rintro ⟨parameter, isType, typed, child, member, isParameter, from_child⟩
    obtain ⟨piece, argument, named⟩ := Option.bind_eq_some_iff.mp
      (target?_argument.mpr ⟨isType, typed⟩)
    refine ⟨piece, ⟨parameter, ⟨child, ⟨member, isParameter⟩, ?_⟩, argument⟩, named⟩
    rcases from_child with rfl | ⟨isPack, packed⟩
    · simp [Node.isPack, isType]
    · simp [Node.isPack, isPack, packed]

/-- A made type needs the name of its type, and a subroutine those of its parameters' types. -/
theorem needsName_iff_of_form (isForm : (outline.node id).auxiliaryForm? = some form) :
    outline.NeedsName void id target ↔
      form.isMade = true ∧ (outline.node id).typeId = some target ∨
        form = .subroutine ∧ ∃ parameter ∈ Spelling.formalParameters outline id,
          (outline.node parameter).typeId = some target := by
  have spelled : Spelling.of? outline void id = Spelling.auxiliary? outline id form void := by
    simp [Spelling.of?, isForm]
  cases form
  case subrange | subroutineParameter | enumerator | inheritance =>
    simp [NeedsName, neededNames, spelled, Spelling.auxiliary?, AuxiliaryForm.isMade]
  all_goals
    have literal (text : String) : (NamePart.literal text).target? = none := rfl
    rw [needsName_iff spelled]
    simp [Spelling.ofWords, Spelling.array, Spelling.subroutine, target?_typePart, literal,
      AuxiliaryForm.isMade]

/-- Before an object, the pass visits those that its name depends on. -/
theorem needsName_iff_nameDepends :
    outline.NeedsName void id target ↔ outline.NameDepends id target := by
  cases isForm : (outline.node id).auxiliaryForm? with
  | none =>
    cases lacks : Spelling.lacksArguments (outline.node id) with
    | false =>
      have unspelled : Spelling.of? outline void id = none := by simp [Spelling.of?, isForm, lacks]
      simp only [NeedsName, neededNames, unspelled]
      refine iff_of_false List.not_mem_nil fun depends => ?_
      cases depends <;> simp_all [Node.isSuffixed]
    | true =>
      have suffixed : (outline.node id).isSuffixed = true := by
        simp [Node.isSuffixed, isForm, lacks]
      have spelled : Spelling.of? outline void id = some (Spelling.template outline id) := by
        simp [Spelling.of?, isForm, lacks]
      rw [needsName_iff spelled, Spelling.template, exists_argument]
      constructor
      · rintro ⟨parameter, isType, typed, child, member, isParameter, rfl | ⟨isPack, packed⟩⟩
        · exact .argument suffixed member isParameter isType typed
        · exact .packed suffixed member isParameter isPack packed isType typed
      · intro depends
        cases depends with
        | type form => exact absurd (isForm.symm.trans form) (by simp)
        | parameter form => exact absurd (isForm.symm.trans form) (by simp)
        | argument _ member isParameter isType typed =>
          exact ⟨_, isType, typed, _, member, isParameter, .inl rfl⟩
        | packed _ member isParameter isPack packed isType typed =>
          exact ⟨_, isType, typed, _, member, isParameter, .inr ⟨isPack, packed⟩⟩
  | some form =>
    rw [needsName_iff_of_form isForm]
    constructor
    · rintro (⟨made, typed⟩ | ⟨rfl, parameter, formal, typed⟩)
      · exact .type isForm made typed
      · obtain ⟨child, isParameter, formal⟩ := mem_formalParameters.mp formal
        exact .parameter isForm child isParameter formal typed
    · intro depends
      cases depends with
      | type same made typed =>
        obtain rfl := Option.some.inj (isForm.symm.trans same)
        exact .inl ⟨made, typed⟩
      | parameter same child isParameter formal typed =>
        have isSubroutine := Option.some.inj (isForm.symm.trans same)
        exact .inr ⟨isSubroutine, _, mem_formalParameters.mpr ⟨child, isParameter, formal⟩, typed⟩
      | argument suffixed => simp [Node.isSuffixed, isForm] at suffixed
      | packed suffixed => simp [Node.isSuffixed, isForm] at suffixed

theorem needsName_eq (outline : Outline) (void : String) :
    outline.NeedsName void = outline.NameDepends :=
  funext fun _ => funext fun _ => propext needsName_iff_nameDepends

/-- Where all that a name needs comes lower in some ranking, no name depends on itself. -/
theorem acyclic_nameDepends (rank : Nat → Nat)
    (less : ∀ id ∈ outline.ids, ∀ target ∈ outline.neededNames void id, rank target < rank id)
    (id : Nat) : ¬ Relation.TransGen outline.NameDepends id id := by
  rw [← needsName_eq outline void]
  refine acyclic_of_rank rank (fun id target needed => ?_) id
  exact less id (mem_ids.mpr (lt_size_of_needsName needed)) target needed

/-! ### Rules -/

/-- The name that the type of an object has in the end, or `missing` if it has no type. -/
def typeName (before after : Outline) (id : NodeId) (missing : String) : String :=
  (before.node id).typeId.elim missing fun target => (after.node target).name

/-- Every name follows from the one that was there before, and from the names that are there in the
end. Nothing but names is different. -/
structure NamedByRule (void : String) (before after : Outline) : Prop where
  others : Keeps Node.withoutName before after
  modifier : ∀ id form front behind, (before.node id).auxiliaryForm? = some form →
    form.words? = some (front, behind) → (after.node id).name = Spelling.joinWords
      (front ++ [(before.node id).name, typeName before after id (form.missing void)] ++ behind)
  array : ∀ id, (before.node id).auxiliaryForm? = some .array →
    (after.node id).name = typeName before after id "?" ++ " " ++
      String.join ((before.auxiliaryChildren id .subrange).map fun extent =>
        (after.node extent).name)
  subroutine : ∀ id, (before.node id).auxiliaryForm? = some .subroutine →
    (after.node id).name = typeName before after id void ++ " (*)(" ++
      String.intercalate "," ((Spelling.formalParameters before id).map fun parameter =>
        typeName before after parameter "") ++ ")"
  part : ∀ id form, (before.node id).auxiliaryForm? = some form → form.isMade = false →
    (after.node id).name = (before.node id).name
  object : ∀ id, (before.node id).auxiliaryForm? = none → (before.node id).isSuffixed = false →
    (after.node id).name = (before.node id).name

theorem text_typePart (before after : Outline) (id : Nat) (missing : String) :
    (Spelling.typePart before id missing).text after = typeName before after id missing := by
  unfold Spelling.typePart typeName
  cases (before.node id).typeId <;> rfl

theorem isPlain_typePart (outline : Outline) (id : Nat) (missing : String) :
    (Spelling.typePart outline id missing).isPlain = true := by
  unfold Spelling.typePart
  cases (outline.node id).typeId <;> rfl

/-- No scope qualifies the names that a made type is spelled from. -/
theorem isPlain_of_form {spelling : Spelling}
    (spelled : Spelling.auxiliary? outline id form void = some spelling) :
    ∀ piece ∈ spelling.parts, piece.isPlain = true := by
  have literal (text : String) : (NamePart.literal text).isPlain = true := rfl
  cases form <;> cases spelled <;>
    simp [Spelling.ofWords, Spelling.array, Spelling.subroutine, isPlain_typePart, literal]

/-- Where the name of a made type does not depend on itself, it is composed of the names that are
there in the end. -/
theorem name_of_form {spelling : Spelling} (acyclic : ¬ Relation.TransGen linked.NameDepends id id)
    (isForm : (linked.node id).auxiliaryForm? = some form)
    (spelled : Spelling.auxiliary? linked id form void = some spelling) :
    ((linked.spellNames void).node id).name =
      spelling.compose (spelling.parts.map (·.text (linked.spellNames void))) := by
  refine name_spellNames ⟨?_, isPlain_of_form spelled, needsName_eq linked void ▸ acyclic⟩
  simp [Spelling.of?, isForm, spelled]

theorem auxiliary?_of_words {front behind : List String}
    (words : form.words? = some (front, behind)) :
    Spelling.auxiliary? outline id form void = some (.ofWords (front.map .literal ++
      [.literal (outline.node id).name, Spelling.typePart outline id (form.missing void)] ++
      behind.map .literal)) := by
  cases form <;> cases words <;> rfl

/-- Where no name depends on itself, every name follows its rule. -/
theorem namedByRule_spellNames (linked : Outline) (void : String)
    (acyclic : ∀ id, ¬ Relation.TransGen linked.NameDepends id id) :
    NamedByRule void linked (linked.spellNames void) where
  others := keeps_spellNames linked void
  modifier id form front behind isForm words := by
    rw [name_of_form (acyclic id) isForm (auxiliary?_of_words words), Spelling.ofWords,
      List.map_append, List.map_append, text_literals, text_literals, List.map_cons,
      List.map_singleton, text_typePart]
    rfl
  array id isForm := by
    have extents : ∀ extent ∈ linked.auxiliaryChildren id .subrange,
        (linked.node extent).name = ((linked.spellNames void).node extent).name :=
      fun extent member => (name_spellNames_of_unspelled (of?_of_mem_extents member)).symm
    rw [name_of_form (acyclic id) isForm rfl, Spelling.array]
    dsimp only
    rw [List.map_singleton, text_typePart, List.map_congr_left extents, String.join_cons,
      String.join_nil, String.append_empty]
  subroutine id isForm := by
    rw [name_of_form (acyclic id) isForm rfl, Spelling.subroutine]
    simp only [List.map_cons, List.map_map, Function.comp_def, text_typePart]
  part id form isForm made := by
    refine name_spellNames_of_unspelled ?_
    cases form <;> simp_all [Spelling.of?, Spelling.auxiliary?, AuxiliaryForm.isMade]
  object id noForm notSuffixed := by
    refine name_spellNames_of_unspelled ?_
    have whole : Spelling.lacksArguments (linked.node id) = false := by
      simpa [Node.isSuffixed, noForm] using notSuffixed
    simp [Spelling.of?, noForm, whole]

/-! ### A subroutine with parameters -/

/-- A subroutine type with two parameters; the type of one of them is described before the types
that it is made from. -/
private def subroutineUnit : Dwarf.UnitRecord where
  entries := #[
    { offset := 11, tag := .compileUnit },
    { offset := 20, tag := .pointerType, parent := some 11,
      attributes := [⟨.type, .ref4, .reference 24⟩] },
    { offset := 24, tag := .constType, parent := some 11,
      attributes := [⟨.type, .ref4, .reference 28⟩] },
    { offset := 28, tag := .baseType, parent := some 11,
      attributes := [⟨.name, .string, .string "int"⟩] },
    { offset := 32, tag := .subroutineType, parent := some 11 },
    { offset := 34, tag := .formalParameter, parent := some 32,
      attributes := [⟨.type, .ref4, .reference 20⟩] },
    { offset := 38, tag := .formalParameter, parent := some 32,
      attributes := [⟨.type, .ref4, .reference 28⟩] }]

/-- The name of the subroutine follows, rule by rule, from the names of the types. -/
theorem name_subroutine_forward :
    let linked := (Draft.ofUnits "a.o" [subroutineUnit]).outline.link
    (∀ id, ¬ Relation.TransGen linked.NameDepends id id) ∧
      ((linked.spellNames "void").node 5).name = "void (*)(const int *,int)" := by
  intro linked
  have known : linked = (Sketch.ofUnits "a.o" [subroutineUnit]).outline.searchLinks :=
    link_ofUnits_eq_searchLinks "a.o" [subroutineUnit]
  have less : ∀ id ∈ linked.ids, ∀ target ∈ linked.neededNames "void" id,
      [0, 0, 2, 1, 0, 3].getD target 0 < [0, 0, 2, 1, 0, 3].getD id 0 := by
    rw [known]
    decide +kernel
  have acyclic := acyclic_nameDepends (fun id => [0, 0, 2, 1, 0, 3].getD id 0) less
  refine ⟨acyclic, ?_⟩
  have rules := namedByRule_spellNames linked "void" acyclic
  have int := rules.object 4 (by rw [known]; decide +kernel) (by rw [known]; decide +kernel)
  have const := rules.modifier 3 .const ["const"] [] (by rw [known]; decide +kernel) rfl
  have pointer := rules.modifier 2 .pointer [] ["*"] (by rw [known]; decide +kernel) rfl
  have subroutine := rules.subroutine 5 (by rw [known]; decide +kernel)
  have types : (linked.node 2).typeId = some 3 ∧ (linked.node 3).typeId = some 4 ∧
      (linked.node 5).typeId = none ∧ (linked.node 6).typeId = some 2 ∧
      (linked.node 7).typeId = some 4 ∧ Spelling.formalParameters linked 5 = [6, 7] ∧
      (linked.node 2).name = "" ∧ (linked.node 3).name = "" ∧ (linked.node 4).name = "int" := by
    rw [known]
    decide +kernel
  simp only [types, typeName, Option.elim] at int const pointer
  simp only [types, typeName, Option.elim, List.map_cons, List.map_nil] at subroutine
  rw [subroutine, pointer, const, int]
  decide +kernel

end Outline

end DebugOutline
