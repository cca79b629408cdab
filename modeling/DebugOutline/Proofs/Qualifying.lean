import DebugOutline.Proofs.Resolution
import DebugOutline.Proofs.Searching

/-! Qualifiers against the finished outline. They are made from the names as they are spelled, and
definitions take over the names of their declarations only afterwards: what is declared inside such
a definition is qualified by the name that the definition had before. -/
namespace DebugOutline

namespace Outline

variable {outline before after : Outline} {id : Nat} {parent : Option Nat} {void : String}

/-- The scopes that qualify a name declared under `parent`, from the inside out. -/
def enclosing (outline : Outline) (parent : Option NodeId) : List NodeId :=
  parent.elim [] fun scope =>
    (outline.ancestry scope).takeWhile fun outer => !(outline.node outer).kind.endsScopes

/-! ### After the names are spelled -/

theorem skeleton_of_withoutQualifier (a b : Node) (same : a.withoutQualifier = b.withoutQualifier) :
    a.skeleton = b.skeleton := by
  simp only [Node.withoutQualifier, Node.mk.injEq] at same
  simp [Node.skeleton, same]

/-- The passes that follow the spelling of names leave every object in its place. -/
theorem keeps_skeleton_spelled (outline : Outline) (void : String) :
    Keeps Node.skeleton (outline.link.spellNames void) (outline.finish void) := by
  have qualified := (keeps_qualifyNames (outline.link.spellNames void)).weaken _
    skeleton_of_withoutQualifier
  have completed := (keeps_completeDefinitions
    (outline.link.spellNames void).qualifyNames).weaken Node.skeleton fun a b same => by
      have apart := congrArg Prod.fst same
      simp only [Node.withoutDeclared, Node.mk.injEq] at apart
      simp [Node.skeleton, apart]
  have spread := (keeps_spreadGlobals
    (outline.link.spellNames void).qualifyNames.completeDefinitions).weaken _
    skeleton_of_withoutMark
  exact qualified.trans (completed.trans spread)

/-- Completing leaves an object that refers to no declaration as it was. -/
theorem completeDefinitions_of_alone (alone : (outline.node id).referenceId = none) :
    outline.completeDefinitions.node id = outline.node id := by
  obtain ⟨apart, whole⟩ := Prod.mk.inj ((keeps_completeDefinitions outline).node id)
  have refers : (outline.completeDefinitions.node id).referenceId = none :=
    (congrArg Node.referenceId apart).trans alone
  simpa [alone, refers] using whole

/-- An object that refers to no declaration is finished when it is qualified and marked. -/
theorem node_finish_of_alone (alone : ((outline.finish void).node id).referenceId = none) :
    ((outline.finish void).node id).withoutMark.withoutQualifier =
      ((outline.link.spellNames void).node id).withoutMark.withoutQualifier := by
  unfold finish at alone ⊢
  generalize outline.link.spellNames void = spelled at alone ⊢
  have marked := keeps_spreadGlobals spelled.qualifyNames.completeDefinitions
  have completed := keeps_completeDefinitions spelled.qualifyNames
  rw [marked.read Node.referenceId Node.referenceId (fun _ => rfl),
    completed.read Node.referenceId (·.1.referenceId) (fun _ => rfl)] at alone
  rw [marked.node, completeDefinitions_of_alone alone]
  exact congrArg Node.withoutMark ((keeps_qualifyNames spelled).node id)

theorem read_finish_of_alone (alone : ((outline.finish void).node id).referenceId = none)
    (field : Node → α)
    (seen : ∀ node : Node, field node.withoutMark.withoutQualifier = field node) :
    field ((outline.finish void).node id) = field ((outline.link.spellNames void).node id) := by
  rw [← seen, node_finish_of_alone alone, seen]

theorem name_finish_of_alone (alone : ((outline.finish void).node id).referenceId = none) :
    ((outline.finish void).node id).name = ((outline.link.spellNames void).node id).name :=
  read_finish_of_alone alone Node.name fun _ => rfl

/-! ### What a qualifier depends on -/

theorem Keeps.ancestry (kept : Keeps Node.skeleton before after) (id : Nat) :
    after.ancestry id = before.ancestry id := by
  have chain (limit : Nat) (start : Option NodeId) :
      after.chain limit start = before.chain limit start := by
    induction limit generalizing start with
    | zero => rfl
    | succ limit ih =>
      cases start with
      | none => rfl
      | some id => rw [Outline.chain, Outline.chain, kept.parent, ih]
  unfold Outline.ancestry
  rw [kept.size, chain]

theorem Keeps.enclosing (kept : Keeps Node.skeleton before after) (parent : Option NodeId) :
    after.enclosing parent = before.enclosing parent := by
  unfold Outline.enclosing
  simp only [kept.ancestry, kept.kind]

/-- Objects that stay in their places have the same qualifier under them if the scopes around keep
their names. -/
theorem Keeps.qualifierUnder (kept : Keeps Node.skeleton before after)
    (named : ∀ scope ∈ before.enclosing parent,
      (after.node scope).name = (before.node scope).name) :
    after.qualifierUnder parent = before.qualifierUnder parent := by
  cases parent with
  | none => rfl
  | some scope =>
    have names : after.scopeNames scope = before.scopeNames scope := by
      unfold Outline.scopeNames
      simp only [kept.ancestry, kept.kind]
      exact congrArg _ (List.map_congr_left named)
    simp only [Outline.qualifierUnder, kept.kind, names]

/-- Qualifiers are not made from qualifiers. -/
theorem qualifierUnder_of_withoutQualifier (kept : Keeps Node.withoutQualifier before after)
    (parent : Option NodeId) : after.qualifierUnder parent = before.qualifierUnder parent :=
  (kept.weaken _ skeleton_of_withoutQualifier).qualifierUnder fun scope _ =>
    kept.read Node.name Node.name (fun _ => rfl) scope

/-! ### Qualifying every name -/

theorem lt_size_of_isQualified (qualified : (outline.node id).kind.isQualified = true) :
    id < outline.size := by
  refine lt_size_of_node_ne fun outside => ?_
  rw [outside] at qualified
  cases qualified

theorem qualifier_qualify (outline : Outline) (other id : Nat) :
    ((outline.qualify other).node id).qualifier =
      if id = other ∧ (outline.node id).kind.isQualified = true then
        outline.qualifierUnder (outline.node id).parent
      else (outline.node id).qualifier := by
  unfold qualify
  by_cases qualified : (outline.node other).kind.isQualified = true
  · have inside := lt_size_of_isQualified qualified
    by_cases same : id = other
    · subst same
      simp [qualified, node_modify, inside]
    · simp [qualified, node_modify, same]
  · by_cases same : id = other
    · subst same
      simp [qualified]
    · simp [qualified, same]

/-- Every qualified object gets what qualifies a name under its parent. -/
theorem qualifier_qualifyNames (qualified : (outline.node id).kind.isQualified = true) :
    (outline.qualifyNames.node id).qualifier =
      outline.qualifierUnder (outline.node id).parent := by
  have pass (ids : List NodeId) (current : Outline)
      (kept : Keeps Node.withoutQualifier outline current) :
      ((ids.foldl qualify current).node id).qualifier =
        if id ∈ ids then outline.qualifierUnder (outline.node id).parent
        else (current.node id).qualifier := by
    induction ids generalizing current with
    | nil => rfl
    | cons first rest ih =>
      have kind := kept.read Node.kind Node.kind (fun _ => rfl) id
      have parents := kept.read Node.parent Node.parent (fun _ => rfl) id
      rw [List.foldl_cons, ih _ (kept.trans (keeps_qualify current first)), qualifier_qualify,
        kind, parents, qualifierUnder_of_withoutQualifier kept]
      by_cases here : id = first
      · subst here
        simp [qualified]
      · simp [here]
  have member := mem_ids.mpr (lt_size_of_isQualified qualified)
  rw [qualifyNames, pass _ outline (.refl _ _), if_pos member]

theorem modify_eq_self {change : Node → Node} (same : change (outline.node id) = outline.node id) :
    outline.modify id change = outline := by
  have nodes : outline.nodes.modify id change = outline.nodes := by
    refine Array.ext (by simp) fun position inside known => ?_
    rw [Array.getElem_modify]
    split
    · rename_i here
      subst here
      simpa [node, Array.getD, known] using same
    · rfl
  rw [modify, nodes]

/-- Qualifying again changes nothing exactly if the qualifiers are those under the parents. -/
theorem qualifyNames_eq_self_iff : outline.qualifyNames = outline ↔
    ∀ id, (outline.node id).kind.isQualified = true →
      (outline.node id).qualifier = outline.qualifierUnder (outline.node id).parent := by
  constructor
  · intro same id qualified
    rw [← qualifier_qualifyNames qualified, same]
  · intro agree
    refine List.foldl_fixed' (fun id => ?_) outline.ids
    unfold qualify
    dsimp only
    split
    · rename_i qualified
      refine modify_eq_self ?_
      rw [← agree id qualified]
    · rfl

/-! ### Qualifiers in the finished outline -/

/-- Only symbols are qualified like their declarations, so whatever is qualified by its scopes stays
so. -/
theorem keeps_qualifier_completeDefinitions (outline : Outline) :
    Keeps (fun node => (node.kind, if node.kind.isQualified then node.qualifier else ""))
      outline outline.completeDefinitions := by
  apply completeDefinitions_induction
  · intro current id reference _ kept
    rw [completeFrom_eq_modify]
    refine kept.trans (.modify current id ?_)
    by_cases symbol : (current.node id).kind.isSymbol = true
    · have kind := (Node.mk.inj (current.completed_withoutDeclared id reference
        (current.node id))).1
      simp [kind, Kind.isQualified, symbol]
    · simp [completed, symbol, Node.complete_eq]
  · exact .refl _ _

/-- What is qualified by its scopes keeps the qualifier that it gets from the spelled names. -/
theorem qualifier_finish (qualified : ((outline.finish void).node id).kind.isQualified = true) :
    ((outline.finish void).node id).qualifier =
      (outline.link.spellNames void).qualifierUnder ((outline.finish void).node id).parent := by
  have kept := keeps_skeleton_spelled outline void
  rw [kept.kind] at qualified
  rw [kept.parent, ← qualifier_qualifyNames qualified]
  unfold finish
  generalize outline.link.spellNames void = spelled at qualified ⊢
  have marked := keeps_spreadGlobals spelled.qualifyNames.completeDefinitions
  obtain ⟨kind, same⟩ := Prod.mk.inj
    ((keeps_qualifier_completeDefinitions spelled.qualifyNames).node id)
  have still := (keeps_qualifyNames spelled).read Node.kind Node.kind (fun _ => rfl) id
  rw [marked.read Node.qualifier Node.qualifier (fun _ => rfl)]
  simpa [kind, still, qualified] using same

/-- A structure that is declared inside another and defined outside of it, with an enumeration in
the definition. -/
private def innerUnit : Dwarf.UnitRecord where
  entries := #[
    { offset := 11, tag := .compileUnit },
    { offset := 20, tag := .structureType, parent := some 11,
      attributes := [⟨.name, .string, .string "Outer"⟩] },
    { offset := 24, tag := .structureType, parent := some 20,
      attributes := [⟨.name, .string, .string "Inner"⟩] },
    { offset := 30, tag := .structureType, parent := some 11,
      attributes := [⟨.specification, .ref4, .reference 24⟩] },
    { offset := 34, tag := .enumerationType, parent := some 30,
      attributes := [⟨.name, .string, .string "Kind"⟩] }]

/-- In the outline of an input file, everything that is qualified by its scopes is qualified by the
names that these have when all names are spelled. So qualifying again changes nothing exactly if no
qualifier comes out differently once definitions have the names of their declarations; and an object
agrees with the finished outline unless a scope around it is a definition with another name. -/
theorem qualifier_build (input : String) (units : List Dwarf.UnitRecord) (void : String) :
    let spelled := (Draft.ofUnits input units).outline.link.spellNames void
    let outline := (Outline.build input units void).1
    (∀ id, (outline.node id).kind.isQualified = true →
      (outline.node id).qualifier = spelled.qualifierUnder (outline.node id).parent) ∧
    (outline.qualifyNames = outline ↔ ∀ id, (outline.node id).kind.isQualified = true →
      spelled.qualifierUnder (outline.node id).parent =
        outline.qualifierUnder (outline.node id).parent) ∧
    (∀ id, (outline.node id).kind.isQualified = true →
      (∀ scope ∈ outline.enclosing (outline.node id).parent,
        (outline.node scope).referenceId = none ∨
          (outline.node scope).name = (spelled.node scope).name) →
      (outline.node id).qualifier = outline.qualifierUnder (outline.node id).parent) := by
  simp only [build_fst]
  generalize (Draft.ofUnits input units).outline = draft
  have kept := keeps_skeleton_spelled draft void
  refine ⟨fun id => qualifier_finish, qualifyNames_eq_self_iff.trans ?_, ?_⟩
  · exact forall₂_congr fun id qualified => by rw [qualifier_finish qualified]
  · intro id qualified named
    rw [qualifier_finish qualified, ← kept.qualifierUnder]
    intro scope around
    rw [← kept.enclosing] at around
    exact (named scope around).elim name_finish_of_alone fun same => same

/-- The enumeration is qualified by the spelled names, the declaration also by the finished ones. -/
theorem qualifier_of_inner :
    let spelled := (Draft.ofUnits "a.o" [innerUnit]).outline.link.spellNames "void"
    let outline := (Outline.build "a.o" [innerUnit] "void").1
    (outline.node 5).qualifier = spelled.qualifierUnder (outline.node 5).parent ∧
      (outline.node 3).qualifier = outline.qualifierUnder (outline.node 3).parent := by
  obtain ⟨spelled, -, agrees⟩ := qualifier_build "a.o" [innerUnit] "void"
  refine ⟨spelled 5 ?_, agrees 3 ?_ ?_⟩ <;> rw [build_eq_buildBySearch]
  · decide +kernel
  · decide +kernel
  · decide +kernel

/-- A qualifier may lack a scope that has a name in the finished outline. -/
theorem qualifier_lacks_scope : ¬ ∀ (input : String) (units : List Dwarf.UnitRecord)
    (void : String) (id : NodeId),
      let outline := (Outline.build input units void).1
      (outline.node id).kind.isQualified = true →
        (outline.node id).qualifier = outline.qualifierUnder (outline.node id).parent := by
  intro agree
  have same := agree "a.o" [innerUnit] "void" 5
  rw [build_eq_buildBySearch] at same
  have lacking : ((buildBySearch "a.o" [innerUnit] "void").node 5).qualifier = "" := by
    decide +kernel
  have named : (buildBySearch "a.o" [innerUnit] "void").qualifierUnder
      ((buildBySearch "a.o" [innerUnit] "void").node 5).parent = "Inner::" := by
    decide +kernel
  have conflict := lacking.symm.trans ((same (by decide +kernel)).trans named)
  exact absurd conflict (by decide)

end Outline

end DebugOutline
