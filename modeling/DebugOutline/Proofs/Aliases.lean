import DebugOutline.Proofs.Lookup
import DebugOutline.Render.Text

/-! What is behind the aliases of a type. Each alias leads to one type, so that a chain of aliases
either ends, and then passes every alias once, or goes round in a circle for ever. An outline has
room for no chain that is longer than itself, so following as many aliases as there are objects gets
to the end of every chain that has one. -/
namespace DebugOutline

namespace Outline

variable {outline : Outline} {id type next found last other limit : Nat} {passed more : List Nat}

/-- An alias and its type. -/
def AliasOf (outline : Outline) (id type : NodeId) : Prop :=
  (outline.node id).kind = .alias ∧ (outline.node id).typeId = some type

/-- A chain of aliases from one type to another, with the aliases that it passes. -/
inductive Behind (outline : Outline) : NodeId → List NodeId → NodeId → Prop
  | here {type : NodeId} : Behind outline type [] type
  | past {type next found : NodeId} {passed : List NodeId} (isAlias : outline.AliasOf type next)
      (rest : Behind outline next passed found) : Behind outline type (type :: passed) found

/-- Chains end at what is no alias, and at an alias whose type is not known. -/
def EndsAliases (outline : Outline) (type : NodeId) : Prop := ∀ next, ¬ outline.AliasOf type next

theorem AliasOf.unique (first : outline.AliasOf id type) (second : outline.AliasOf id other) :
    type = other :=
  Option.some.inj (first.2.symm.trans second.2)

theorem AliasOf.mem_ids (isAlias : outline.AliasOf id type) : id ∈ outline.ids := by
  refine Outline.mem_ids.mpr (lt_size_of_node_ne fun outside => ?_)
  have typed := isAlias.2
  rw [outside] at typed
  cases typed

namespace Behind

theorem snoc (leads : outline.Behind type passed found) (isAlias : outline.AliasOf found next) :
    outline.Behind type (passed ++ [found]) next := by
  induction leads with
  | here => exact .past isAlias .here
  | past first _ ih => exact .past first (ih isAlias)

theorem subset_ids (leads : outline.Behind type passed found) : passed ⊆ outline.ids := by
  induction leads with
  | here => exact List.nil_subset _
  | past isAlias _ ih => exact List.cons_subset.mpr ⟨isAlias.mem_ids, ih⟩

/-- Two chains from one type that both end are the same. -/
theorem unique (leads : outline.Behind type passed found) (again : outline.Behind type more last)
    (ends : outline.EndsAliases found) (also : outline.EndsAliases last) :
    passed = more ∧ found = last := by
  induction leads generalizing more with
  | here =>
    cases again with
    | here => exact ⟨rfl, rfl⟩
    | past isAlias => exact absurd isAlias (ends _)
  | past isAlias _ ih =>
    cases again with
    | here => exact absurd isAlias (also _)
    | past same rest =>
      obtain rfl := isAlias.unique same
      obtain ⟨rfl, rfl⟩ := ih rest ends
      exact ⟨rfl, rfl⟩

/-- A chain leads to each alias that it passes, and goes on from there. -/
theorem split (leads : outline.Behind type passed found) (member : other ∈ passed) :
    ∃ before behind, passed = before ++ other :: behind ∧ outline.Behind type before other ∧
      outline.Behind other (other :: behind) found := by
  induction leads with
  | here => cases member
  | @past type next _ passed isAlias rest ih =>
    rcases List.mem_cons.mp member with rfl | later
    · exact ⟨[], passed, rfl, .here, .past isAlias rest⟩
    · obtain ⟨before, behind, rfl, first, second⟩ := ih later
      exact ⟨type :: before, behind, rfl, .past isAlias first, second⟩

/-- A chain that ends comes back to no alias. -/
theorem nodup (leads : outline.Behind type passed found) (ends : outline.EndsAliases found) :
    passed.Nodup := by
  induction leads with
  | here => exact List.nodup_nil
  | past isAlias rest ih =>
    refine List.nodup_cons.mpr ⟨fun again => ?_, ih ends⟩
    obtain ⟨before, behind, rfl, -, onwards⟩ := rest.split again
    obtain ⟨same, -⟩ := onwards.unique (.past isAlias rest) ends ends
    have length := congrArg List.length same
    simp only [List.length_cons, List.length_append] at length
    omega

/-- There are no more aliases on the way than objects. -/
theorem length_le_size (leads : outline.Behind type passed found) (distinct : passed.Nodup) :
    passed.length ≤ outline.size := by
  have fewer := (distinct.subperm leads.subset_ids).length_le
  rwa [ids, List.length_range] at fewer

theorem reflTransGen (leads : outline.Behind type passed found) :
    Relation.ReflTransGen outline.AliasOf type found := by
  induction leads with
  | here => exact .refl
  | past isAlias _ ih => exact .head isAlias ih

end Behind

/-- Whatever a circle leads to is on it. -/
theorem transGen_of_reflTransGen (circle : Relation.TransGen outline.AliasOf type type)
    (leads : Relation.ReflTransGen outline.AliasOf type found) :
    Relation.TransGen outline.AliasOf found found := by
  induction leads with
  | refl => exact circle
  | tail _ isAlias ih =>
    obtain ⟨next, same, back⟩ := Relation.TransGen.head'_iff.mp ih
    obtain rfl := isAlias.unique same
    exact .tail' back isAlias

/-- A chain that passes an alias twice, or ends at one that it has passed, has got into a circle. -/
theorem Behind.transGen_of_not_nodup (leads : outline.Behind type passed found)
    (twice : ¬ (passed ++ [found]).Nodup) : Relation.TransGen outline.AliasOf found found := by
  induction leads with
  | here => exact absurd (List.nodup_singleton _) twice
  | @past type next found passed isAlias rest ih =>
    by_cases distinct : (passed ++ [found]).Nodup
    · have again : type ∈ passed ++ [found] := by
        by_contra fresh
        exact twice (List.nodup_cons.mpr ⟨fresh, distinct⟩)
      rcases List.mem_append.mp again with member | last
      · obtain ⟨before, behind, -, back, onwards⟩ := rest.split member
        exact transGen_of_reflTransGen (.head' isAlias back.reflTransGen) onwards.reflTransGen
      · obtain rfl := List.mem_singleton.mp last
        exact .head' isAlias rest.reflTransGen
    · exact ih distinct

/-- Following aliases either gets to the end of a chain or uses up its limit. -/
theorem behind_followAliases (outline : Outline) (limit : Nat) (type : NodeId) :
    ∃ passed, outline.Behind type passed (Layout.followAliases outline limit type) ∧
      (outline.EndsAliases (Layout.followAliases outline limit type) ∨ passed.length = limit) := by
  induction limit generalizing type with
  | zero => exact ⟨[], .here, .inr rfl⟩
  | succ limit ih =>
    unfold Layout.followAliases
    dsimp only
    split
    · rename_i next typed
      split
      · rename_i isAlias
        obtain ⟨passed, leads, reached⟩ := ih next
        exact ⟨type :: passed, .past ⟨isAlias, typed⟩ leads, reached.imp_right (congrArg (· + 1))⟩
      · rename_i other
        exact ⟨[], .here, .inl fun next isAlias => other isAlias.1⟩
    · rename_i untyped
      exact ⟨[], .here, .inl fun next isAlias => absurd (untyped.symm.trans isAlias.2) (by simp)⟩

/-- The end of a chain is found with a limit that is as long as the chain. -/
theorem followAliases_eq (leads : outline.Behind type passed last)
    (ends : outline.EndsAliases last) (enough : passed.length ≤ limit) :
    Layout.followAliases outline limit type = last := by
  induction leads generalizing limit with
  | @here type =>
    obtain ⟨passed, reached, -⟩ := outline.behind_followAliases limit type
    generalize Layout.followAliases outline limit type = found at reached
    cases reached with
    | here => rfl
    | past isAlias => exact absurd isAlias (ends _)
  | past isAlias _ ih =>
    obtain ⟨limit, rfl⟩ := Nat.exists_eq_add_one_of_ne_zero (Nat.ne_zero_of_lt enough)
    rw [Layout.followAliases, isAlias.2]
    dsimp only
    rw [if_pos isAlias.1]
    exact ih ends (Nat.le_of_succ_le_succ enough)

/-- Without an end, the chain has got into a circle when the limit is used up. -/
theorem transGen_followAliases
    (endless : ∀ passed last, outline.Behind type passed last → ¬ outline.EndsAliases last) :
    Relation.TransGen outline.AliasOf (Layout.followAliases outline outline.size type)
      (Layout.followAliases outline outline.size type) := by
  obtain ⟨passed, leads, ends | long⟩ := outline.behind_followAliases outline.size type
  · exact absurd ends (endless _ _ leads)
  · obtain ⟨next, isAlias⟩ := not_forall_not.mp (endless _ _ leads)
    refine leads.transGen_of_not_nodup fun distinct => ?_
    have few := (leads.snoc isAlias).length_le_size distinct
    rw [List.length_append, List.length_singleton] at few
    omega

/-- What is behind the aliases from a type on: a type that the chain of aliases gets to, which is
the end of the chain if that has one, and else an alias of the circle that it ends in. -/
structure Underlies (outline : Outline) (type found : NodeId) : Prop where
  reached : ∃ passed, outline.Behind type passed found
  ends : ∀ passed last, outline.Behind type passed last → outline.EndsAliases last → found = last
  around : (∀ passed last, outline.Behind type passed last → ¬ outline.EndsAliases last) →
    Relation.TransGen outline.AliasOf found found

theorem underlies_followAliases (outline : Outline) (type : NodeId) :
    outline.Underlies type (Layout.followAliases outline outline.size type) where
  reached := by
    obtain ⟨passed, leads, -⟩ := outline.behind_followAliases outline.size type
    exact ⟨passed, leads⟩
  ends _ _ leads ends := followAliases_eq leads ends (leads.length_le_size (leads.nodup ends))
  around := transGen_followAliases

/-- If that is asked for, the type of an object is what is behind the aliases from its own type on,
and none if it has none; and else its own type. -/
theorem resolvedType_underlies (layout : Layout) (id : NodeId) :
    if layout.shows .underlying then
      Option.Rel layout.outline.Underlies (layout.outline.node id).typeId (layout.resolvedType id)
    else layout.resolvedType id = (layout.outline.node id).typeId := by
  unfold Layout.resolvedType
  split
  · cases (layout.outline.node id).typeId with
    | none => exact .none
    | some type => exact .some (underlies_followAliases layout.outline type)
  · rfl

/-- A variable behind two aliases, and one behind an alias that leads into a circle. -/
private def renamed : Outline where
  nodes := #[
    { kind := .inputFile, offset := 0, name := "a.o" },
    { kind := .variable, offset := 20, typeId := some 3 },
    { kind := .variable, offset := 24, typeId := some 6 },
    { kind := .alias, offset := 28, typeId := some 5 },
    { kind := .primitiveType, offset := 32, name := "int" },
    { kind := .alias, offset := 36, typeId := some 4 },
    { kind := .alias, offset := 40, typeId := some 7 },
    { kind := .alias, offset := 44, typeId := some 8 },
    { kind := .alias, offset := 48, typeId := some 7 }]
  index := ∅

private def behindAliases : Options where
  flags := ShowFlags.initial.set .underlying true

/-- The end of one chain is found; the other goes round for ever, and an alias of its circle is
found. -/
theorem resolvedType_renamed :
    let layout := Layout.of renamed behindAliases
    layout.shows .underlying = true ∧ layout.resolvedType 1 = some 4 ∧
      ∃ found, layout.resolvedType 2 = some found ∧
        Relation.TransGen renamed.AliasOf found found := by
  intro layout
  have shown : layout.shows .underlying = true := by decide
  have chain : renamed.Behind 3 [3, 5] 4 :=
    .past ⟨by decide, by decide⟩ (.past ⟨by decide, by decide⟩ .here)
  have ends : renamed.EndsAliases 4 := fun next isAlias => absurd isAlias.1 (by decide)
  have circle : ∀ id ∈ [6, 7, 8], ∃ next ∈ [6, 7, 8], renamed.AliasOf id next := by
    simp only [AliasOf]
    decide
  have endless {type last : Nat} {passed : List Nat} (leads : renamed.Behind type passed last)
      (member : type ∈ [6, 7, 8]) : ¬ renamed.EndsAliases last := by
    induction leads with
    | here =>
      obtain ⟨next, -, isAlias⟩ := circle _ member
      exact fun ends => ends next isAlias
    | past isAlias _ ih =>
      obtain ⟨next, listed, same⟩ := circle _ member
      exact ih (isAlias.unique same ▸ listed)
  have rule (id : NodeId) := resolvedType_underlies layout id
  simp only [shown, if_true] at rule
  refine ⟨shown, ?_, ?_⟩
  · have first : Option.Rel renamed.Underlies (some 3) (layout.resolvedType 1) := rule 1
    generalize layout.resolvedType 1 = found at first
    cases first with
    | some underlies => rw [underlies.ends _ _ chain ends]
  · have second : Option.Rel renamed.Underlies (some 6) (layout.resolvedType 2) := rule 2
    generalize layout.resolvedType 2 = found at second
    cases second with
    | some underlies =>
      exact ⟨_, rfl, underlies.around fun _ _ leads => endless leads (by decide)⟩

end Outline

end DebugOutline
