import DebugOutline.Proofs.Searching
import DebugOutline.Proofs.Selected

/-! Definitions next to their declarations. Siblings are put down one after the other, each followed
by the definitions that it holds the declarations of. No bound on the nesting is ever met, siblings
with the same declaring sibling stay in their order, and where the declaring siblings of a
definition come to an end, nothing but such definitions stands between it and its declaration. -/
namespace DebugOutline

namespace Outline

open Relation (ReflTransGen TransGen)

variable {outline : Outline} {options : Options} {declared : Nat → List Nat}
  {declaring : Nat → Option Nat} {siblings placed pending middle after added more : List Nat}
  {id sibling owner depth : Nat}

/-! ### The run as a relation -/

/-- Objects are put down one after the other, each followed by what it declares, unless they are
there already. The nesting goes as deep as it has to. -/
inductive PutsDown (declared : NodeId → List NodeId) :
    List NodeId → List NodeId → List NodeId → Prop
  | done {placed : List NodeId} : PutsDown declared placed [] placed
  | again {placed rest after : List NodeId} {id : NodeId} (present : id ∈ placed)
      (later : PutsDown declared placed rest after) : PutsDown declared placed (id :: rest) after
  | fresh {placed middle rest after : List NodeId} {id : NodeId} (absent : id ∉ placed)
      (inner : PutsDown declared (placed ++ [id]) (declared id) middle)
      (later : PutsDown declared middle rest after) : PutsDown declared placed (id :: rest) after

namespace PutsDown

theorem isPrefix (puts : PutsDown declared placed pending after) : placed <+: after := by
  induction puts with
  | done => exact List.prefix_refl _
  | again _ _ ih => exact ih
  | fresh _ _ _ inner later => exact (List.prefix_append _ _).trans (inner.trans later)

theorem subset (puts : PutsDown declared placed pending after) : pending ⊆ after := by
  induction puts with
  | done => exact List.nil_subset _
  | again present later ih => exact List.cons_subset.mpr ⟨later.isPrefix.subset present, ih⟩
  | fresh _ inner later _ ih =>
    refine List.cons_subset.mpr ⟨later.isPrefix.subset (inner.isPrefix.subset ?_), ih⟩
    exact List.mem_append_right _ (List.mem_singleton_self _)

theorem unique (puts : PutsDown declared placed pending after)
    (again : PutsDown declared placed pending more) : after = more := by
  induction puts generalizing more with
  | done =>
    cases again
    rfl
  | again present _ ih =>
    cases again with
    | again _ later => exact ih later
    | fresh absent => exact absurd present absent
  | fresh absent _ _ inner later =>
    cases again with
    | again present => exact absurd present absent
    | fresh _ first rest =>
      obtain rfl := inner first
      exact later rest

/-- What is there already is passed over. -/
theorem skip (present : pending ⊆ placed) : PutsDown declared placed pending placed := by
  induction pending with
  | nil => exact .done
  | cons id rest ih =>
    obtain ⟨here, later⟩ := List.cons_subset.mp present
    exact .again here (ih later)

theorem append (first : PutsDown declared placed pending middle)
    (second : PutsDown declared middle more after) :
    PutsDown declared placed (pending ++ more) after := by
  induction first with
  | done => exact second
  | again present _ ih => exact .again present (ih second)
  | fresh absent inner _ _ ih => exact .fresh absent inner (ih second)

theorem split (puts : PutsDown declared placed (pending ++ more) after) :
    ∃ middle, PutsDown declared placed pending middle ∧ PutsDown declared middle more after := by
  induction pending generalizing placed with
  | nil => exact ⟨placed, .done, puts⟩
  | cons id rest ih =>
    cases puts with
    | again present later =>
      obtain ⟨middle, first, second⟩ := ih later
      exact ⟨middle, .again present first, second⟩
    | fresh absent inner later =>
      obtain ⟨middle, first, second⟩ := ih later
      exact ⟨middle, .fresh absent inner first, second⟩

/-- Putting down what a run added, in the order in which it stands, adds the same. -/
theorem replay (puts : PutsDown declared placed pending after) (same : after = placed ++ added) :
    PutsDown declared placed added after := by
  induction puts generalizing added with
  | done =>
    obtain rfl := List.append_right_eq_self.mp same.symm
    exact .done
  | again _ _ ih => exact ih same
  | @fresh placed middle rest after id absent inner later _ ih =>
    obtain ⟨nested, rfl⟩ := inner.isPrefix
    obtain ⟨others, rfl⟩ := later.isPrefix
    have order : added = id :: (nested ++ others) := by simpa using same.symm
    subst order
    exact .fresh absent inner ((skip (List.subset_append_right _ _)).append (ih rfl))

/-- Without anything declared, what is not there yet is put down as it is. -/
theorem of_alone (alone : ∀ id, declared id = []) (distinct : (placed ++ pending).Nodup) :
    PutsDown declared placed pending (placed ++ pending) := by
  induction pending generalizing placed with
  | nil => simpa using .done
  | cons id rest ih =>
    rw [List.append_cons] at distinct ⊢
    have absent : id ∉ placed := fun present =>
      List.disjoint_of_nodup_append (List.Nodup.of_append_left distinct) present
        (List.mem_singleton_self id)
    refine .fresh absent ?_ (ih distinct)
    rw [alone]
    exact .done

end PutsDown

/-- With as many levels as siblings are left, no nesting is cut off. -/
theorem putsDown_foldl_place (closed : ∀ id, declared id ⊆ siblings) (distinct : placed.Nodup)
    (inside : placed ⊆ siblings) (enough : siblings.length ≤ placed.length + depth)
    (order : pending ⊆ siblings) :
    PutsDown declared placed pending (pending.foldl (place declared depth) placed) := by
  induction depth generalizing placed pending with
  | zero =>
    have all := (distinct.subperm inside).perm_of_length_le enough
    have still (ids : List Nat) : ids.foldl (place declared 0) placed = placed := by
      induction ids with
      | nil => rfl
      | cons _ _ ih => exact ih
    rw [still]
    exact .skip fun id member => all.mem_iff.mpr (order member)
  | succ depth ih =>
    induction pending generalizing placed with
    | nil => exact .done
    | cons id rest rest_ih =>
      obtain ⟨member, later⟩ := List.cons_subset.mp order
      rw [List.foldl_cons, place]
      split
      · rename_i present
        exact .again (List.contains_iff_mem.mp present) (rest_ih distinct inside enough later)
      · rename_i missing
        have absent : id ∉ placed := fun present => missing (List.contains_iff_mem.mpr present)
        have further : (placed ++ [id]).Nodup :=
          distinct.append (List.nodup_singleton id) (by simpa using absent)
        have within : placed ++ [id] ⊆ siblings :=
          List.append_subset.mpr ⟨inside, by simpa using member⟩
        have inner := ih further within (by simp; omega) (closed id)
        have extended := foldl_place_extends closed depth _ (closed id) (placed ++ [id])
        have longer := inner.isPrefix.length_le
        rw [List.length_append, List.length_singleton] at longer
        exact .fresh absent inner (rest_ih (extended.nodup further) (extended.inside within)
          (by omega) later)

/-! ### The order among those with the same declaring sibling -/

/-- The siblings whose declaring sibling is `sibling`, or that have none. -/
def group (declaring : NodeId → Option NodeId) (siblings : List NodeId) (sibling : Option NodeId) :
    List NodeId :=
  siblings.filter fun id => declaring id == sibling

theorem mem_group {sibling : Option Nat} :
    id ∈ group declaring siblings sibling ↔ id ∈ siblings ∧ declaring id = sibling := by
  simp [group]

theorem group_append (declaring : Nat → Option Nat) (first second : List Nat)
    (sibling : Option Nat) : group declaring (first ++ second) sibling =
      group declaring first sibling ++ group declaring second sibling :=
  List.filter_append ..

/-- Each group has been put down in its order as far as it has been put down. -/
def Orderly (declaring : NodeId → Option NodeId) (siblings placed : List NodeId) : Prop :=
  ∀ sibling, group declaring placed sibling <+: group declaring siblings sibling

/-- Whatever comes before a pending object in its group has been put down or is to be put down
before it. -/
def Due (declaring : NodeId → Option NodeId) (siblings placed pending : List NodeId) : Prop :=
  ∀ front id back, pending = front ++ id :: back → ∃ earlier later,
    group declaring siblings (declaring id) = earlier ++ id :: later ∧ earlier ⊆ placed ++ front

theorem due_group (placed : List Nat) (sibling : Option Nat) :
    Due declaring siblings placed (group declaring siblings sibling) := by
  intro front id back split
  have member : id ∈ group declaring siblings sibling := by simp [split]
  obtain rfl := (mem_group.mp member).2
  exact ⟨front, back, split, List.subset_append_right _ _⟩

theorem due_siblings (placed : List Nat) : Due declaring siblings placed siblings := by
  rintro front id back rfl
  refine ⟨group declaring front (declaring id), group declaring back (declaring id), ?_, ?_⟩
  · simp [group]
  · exact List.Subset.trans (List.filter_subset_self _) (List.subset_append_right _ _)

theorem Due.later (due : Due declaring siblings placed (id :: pending)) (present : id ∈ middle)
    (keeps : placed ⊆ middle) : Due declaring siblings middle pending := by
  intro front other back split
  obtain ⟨earlier, later, same, before⟩ := due (id :: front) other back (by rw [split]; rfl)
  refine ⟨earlier, later, same, fun early member => ?_⟩
  rcases List.mem_append.mp (before member) with old | new
  · exact List.mem_append_left _ (keeps old)
  · rcases List.mem_cons.mp new with rfl | new
    · exact List.mem_append_left _ present
    · exact List.mem_append_right _ new

/-- What of a group stands before an object that is not there yet is what has been put down of the
group, once all of it has. -/
theorem Orderly.group_eq (distinct : siblings.Nodup) (orderly : Orderly declaring siblings placed)
    (absent : id ∉ placed) {earlier later : List Nat}
    (same : group declaring siblings (declaring id) = earlier ++ id :: later)
    (before : earlier ⊆ placed) : group declaring placed (declaring id) = earlier := by
  have stood := orderly (declaring id)
  rw [same] at stood
  have sorted : (earlier ++ id :: later).Nodup := same ▸ distinct.filter _
  have behind : earlier ⊆ group declaring placed (declaring id) := by
    intro early member
    refine mem_group.mpr ⟨before member, ?_⟩
    exact (mem_group.mp (same ▸ List.mem_append_left _ member)).2
  rcases List.prefix_or_prefix_of_prefix stood (List.prefix_append earlier _) with less | more
  · refine less.eq_of_length (le_antisymm less.length_le ?_)
    exact (sorted.of_append_left.subperm behind).length_le
  · obtain ⟨rest, longer⟩ := more
    cases rest with
    | nil => rw [← longer, List.append_nil]
    | cons next rest =>
      rw [← longer, List.prefix_append_right_inj] at stood
      obtain ⟨rfl, -⟩ := List.cons_prefix_cons.mp stood
      have member : next ∈ group declaring placed (declaring next) := by simp [← longer]
      exact absurd (mem_group.mp member).1 absent

/-- An object that is due goes behind those of its group that were put down. -/
theorem Orderly.snoc (distinct : siblings.Nodup) (orderly : Orderly declaring siblings placed)
    (due : Due declaring siblings placed (id :: pending)) (absent : id ∉ placed) :
    Orderly declaring siblings (placed ++ [id]) := by
  intro sibling
  rw [group_append]
  by_cases own : declaring id = sibling
  · subst own
    obtain ⟨earlier, later, same, before⟩ := due [] id pending rfl
    rw [List.append_nil] at before
    rw [orderly.group_eq distinct absent same before, same]
    exact ⟨later, by simp [group]⟩
  · have other : group declaring [id] sibling = [] := by simp [group, own]
    rw [other, List.append_nil]
    exact orderly sibling

theorem PutsDown.orderly (distinct : siblings.Nodup)
    (puts : PutsDown (fun id => group declaring siblings (some id)) placed pending after)
    (orderly : Orderly declaring siblings placed) (due : Due declaring siblings placed pending) :
    Orderly declaring siblings after := by
  induction puts with
  | done => exact orderly
  | again present _ ih => exact ih orderly (due.later present (List.Subset.refl _))
  | fresh absent inner _ inner_ih later_ih =>
    refine later_ih (inner_ih (orderly.snoc distinct due absent) (due_group _ _)) ?_
    exact due.later (inner.isPrefix.subset (by simp))
      fun _ member => inner.isPrefix.subset (List.mem_append_left _ member)

/-- A whole run keeps every group in its order. -/
theorem PutsDown.group_eq (distinct : siblings.Nodup)
    (puts : PutsDown (fun id => group declaring siblings (some id)) []
      (group declaring siblings none ++ siblings) after) (same : after.Perm siblings)
    (sibling : Option Nat) : group declaring after sibling = group declaring siblings sibling := by
  obtain ⟨middle, first, second⟩ := puts.split
  have start : Orderly declaring siblings [] := fun _ => List.nil_prefix
  have orderly := second.orderly distinct (first.orderly distinct start (due_group _ _))
    (due_siblings _)
  exact (orderly sibling).eq_of_length (same.filter _).length_eq

/-! ### What stands between a definition and its declaration -/

/-- One object is the declaring sibling of another. -/
def DeclaredBy (declaring : NodeId → Option NodeId) (id sibling : NodeId) : Prop :=
  declaring id = some sibling

/-- The declaring siblings of an object, one after the other, come to one that has none. -/
def Settles (declaring : NodeId → Option NodeId) (id : NodeId) : Prop :=
  ∃ last, ReflTransGen (DeclaredBy declaring) id last ∧ declaring last = none

/-- A definition stands behind its declaring sibling, and whatever stands between the two comes
after that sibling along its own declaring siblings. -/
def Trails (declaring : NodeId → Option NodeId) (order : List NodeId) (id : NodeId) : Prop :=
  ∀ sibling, declaring id = some sibling → ∃ front between back,
    order = front ++ sibling :: (between ++ id :: back) ∧
      ∀ other ∈ between, TransGen (DeclaredBy declaring) other sibling

theorem Trails.append (trails : Trails declaring placed id) (more : List Nat) :
    Trails declaring (placed ++ more) id := by
  intro sibling declares
  obtain ⟨front, between, back, rfl, under⟩ := trails sibling declares
  exact ⟨front, between, back ++ more, by simp, under⟩

namespace PutsDown

/-- Whatever is put down comes after something pending along its declaring siblings. -/
theorem under (puts : PutsDown (fun id => group declaring siblings (some id)) placed pending after)
    (same : after = placed ++ added) (member : id ∈ added) :
    ∃ top ∈ pending, ReflTransGen (DeclaredBy declaring) id top := by
  induction puts generalizing id added with
  | done =>
    obtain rfl := List.append_right_eq_self.mp same.symm
    cases member
  | again _ _ ih =>
    obtain ⟨top, listed, path⟩ := ih same member
    exact ⟨top, List.mem_cons_of_mem _ listed, path⟩
  | @fresh placed middle rest after first absent inner later inner_ih later_ih =>
    obtain ⟨nested, rfl⟩ := inner.isPrefix
    obtain ⟨others, rfl⟩ := later.isPrefix
    have order : added = first :: (nested ++ others) := by simpa using same.symm
    subst order
    rcases List.mem_cons.mp member with rfl | member
    · exact ⟨id, List.mem_cons_self, .refl⟩
    rcases List.mem_append.mp member with member | member
    · obtain ⟨top, listed, path⟩ := inner_ih rfl member
      exact ⟨first, List.mem_cons_self, path.tail (mem_group.mp listed).2⟩
    · obtain ⟨top, listed, path⟩ := later_ih rfl member
      exact ⟨top, List.mem_cons_of_mem _ listed, path⟩

/-- Objects of one group that are put down behind their declaring sibling, with nothing between but
what comes after it, leave everything so. -/
theorem trails {sibling : Option Nat}
    (puts : PutsDown (fun id => group declaring siblings (some id)) placed pending after)
    (same : ∀ id ∈ pending, declaring id = sibling)
    (behind : ∀ declarer, sibling = some declarer → ∃ front between,
      placed = front ++ declarer :: between ∧ ∀ other ∈ between,
        TransGen (DeclaredBy declaring) other declarer)
    (before : ∀ id ∈ placed, Trails declaring placed id) :
    ∀ id ∈ after, Trails declaring after id := by
  induction puts generalizing sibling with
  | done => exact before
  | again _ _ ih =>
    exact ih (fun id member => same id (List.mem_cons_of_mem _ member)) behind before
  | @fresh placed middle rest after first absent inner later inner_ih later_ih =>
    have own := same first List.mem_cons_self
    have here : ∀ id ∈ placed ++ [first], Trails declaring (placed ++ [first]) id := by
      intro id member
      rcases List.mem_append.mp member with old | new
      · exact (before id old).append _
      · obtain rfl := List.mem_singleton.mp new
        intro declarer declares
        obtain ⟨front, between, rfl, under⟩ := behind declarer (own.symm.trans declares)
        exact ⟨front, between, [], by simp, under⟩
    have last (declarer : Nat) (same : some first = some declarer) :
        ∃ front between, placed ++ [first] = front ++ declarer :: between ∧
          ∀ other ∈ between, TransGen (DeclaredBy declaring) other declarer :=
      ⟨placed, [], by rw [Option.some.inj same], by simp⟩
    have nested := inner_ih (fun id member => (mem_group.mp member).2) last here
    refine later_ih (fun id member => same id (List.mem_cons_of_mem _ member)) ?_ nested
    intro declarer is
    obtain ⟨front, between, rfl, under⟩ := behind declarer is
    have declares : declaring first = some declarer := own.trans is
    obtain ⟨added, rfl⟩ := inner.isPrefix
    refine ⟨front, between ++ first :: added, by simp, fun other member => ?_⟩
    rcases List.mem_append.mp member with older | newer
    · exact under other older
    rcases List.mem_cons.mp newer with rfl | nested
    · exact .single declares
    · obtain ⟨top, listed, path⟩ := inner.under rfl nested
      exact (TransGen.tail' path (mem_group.mp listed).2).tail declares

/-- Everything declared by what was put down has been put down too. -/
theorem closed (puts : PutsDown declared placed pending after) (member : id ∈ after)
    (new : id ∉ placed) : declared id ⊆ after := by
  induction puts generalizing id with
  | done => exact absurd member new
  | again _ _ ih => exact ih member new
  | @fresh placed middle rest after first absent inner later inner_ih later_ih =>
    by_cases nested : id ∈ middle
    · refine List.Subset.trans ?_ later.isPrefix.subset
      by_cases same : id = first
      · exact same ▸ inner.subset
      · exact inner_ih nested (by simp [new, same])
    · exact later_ih member nested

/-- An object whose declaring siblings come to an end is put down behind one that has none. -/
theorem mem_of_settles
    (puts : PutsDown (fun id => group declaring siblings (some id)) []
      (group declaring siblings none) after)
    (inside : ∀ id sibling, declaring id = some sibling → sibling ∈ siblings)
    (member : id ∈ siblings) (settles : Settles declaring id) : id ∈ after := by
  obtain ⟨last, path, alone⟩ := settles
  revert member
  induction path using ReflTransGen.head_induction_on with
  | refl => exact fun member => puts.subset (mem_group.mpr ⟨member, alone⟩)
  | @head id sibling declares _ ih =>
    intro member
    have placed := ih (inside id sibling declares)
    exact puts.closed placed List.not_mem_nil (mem_group.mpr ⟨member, declares⟩)

end PutsDown

/-! ### The siblings of an outline -/

private theorem find?_perm {choose : Nat → Bool} (same : more.Perm siblings)
    (unique : ∀ a ∈ siblings, ∀ b ∈ siblings, choose a = true → choose b = true → a = b) :
    more.find? choose = siblings.find? choose := by
  cases found : siblings.find? choose with
  | none =>
    rw [List.find?_eq_none] at found ⊢
    exact fun id member => found id (same.mem_iff.mp member)
  | some id =>
    have member := List.mem_of_find?_eq_some found
    have chosen := List.find?_some found
    obtain ⟨other, also⟩ := Option.isSome_iff_exists.mp
      (List.find?_isSome.mpr ⟨id, same.mem_iff.mpr member, chosen⟩)
    rw [also, unique other (same.mem_iff.mp (List.mem_of_find?_eq_some also)) id member
      (List.find?_some also) chosen]

/-- Which sibling declares another does not depend on their order, since no declaration is nested in
two of them. -/
theorem declaringSibling?_perm (valid : outline.WellFormed)
    (family : ∀ id ∈ siblings, (outline.node id).parent = some owner) (same : more.Perm siblings) :
    outline.declaringSibling? more = outline.declaringSibling? siblings := by
  funext id
  unfold declaringSibling?
  dsimp only
  split
  · rfl
  refine Option.bind_congr fun declaration _ => ?_
  split
  · rfl
  refine find?_perm same fun first member second also within too => ?_
  simp only [isWithin, Bool.and_eq_true, List.contains_iff_mem] at within too
  exact valid.sibling_unique (family first member) (family second also) within.2 too.2

theorem mem_of_declaringSibling? (declares : outline.declaringSibling? siblings id = some sibling) :
    sibling ∈ siblings := by
  unfold declaringSibling? at declares
  dsimp only at declares
  split at declares
  · cases declares
  obtain ⟨declaration, -, found⟩ := Option.bind_eq_some_iff.mp declares
  split at found
  · cases found
  · exact List.mem_of_find?_eq_some found

/-- Moving definitions is a run over the siblings that have no declaring sibling, and then over all
others. -/
theorem putsDown_combine (outline : Outline) (distinct : siblings.Nodup) :
    let declaring := outline.declaringSibling? siblings
    PutsDown (fun id => group declaring siblings (some id)) []
      (group declaring siblings none ++ siblings) (outline.combine siblings) := by
  intro declaring
  unfold combine
  dsimp only
  split
  · rename_i alone
    have undeclared (id : Nat) (member : id ∈ siblings) : declaring id = none := by
      simpa [declaring] using List.all_eq_true.mp alone (id, declaring id)
        (List.mem_map.mpr ⟨id, member, rfl⟩)
    have all : group declaring siblings none = siblings := by
      refine List.filter_eq_self.mpr fun id member => ?_
      rw [undeclared id member, beq_self_eq_true]
    have empty (sibling : Nat) : group declaring siblings (some sibling) = [] := by
      refine List.filter_eq_nil_iff.mpr fun id member => ?_
      simp [undeclared id member]
    rw [all]
    exact (PutsDown.of_alone empty (by simpa using distinct)).append
      (.skip (List.Subset.refl _))
  · have groups (choose : Option Nat → Bool) (sibling : Option Nat)
        (chosen : ∀ other, choose other = (other == sibling)) :
        ((siblings.map fun id => (id, declaring id)).filter fun pair => choose pair.2).map (·.1) =
          group declaring siblings sibling := by
      simp [group, List.filter_map, Function.comp_def, chosen]
    rw [groups Option.isNone none (fun other => by cases other <;> rfl)]
    have declared : (fun sibling => ((siblings.map fun id => (id, declaring id)).filter
        fun pair => pair.2 == some sibling).map (·.1)) =
          fun sibling => group declaring siblings (some sibling) :=
      funext fun sibling => groups (· == some sibling) (some sibling) fun _ => rfl
    rw [declared]
    refine putsDown_foldl_place (fun _ => List.filter_subset_self _) List.nodup_nil
      (List.nil_subset _) (by simp) ?_
    exact List.append_subset.mpr ⟨List.filter_subset_self _, List.Subset.refl _⟩

/-- What moving definitions makes of siblings. None is lost or doubled. Those with the same
declaring sibling stay in their order, and so do those without one. A definition whose declaring
siblings come to an end trails the first of them. Nothing is left to be moved, and all this is
reached without a bound on the nesting. -/
structure Regrouped (outline : Outline) (siblings combined : List NodeId) : Prop where
  perm : combined.Perm siblings
  order : ∀ sibling, group (outline.declaringSibling? siblings) combined sibling =
    group (outline.declaringSibling? siblings) siblings sibling
  trails : ∀ id ∈ siblings, Settles (outline.declaringSibling? siblings) id →
    Trails (outline.declaringSibling? siblings) combined id
  fixed : outline.combine combined = combined
  ends : PutsDown (fun id => group (outline.declaringSibling? siblings) siblings (some id)) []
    (group (outline.declaringSibling? siblings) siblings none ++ siblings) combined

theorem WellFormed.regrouped (valid : outline.WellFormed) (distinct : siblings.Nodup)
    (family : ∀ id ∈ siblings, (outline.node id).parent = some owner) :
    outline.Regrouped siblings (outline.combine siblings) := by
  have perm := combine_perm outline distinct
  have puts := putsDown_combine outline distinct
  have order := puts.group_eq distinct perm
  obtain ⟨middle, first, second⟩ := puts.split
  obtain ⟨added, grown⟩ := second.isPrefix
  constructor
  case perm => exact perm
  case order => exact order
  case trails =>
    intro id member settles
    have placed := first.mem_of_settles (fun _ _ => mem_of_declaringSibling?) member settles
    have trails := first.trails (fun _ member => (mem_group.mp member).2) (by simp) (by simp)
    exact grown ▸ (trails id placed).append added
  case fixed =>
    have again := putsDown_combine outline (perm.nodup_iff.mpr distinct)
    rw [declaringSibling?_perm valid family perm] at again
    simp only [order] at again
    have replayed := (PutsDown.skip (List.Subset.refl middle)).append (second.replay grown.symm)
    rw [grown] at replayed
    exact again.unique (first.append replayed)
  case ends => exact puts

/-! ### The selection -/

theorem shows_apply_combined (options : Options) (value : Bool) {option : ShowOption}
    (apart : option ≠ .combined) :
    (options.apply (.set .combined value)).shows option = options.shows option :=
  if_neg apart

theorem isChosen_apply_combined (node : Node) (options : Options) (value : Bool) :
    node.isChosen (options.apply (.set .combined value)) = node.isChosen options := by
  have kinds : node.showOption?.any (options.apply (.set .combined value)).shows =
      node.showOption?.any options.shows := by
    unfold Node.showOption?
    cases node.kind <;> simp [shows_apply_combined]
  simp [Node.isChosen, kinds, shows_apply_combined]

/-- Whether an object is shown has nothing to do with where definitions are shown. -/
theorem isShown_apply_combined (outline : Outline) (options : Options) (value forced : Bool)
    (id : Nat) : outline.isShown (options.apply (.set .combined value)) forced id =
      outline.isShown options forced id := by
  have row : outline.isForced (options.apply (.set .combined value)) id =
      outline.isForced options id := by
    simp [isForced, shows_apply_combined]
  unfold isShown
  rw [row, isChosen_apply_combined]
  rfl

/-- The same objects are selected at the same depths, whether or not definitions are moved. -/
theorem select_apply_combined_perm (valid : outline.WellFormed) (options : Options)
    (value other : Bool) : (outline.select (options.apply (.set .combined value))).Perm
      (outline.select (options.apply (.set .combined other))) := by
  refine (List.perm_ext_iff_of_nodup (select_nodup valid _).of_map
    (select_nodup valid _).of_map).mpr fun shown => ?_
  rw [mem_select valid, mem_select valid, isShown_apply_combined, isShown_apply_combined]
  rfl

/-- Moving definitions behind their declarations loses no sibling, keeps the order of those that
stay, puts every definition behind the sibling that declares it with nothing between but what that
sibling declares, leaves nothing to be moved, and comes to an end whatever declares what. So it
only reorders what is selected. -/
theorem combine_regrouped (valid : outline.WellFormed) (distinct : siblings.Nodup)
    (family : ∀ id ∈ siblings, (outline.node id).parent = some owner) :
    outline.Regrouped siblings (outline.combine siblings) ∧
      ∀ options : Options, (outline.select (options.apply (.set .combined true))).Perm
        (outline.select (options.apply (.set .combined false))) :=
  ⟨valid.regrouped distinct family,
    fun options => select_apply_combined_perm valid options true false⟩

/-- A structure that declares a function, whose definition declares another one; and two functions
that declare each other. -/
private def declaringUnit : Dwarf.UnitRecord where
  entries := #[
    { offset := 11, tag := .compileUnit },
    { offset := 20, tag := .structureType, parent := some 11 },
    { offset := 24, tag := .subprogram, parent := some 20 },
    { offset := 30, tag := .variableEntry, parent := some 11 },
    { offset := 40, tag := .subprogram, parent := some 11,
      attributes := [⟨.specification, .ref4, .reference 24⟩] },
    { offset := 44, tag := .subprogram, parent := some 40 },
    { offset := 50, tag := .subprogram, parent := some 11,
      attributes := [⟨.specification, .ref4, .reference 44⟩] },
    { offset := 60, tag := .subprogram, parent := some 11,
      attributes := [⟨.specification, .ref4, .reference 74⟩] },
    { offset := 64, tag := .subprogram, parent := some 60 },
    { offset := 70, tag := .subprogram, parent := some 11,
      attributes := [⟨.specification, .ref4, .reference 64⟩] },
    { offset := 74, tag := .subprogram, parent := some 70 }]

/-- Both definitions go behind the structure; the two functions that declare each other stay. -/
theorem combine_regrouped_cycle :
    let outline := (Outline.build "a.o" [declaringUnit] "void").1
    outline.WellFormed ∧ (outline.node 1).children.toList = [2, 4, 5, 7, 8, 10] ∧
      outline.combine [2, 4, 5, 7, 8, 10] = [2, 5, 7, 4, 8, 10] ∧
      outline.Regrouped [2, 4, 5, 7, 8, 10] [2, 5, 7, 4, 8, 10] := by
  intro outline
  have valid : outline.WellFormed := .build "a.o" [declaringUnit] "void"
  have known : outline = Outline.buildBySearch "a.o" [declaringUnit] "void" :=
    build_eq_buildBySearch "a.o" [declaringUnit] "void"
  have children : (outline.node 1).children.toList = [2, 4, 5, 7, 8, 10] := by
    rw [known]
    decide +kernel
  have moved : outline.combine [2, 4, 5, 7, 8, 10] = [2, 5, 7, 4, 8, 10] := by
    rw [known]
    decide +kernel
  have family : ∀ id ∈ [2, 4, 5, 7, 8, 10], (outline.node id).parent = some 1 := by
    intro id member
    exact (valid.mem_children.mp (children ▸ member)).1
  have regrouped := (combine_regrouped valid (by decide) family).1
  exact ⟨valid, children, moved, moved ▸ regrouped⟩

end Outline

end DebugOutline
