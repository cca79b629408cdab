import DebugOutline.Proofs.MovedOutline
import DebugOutline.Proofs.Resolution

/-! The passes over two outlines with the same objects, where the offsets of entries in one of them
were moved. Linking finds the same objects, and no other pass looks at offsets at all. -/
namespace DebugOutline

open Dwarf (Entry UnitRecord)

theorem Node.complete_move (f : UInt64 → UInt64) (node declaration : Node) :
    (node.move f).complete (declaration.move f) = (node.complete declaration).move f := by
  have function : (declaration.move f).function? = declaration.function? := rfl
  rw [complete_eq, complete_eq, function]
  simp only [move, apply_ite (Option.map f)]
  rfl

namespace Outline

variable {f : UInt64 → UInt64} {named : List UInt64} {outline moved : Outline}

/-! ### Linking -/

/-- Two outlines whose objects are linked alike. -/
structure Resolves (f : UInt64 → UInt64) (outline moved : Outline) : Prop where
  objects : Moved f outline moved
  type : ∀ id, (moved.node id).typeOffset.bind moved.find? =
    (outline.node id).typeOffset.bind outline.find?
  declaration : ∀ id, (moved.node id).referenceOffset.bind moved.find? =
    (outline.node id).referenceOffset.bind outline.find?

theorem Moved.markForeign (same : Moved f outline moved) (target unit : Nat) :
    Moved f (outline.markForeign target unit) (moved.markForeign target unit) := by
  unfold Outline.markForeign
  rw [same.node, Node.unit_move]
  split
  · exact same
  · exact same.modify target fun _ => rfl

namespace Resolves

variable (same : Resolves f outline moved)
include same

/-- Changes that leave the offsets leave what they lead to. -/
theorem of_keeps {after movedAfter : Outline} (objects : Moved f after movedAfter)
    (kept : Keeps linkView outline after) (movedKept : Keeps linkView moved movedAfter) :
    Resolves f after movedAfter where
  objects := objects
  type id := by
    rw [funext kept.find, funext movedKept.find,
      kept.read Node.typeOffset (·.1.typeOffset) (fun _ => rfl),
      movedKept.read Node.typeOffset (·.1.typeOffset) (fun _ => rfl)]
    exact same.type id
  declaration id := by
    rw [funext kept.find, funext movedKept.find,
      kept.read Node.referenceOffset (·.1.referenceOffset) (fun _ => rfl),
      movedKept.read Node.referenceOffset (·.1.referenceOffset) (fun _ => rfl)]
    exact same.declaration id

theorem linkType (id : NodeId) : Resolves f (outline.linkType id) (moved.linkType id) := by
  refine same.of_keeps ?_ (keeps_linkType outline id) (keeps_linkType moved id)
  unfold Outline.linkType
  rw [same.type id]
  split
  · exact same.objects
  · rw [same.objects.node, Node.unit_move]
    refine (same.objects.modify id ?_).markForeign _ _
    exact fun _ => rfl

theorem linkDeclaration (id : NodeId) :
    Resolves f (outline.linkDeclaration id) (moved.linkDeclaration id) := by
  refine same.of_keeps ?_ (keeps_linkDeclaration outline id) (keeps_linkDeclaration moved id)
  unfold Outline.linkDeclaration
  rw [same.declaration id]
  split
  · exact same.objects
  · rename_i target _
    have together : (moved.node id).linksTo (moved.node target) =
        (outline.node id).linksTo (outline.node target) := by
      rw [same.objects.node, same.objects.node]
      rfl
    rw [together]
    split
    · rw [same.objects.node, Node.unit_move]
      refine (same.objects.modify id ?_).markForeign _ _
      exact fun _ => rfl
    · exact same.objects

theorem link : Moved f outline.link moved.link := by
  unfold Outline.link
  rw [same.objects.ids]
  refine (List.foldl_rel (r := Resolves f) same ?_).objects
  exact fun id _ _ _ same => (same.linkType id).linkDeclaration id

end Resolves

/-! ### Around and below an object -/

namespace Moved

variable (same : Moved f outline moved)
include same

theorem chain (limit : Nat) (start : Option NodeId) :
    moved.chain limit start = outline.chain limit start := by
  induction limit generalizing start with
  | zero => rfl
  | succ limit ih =>
    cases start with
    | none => rfl
    | some id => rw [Outline.chain, Outline.chain, same.node, Node.parent_move, ih]

theorem ancestry (id : NodeId) : moved.ancestry id = outline.ancestry id := by
  unfold Outline.ancestry
  rw [same.size, same.chain]

theorem scopeNames (id : NodeId) : moved.scopeNames id = outline.scopeNames id := by
  simp only [Outline.scopeNames, same.ancestry, same.node, Node.kind_move, Node.name_move]

theorem scopePath (id : NodeId) : moved.scopePath id = outline.scopePath id := by
  simp only [Outline.scopePath, same.scopeNames]

theorem qualifierUnder (parent : Option NodeId) :
    moved.qualifierUnder parent = outline.qualifierUnder parent := by
  simp only [Outline.qualifierUnder, same.scopeNames, same.node, Node.kind_move]

theorem auxiliaryChildren (id : NodeId) (form : AuxiliaryForm) :
    moved.auxiliaryChildren id form = outline.auxiliaryChildren id form := by
  unfold Outline.auxiliaryChildren
  simp only [same.node]
  rfl

/-! ### Spelling names -/

theorem typePart (id : NodeId) (missing : String) :
    Spelling.typePart moved id missing = Spelling.typePart outline id missing := by
  simp only [Spelling.typePart, same.node, Node.typeId_move]

theorem array (id : NodeId) : Spelling.array moved id = Spelling.array outline id := by
  simp only [Spelling.array, same.auxiliaryChildren, same.typePart, same.node, Node.name_move]

theorem subroutine (id : NodeId) (void : String) :
    Spelling.subroutine moved id void = Spelling.subroutine outline id void := by
  have parameters : Spelling.formalParameters moved id = Spelling.formalParameters outline id := by
    unfold Spelling.formalParameters
    simp only [same.auxiliaryChildren, same.node]
    rfl
  simp only [Spelling.subroutine, same.typePart, parameters]

theorem arguments (id : NodeId) : Spelling.arguments moved id = Spelling.arguments outline id := by
  have argument : Spelling.argument? moved = Spelling.argument? outline := by
    funext parameter
    unfold Spelling.argument?
    simp only [same.node]
    rfl
  unfold Spelling.arguments
  simp only [same.node, argument]
  rfl

theorem spelling (void : String) (id : NodeId) :
    Spelling.of? moved void id = Spelling.of? outline void id := by
  unfold Spelling.of? Spelling.auxiliary? Spelling.template
  simp only [same.node, same.typePart, same.array, same.subroutine, same.arguments]
  rfl

theorem text (piece : NamePart) : piece.text moved = piece.text outline := by
  cases piece <;> simp only [NamePart.text, same.node, same.qualifierUnder, Node.kind_move,
    Node.parent_move, Node.name_move]

/-! ### One object at a time -/

theorem qualify (id : NodeId) : Moved f (outline.qualify id) (moved.qualify id) := by
  unfold Outline.qualify
  dsimp only
  rw [same.node, Node.kind_move, Node.parent_move, same.qualifierUnder]
  split
  · refine same.modify id ?_
    exact fun _ => rfl
  · exact same

theorem inheritGlobal (id : NodeId) :
    Moved f (outline.inheritGlobal id) (moved.inheritGlobal id) := by
  have inherits : ((moved.node id).parent.any fun parent => (moved.node parent).isGlobal) =
      (outline.node id).parent.any fun parent => (outline.node parent).isGlobal := by
    simp only [same.node, Node.parent_move]
    rfl
  unfold Outline.inheritGlobal
  rw [inherits]
  split
  · refine same.modify id ?_
    exact fun _ => rfl
  · exact same

theorem completeFrom (id reference : NodeId) :
    Moved f (outline.completeFrom id reference) (moved.completeFrom id reference) := by
  rw [completeFrom_eq_modify, completeFrom_eq_modify]
  refine same.modify id fun node => ?_
  unfold completed
  dsimp only
  rw [same.node, same.node, Node.kind_move, Node.kind_move, Node.parent_move, same.qualifierUnder,
    Node.complete_move]
  split_ifs <;> rfl

end Moved

end Outline

namespace Naming

variable {f : UInt64 → UInt64} {naming moved : Naming}

/-- The same names spelled so far. -/
structure Moved (f : UInt64 → UInt64) (naming moved : Naming) : Prop where
  objects : Outline.Moved f naming.outline moved.outline
  started : moved.started = naming.started

theorem Moved.gather {visit : Naming → NodeId → Naming}
    (one : ∀ {naming moved : Naming} (id : NodeId), Moved f naming moved →
      Moved f (visit naming id) (visit moved id)) (pieces : List NamePart)
    (same : Moved f naming moved) :
    (gather visit pieces moved).1 = (gather visit pieces naming).1 ∧
      Moved f (gather visit pieces naming).2 (gather visit pieces moved).2 := by
  induction pieces generalizing naming moved with
  | nil => exact ⟨rfl, same⟩
  | cons piece later ih =>
    unfold Naming.gather
    dsimp only
    cases piece.target? with
    | none =>
      obtain ⟨texts, last⟩ := ih same
      exact ⟨by rw [texts, same.objects.text], last⟩
    | some target =>
      have next := one target same
      obtain ⟨texts, last⟩ := ih next
      exact ⟨by rw [texts, next.objects.text], last⟩

theorem Moved.resolve (void : String) (depth : Nat) (id : NodeId) (same : Moved f naming moved) :
    Moved f (resolve void depth naming id) (resolve void depth moved id) := by
  induction depth generalizing naming moved id with
  | zero => exact same
  | succ depth ih =>
    have started : moved.hasStarted id = naming.hasStarted id := by
      rw [hasStarted, same.started]
      rfl
    unfold Naming.resolve
    rw [started]
    split
    · exact same
    · dsimp only
      rw [same.started, same.objects.spelling]
      split
      · exact ⟨same.objects, rfl⟩
      · rename_i spelling _
        have marked : Moved f ⟨naming.outline, naming.started.setIfInBounds id true⟩
            ⟨moved.outline, naming.started.setIfInBounds id true⟩ := ⟨same.objects, rfl⟩
        obtain ⟨texts, gathered⟩ := marked.gather (fun id same => ih id same) spelling.parts
        rw [texts]
        exact ⟨gathered.objects.modify id fun _ => rfl, gathered.started⟩

end Naming

namespace Completion

variable {f : UInt64 → UInt64} {completion moved : Completion}

/-- The same definitions completed so far. -/
structure Moved (f : UInt64 → UInt64) (completion moved : Completion) : Prop where
  objects : Outline.Moved f completion.outline moved.outline
  started : moved.started = completion.started

theorem Moved.complete (depth : Nat) (id : NodeId) (same : Moved f completion moved) :
    Moved f (complete depth completion id) (complete depth moved id) := by
  induction depth generalizing completion moved id with
  | zero => exact same
  | succ depth ih =>
    have started : moved.hasStarted id = completion.hasStarted id := by
      rw [hasStarted, same.started]
      rfl
    unfold Completion.complete
    rw [started]
    split
    · exact same
    · dsimp only
      rw [same.started, same.objects.node, Node.referenceId_move]
      split
      · exact ⟨same.objects, rfl⟩
      · rename_i reference _
        have marked : Moved f
            ⟨completion.outline, completion.started.setIfInBounds id true⟩
            ⟨moved.outline, completion.started.setIfInBounds id true⟩ := ⟨same.objects, rfl⟩
        have inner := ih reference marked
        exact ⟨inner.objects.completeFrom id reference, inner.started⟩

end Completion

namespace Outline

variable {f : UInt64 → UInt64} {outline moved : Outline}

/-! ### All passes -/

namespace Moved

variable (same : Moved f outline moved)
include same

theorem foldl {step : Outline → NodeId → Outline}
    (one : ∀ {outline moved : Outline} (id : NodeId), Moved f outline moved →
      Moved f (step outline id) (step moved id)) (ids : List NodeId) :
    Moved f (ids.foldl step outline) (ids.foldl step moved) :=
  List.foldl_rel (r := Moved f) same fun id _ _ _ same => one id same

theorem spellNames (void : String) : Moved f (outline.spellNames void) (moved.spellNames void) := by
  unfold Outline.spellNames
  rw [same.ids, same.size]
  have start : Naming.Moved f ⟨outline, .replicate outline.size false⟩
      ⟨moved, .replicate outline.size false⟩ := ⟨same, rfl⟩
  refine (List.foldl_rel (r := Naming.Moved f) start ?_).objects
  exact fun id _ _ _ same => same.resolve void outline.size id

theorem qualifyNames : Moved f outline.qualifyNames moved.qualifyNames := by
  rw [Outline.qualifyNames, Outline.qualifyNames, same.ids]
  exact same.foldl (fun id same => same.qualify id) outline.ids

theorem completeDefinitions : Moved f outline.completeDefinitions moved.completeDefinitions := by
  unfold Outline.completeDefinitions
  rw [same.ids, same.size]
  have start : Completion.Moved f ⟨outline, .replicate outline.size false⟩
      ⟨moved, .replicate outline.size false⟩ := ⟨same, rfl⟩
  refine (List.foldl_rel (r := Completion.Moved f) start ?_).objects
  exact fun id _ _ _ same => same.complete outline.size id

theorem spreadGlobals : Moved f outline.spreadGlobals moved.spreadGlobals := by
  rw [Outline.spreadGlobals, Outline.spreadGlobals, same.ids]
  exact same.foldl (fun id same => same.inheritGlobal id) outline.ids

/-- Sorting, if moving keeps the order of all children of an object. -/
theorem sort (key : SortKey)
    (ordered : ∀ id, ∀ a ∈ (outline.node id).children.toList,
      ∀ b ∈ (outline.node id).children.toList,
        moved.ordered key a b = outline.ordered key a b) :
    Moved f (outline.sort key) (moved.sort key) := by
  have nodes : moved.nodes = outline.nodes.map (Node.move f) := same
  unfold Moved Outline.sort
  rw [nodes, Array.map_map, Array.map_map]
  refine Array.map_congr_left fun node member => ?_
  obtain ⟨id, inside, rfl⟩ := Array.mem_iff_getElem.mp member
  have own : outline.nodes[id] = outline.node id := by simp [Outline.node, Array.getD, inside]
  have sorted : (outline.node id).children.toList.mergeSort (moved.ordered key) =
      (outline.node id).children.toList.mergeSort (outline.ordered key) := by
    simpa using List.map_mergeSort (f := fun child => child) (ordered id)
  simp only [Function.comp_apply, own, Node.children_move, sorted]
  rfl

end Moved

theorem Resolves.finish (same : Resolves f outline moved) (void : String) :
    Moved f (outline.finish void) (moved.finish void) :=
  (((same.link.spellNames void).qualifyNames).completeDefinitions).spreadGlobals

end Outline

/-! ### The outline of an input file -/

theorem Dwarf.offset_mem_offsets {units : List UnitRecord} {entry : Entry}
    (member : entry ∈ entries units) : entry.offset ∈ offsets units :=
  List.mem_flatMap.mpr ⟨entry, member, List.mem_cons_self⟩

theorem Dwarf.mem_offsets_of_refers {units : List UnitRecord} {entry : Entry} {offset : UInt64}
    (member : entry ∈ entries units) (refers : entry.Refers offset) : offset ∈ offsets units := by
  obtain ⟨item, listed, value⟩ := refers
  refine List.mem_flatMap.mpr ⟨entry, member, ?_⟩
  refine List.mem_cons_of_mem _ (List.mem_append_right _ ?_)
  refine List.mem_filterMap.mpr ⟨item, listed, ?_⟩
  rw [value]
  rfl

namespace Draft

variable {f : UInt64 → UInt64} (input : String) (units : List UnitRecord)

/-- Objects of entries have tags. -/
theorem tag_isSome : ∀ id ∈ ((start input).addUnits units 0).outline.objects,
    (((start input).addUnits units 0).outline.node id).tag.isSome := by
  refine (addUnits_related (fun state _ => ∀ id ∈ state.1.outline.objects,
    (state.1.outline.node id).tag.isSome) 0 (fun tagged => tagged) ?_ (.start input)
    (.start input) (.empty units input) ?_).2
  · intro state other unit position entry recorded listed sound current tagged
    rcases addEntry_cases unit position entry sound.valid current with
      ⟨-, same⟩ | ⟨-, -, same⟩ | ⟨-, -, role, notRow, -, next, warnings, same, placed⟩
    · rw [same]
      exact tagged
    · rw [same]
      exact tagged
    · rw [same]
      intro id member
      rw [placed.objects notRow sound.valid.root_present] at member
      rcases List.mem_append.mp member with old | new
      · rw [placed.read Node.tag (fun _ => rfl) (Outline.mem_objects.mp old).1]
        exact tagged id old
      · obtain ⟨described, isOf, newest⟩ := placed.newest
        rw [List.mem_singleton.mp new, newest]
        exact isOf.tag ▸ rfl
  · intro id member
    obtain ⟨inside, notRoot, -⟩ := Outline.mem_objects.mp member
    exact absurd (Nat.lt_one_iff.mp inside) notRoot

/-- Whatever the offsets of an object lead to, they lead to when the entries are moved. -/
theorem resolves_ofUnits (increasing : Dwarf.Increasing f (Dwarf.offsets units)) :
    Outline.Resolves f (ofUnits input units).outline
      (ofUnits input (units.map (UnitRecord.move f))).outline := by
  have same := (moves_ofUnits input units increasing).outline
  have origin := From.addUnits input units
  rw [outline_ofUnits input units] at same ⊢
  have leads {offset : Option UInt64} (listed : ∀ value ∈ offset, value ∈ Dwarf.offsets units) :
      (offset.map f).bind (ofUnits input (units.map (UnitRecord.move f))).outline.find? =
        offset.bind ((start input).addUnits units 0).outline.find? := by
    cases offset with
    | none => rfl
    | some value => exact same.find value (listed value rfl)
  refine ⟨same.objects, fun id => ?_, fun id => ?_⟩ <;> rw [same.objects.node] <;>
    refine leads fun value given => ?_
  · obtain ⟨entry, member, refers⟩ := origin.link id value (.inl given)
    exact Dwarf.mem_offsets_of_refers member refers
  · obtain ⟨entry, member, refers⟩ := origin.link id value (.inr given)
    exact Dwarf.mem_offsets_of_refers member refers

end Draft

/-- Moving keeps the order of objects of entries. -/
theorem Node.compareBy_move {f : UInt64 → UInt64} {named : List UInt64}
    (increasing : Dwarf.Increasing f named) {a b : Node} (tagged : a.tag.isSome ∧ b.tag.isSome)
    (listed : a.offset ∈ named ∧ b.offset ∈ named) (key : SortKey) :
    (a.move f).compareBy key (b.move f) = a.compareBy key b := by
  have first : (a.move f).offset = f a.offset := if_pos tagged.1
  have second : (b.move f).offset = f b.offset := if_pos tagged.2
  have offsets : (a.move f).compareOffset (b.move f) = a.compareOffset b := by
    rw [compareOffset, first, second, increasing.compare_eq listed.1 listed.2]
    rfl
  cases key <;> simp only [compareBy, offsets] <;> rfl

namespace Outline

variable {f : UInt64 → UInt64} (input : String) (units : List UnitRecord)

theorem moved_build (increasing : Dwarf.Increasing f (Dwarf.offsets units)) (void : String) :
    Moved f (build input units void).1 (build input (units.map (UnitRecord.move f)) void).1 := by
  rw [build_fst, build_fst]
  exact (Draft.resolves_ofUnits input units increasing).finish void

/-- The objects of an input file stay in the order they are sorted in. -/
theorem moved_sort (increasing : Dwarf.Increasing f (Dwarf.offsets units)) (void : String)
    (key : SortKey) : Moved f ((build input units void).1.sort key)
      ((build input (units.map (UnitRecord.move f)) void).1.sort key) := by
  have same := moved_build input units increasing void
  have valid := WellFormed.build input units void
  have kept := (keeps_finish (Draft.ofUnits input units).outline void).skeleton
  rw [← build_fst, Draft.outline_ofUnits] at kept
  have child {id owner : Nat}
      (member : id ∈ ((build input units void).1.node owner).children.toList) :
      ((build input units void).1.node id).tag.isSome ∧
        ((build input units void).1.node id).offset ∈ Dwarf.offsets units := by
    obtain ⟨named, notRow⟩ := valid.mem_children.mp member
    obtain ⟨inside, notRoot, -⟩ := valid.of_parent named
    have object := mem_objects.mpr ⟨inside, notRoot, notRow⟩
    rw [kept.objects] at object
    obtain ⟨entry, listed, offset⟩ := (Draft.From.addUnits input units).object id object
    rw [kept.tag, kept.offset, ← offset]
    exact ⟨Draft.tag_isSome input units id object, Dwarf.offset_mem_offsets listed⟩
  refine same.sort key fun owner a first b second => ?_
  obtain ⟨tagged, listed⟩ := child first
  obtain ⟨alsoTagged, alsoListed⟩ := child second
  simp only [ordered, same.node,
    Node.compareBy_move increasing ⟨tagged, alsoTagged⟩ ⟨listed, alsoListed⟩]

end Outline

end DebugOutline
