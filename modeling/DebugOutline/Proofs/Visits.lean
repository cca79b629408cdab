import DebugOutline.Proofs.Parts

/-! Passes that visit objects in the order in which they need each other, each object once. With
two outlines side by side, whatever an object of one needs is in the same one, so that the visits
of the whole are those of the parts. -/
namespace DebugOutline

namespace Outline

variable {shift other : Renaming} {part rest whole : Outline} {id : Nat}
  {marks restMarks allMarks : Array Bool}

/-! ### What has been visited -/

theorem getD_setIfInBounds (marks : Array Bool) (id other : Nat) :
    (marks.setIfInBounds id true).getD other true =
      if other = id then true else marks.getD other true := by
  simp only [Array.getD_eq_getD_getElem?, Array.getElem?_setIfInBounds]
  by_cases same : id = other
  · subst same
    by_cases inside : id < marks.size <;> simp [inside]
  · simp [same, Ne.symm same]

/-- The objects that have not been visited. -/
def pending (marks : Array Bool) : Nat := marks.count false

/-- Visiting an object leaves one less to visit, if it was not visited before. -/
theorem pending_mark (marks : Array Bool) (id : Nat) :
    pending marks =
      pending (marks.setIfInBounds id true) + if marks.getD id true then 0 else 1 := by
  unfold pending
  by_cases inside : id < marks.size
  · cases value : marks[id] with
    | true => simp [Array.setIfInBounds, Array.getD, Array.count_set, inside, value]
    | false =>
      have present : 0 < marks.count false :=
        Array.count_pos_iff.mpr (value ▸ Array.getElem_mem inside)
      simp [Array.setIfInBounds, Array.getD, Array.count_set, inside, value]
      omega
  · simp [Array.setIfInBounds, Array.getD, inside]

theorem pending_of_unmarked (unmarked : marks.getD id true = false) :
    pending marks = pending (marks.setIfInBounds id true) + 1 := by
  rw [pending_mark marks id, unmarked]
  rfl

theorem marked_of_pending (none : pending marks = 0) : marks.getD id true = true := by
  cases value : marks.getD id true with
  | true => rfl
  | false =>
    have one := pending_of_unmarked value
    omega

/-- Two parts of a whole in which the same objects have been visited. -/
structure Visited (shift other : Renaming) (part rest whole : Outline)
    (marks restMarks allMarks : Array Bool) : Prop where
  parts : Parts shift other part rest whole
  size : marks.size = part.size
  restSize : restMarks.size = rest.size
  allSize : allMarks.size = whole.size
  own : ∀ id < part.size, id ≠ root →
    allMarks.getD (shift.object id) true = marks.getD id true
  beside : ∀ id < rest.size, id ≠ root →
    allMarks.getD (other.object id) true = restMarks.getD id true

namespace Visited

theorem start (parts : Parts shift other part rest whole) :
    Visited shift other part rest whole (.replicate part.size false) (.replicate rest.size false)
      (.replicate whole.size false) where
  parts := parts
  size := Array.size_replicate
  restSize := Array.size_replicate
  allSize := Array.size_replicate
  own id inside _ := by simp [Array.getD, inside, parts.own.object_lt inside]
  beside id inside _ := by simp [Array.getD, inside, parts.beside.object_lt inside]

variable (visited : Visited shift other part rest whole marks restMarks allMarks)
include visited

theorem swap : Visited other shift rest part whole restMarks marks allMarks where
  parts := visited.parts.swap
  size := visited.restSize
  restSize := visited.size
  allSize := visited.allSize
  own := visited.beside
  beside := visited.own

/-- Visiting an object of one part. -/
theorem mark (inside : id < part.size) (notRoot : id ≠ root) :
    Visited shift other part rest whole (marks.setIfInBounds id true) restMarks
      (allMarks.setIfInBounds (shift.object id) true) where
  parts := visited.parts
  size := by simpa using visited.size
  restSize := visited.restSize
  allSize := by simpa using visited.allSize
  own another known notFile := by
    simp only [getD_setIfInBounds, Renaming.object_inj, visited.own another known notFile]
  beside stranger known notFile := by
    have apart := visited.parts.apart id inside notRoot stranger known notFile
    rw [getD_setIfInBounds, if_neg (Ne.symm apart), visited.beside stranger known notFile]

/-- Visiting the input file. -/
theorem markRoot : Visited shift other part rest whole (marks.setIfInBounds root true)
    (restMarks.setIfInBounds root true) (allMarks.setIfInBounds root true) where
  parts := visited.parts
  size := by simpa using visited.size
  restSize := by simpa using visited.restSize
  allSize := by simpa using visited.allSize
  own id inside notRoot := by
    have apart : shift.object id ≠ root := by simpa using notRoot
    rw [getD_setIfInBounds, getD_setIfInBounds, if_neg apart, if_neg notRoot,
      visited.own id inside notRoot]
  beside id inside notRoot := by
    have apart : other.object id ≠ root := by simpa using notRoot
    rw [getD_setIfInBounds, getD_setIfInBounds, if_neg apart, if_neg notRoot,
      visited.beside id inside notRoot]

/-- Changing an object in place. -/
theorem change {part' whole' : Outline} (parts : Parts shift other part' rest whole')
    (size : part'.size = part.size) (allSize : whole'.size = whole.size) :
    Visited shift other part' rest whole' marks restMarks allMarks where
  parts := parts
  size := visited.size.trans size.symm
  restSize := visited.restSize
  allSize := visited.allSize.trans allSize.symm
  own id inside := visited.own id (size ▸ inside)
  beside := visited.beside

end Visited

end Outline

/-! ### Spelling a name -/

/-- A piece as it stands in the whole. -/
def NamePart.rename (shift : Renaming) : NamePart → NamePart
  | .literal text => .literal text
  | .nameOf id => .nameOf (shift.object id)
  | .qualifiedNameOf id => .qualifiedNameOf (shift.object id)

/-- A spelling as it stands in the whole. -/
def Spelling.rename (shift : Renaming) (spelling : Spelling) : Spelling :=
  { spelling with parts := spelling.parts.map (NamePart.rename shift) }

theorem NamePart.target?_rename (shift : Renaming) (piece : NamePart) :
    (piece.rename shift).target? = piece.target?.map shift.object := by
  cases piece <;> rfl

namespace Outline.Embeds

variable {shift : Renaming} {part whole : Outline} {id : Nat} (held : Embeds shift part whole)
include held

theorem text {piece : NamePart} (inside : ∀ target ∈ piece.target?, target < part.size) :
    (piece.rename shift).text whole = piece.text part := by
  cases piece with
  | literal text => rfl
  | nameOf target => exact held.name (inside target rfl)
  | qualifiedNameOf target =>
    have known := inside target rfl
    simp only [NamePart.rename, NamePart.text, held.kind known, held.name known,
      held.parent known, held.qualifierUnder (held.valid.parent_lt_size known)]

theorem typePart (inside : id < part.size) (missing : String) :
    Spelling.typePart whole (shift.object id) missing =
      (Spelling.typePart part id missing).rename shift := by
  unfold Spelling.typePart
  rw [held.typeId inside]
  cases (part.node id).typeId <;> rfl

theorem argument? (inside : id < part.size) :
    Spelling.argument? whole (shift.object id) =
      (Spelling.argument? part id).map (NamePart.rename shift) := by
  unfold Spelling.argument?
  rw [held.templateArgument? inside, held.typeId inside]
  cases (part.node id).templateArgument? with
  | none => rfl
  | some argument =>
    cases argument with
    | type => cases (part.node id).typeId <;> rfl
    | value literal => rfl
    | template name => rfl
    | pack => rfl

section Object

variable (inside : id < part.size) (notRoot : id ≠ root)
include inside notRoot

theorem array : Spelling.array whole (shift.object id) =
    (Spelling.array part id).rename shift := by
  have extents : (whole.auxiliaryChildren (shift.object id) .subrange).map
      (fun dimension => (whole.node dimension).name) =
      (part.auxiliaryChildren id .subrange).map fun dimension => (part.node dimension).name := by
    rw [held.auxiliaryChildren inside notRoot, List.map_map]
    apply List.map_congr_left
    intro child member
    exact held.name (held.valid.of_parent (held.valid.of_mem_auxiliaryChildren member)).1
  simp only [Spelling.array, Spelling.rename, extents, held.typePart inside, List.map_cons,
    List.map_nil]

theorem formalParameters : Spelling.formalParameters whole (shift.object id) =
    (Spelling.formalParameters part id).map shift.object := by
  unfold Spelling.formalParameters
  rw [held.auxiliaryChildren inside notRoot, List.filter_map]
  congr 1
  apply List.filter_congr
  intro child member
  have known := (held.valid.of_parent (held.valid.of_mem_auxiliaryChildren member)).1
  rw [Function.comp_apply, held.tag known]

theorem subroutine (void : String) : Spelling.subroutine whole (shift.object id) void =
    (Spelling.subroutine part id void).rename shift := by
  have parameters : (Spelling.formalParameters whole (shift.object id)).map
      (fun parameter => Spelling.typePart whole parameter "") =
      ((Spelling.formalParameters part id).map fun parameter =>
        Spelling.typePart part parameter "").map (NamePart.rename shift) := by
    rw [held.formalParameters inside notRoot, List.map_map, List.map_map]
    apply List.map_congr_left
    intro child member
    have listed := (List.mem_filter.mp member).1
    exact held.typePart (held.valid.of_parent (held.valid.of_mem_auxiliaryChildren listed)).1 ""
  simp only [Spelling.subroutine, Spelling.rename, parameters, held.typePart inside, List.map_cons]

theorem auxiliary? (form : AuxiliaryForm) (void : String) :
    Spelling.auxiliary? whole (shift.object id) form void =
      (Spelling.auxiliary? part id form void).map (Spelling.rename shift) := by
  unfold Spelling.auxiliary?
  rw [held.array inside notRoot, held.subroutine inside notRoot, held.name inside]
  cases form <;> simp [Spelling.ofWords, Spelling.rename, NamePart.rename, held.typePart inside]

theorem arguments : Spelling.arguments whole (shift.object id) =
    (Spelling.arguments part id).map (NamePart.rename shift) := by
  have parameters : ((whole.node (shift.object id)).children.toList.filter fun child =>
      (whole.node child).kind == .templateParameter) =
      ((part.node id).children.toList.filter fun child =>
        (part.node child).kind == .templateParameter).map shift.object :=
    held.filter_children inside notRoot fun child known => by rw [held.kind known]
  have opened : ∀ parameter ∈ (part.node id).children.toList.filter
      (fun child => (part.node child).kind == .templateParameter),
      (if (whole.node (shift.object parameter)).isPack then
        (whole.node (shift.object parameter)).children.toList
      else [shift.object parameter]) =
      (if (part.node parameter).isPack then (part.node parameter).children.toList
      else [parameter]).map shift.object ∧
      ∀ child ∈ (if (part.node parameter).isPack then (part.node parameter).children.toList
        else [parameter]), child < part.size := by
    intro parameter member
    obtain ⟨known, notFile⟩ := held.children_lt (List.mem_filter.mp member).1
    rw [held.isPack known, held.object parameter known notFile]
    split
    · exact ⟨by simp [Node.rename], fun child listed => (held.children_lt listed).1⟩
    · exact ⟨rfl, fun child same => List.mem_singleton.mp same ▸ known⟩
  unfold Spelling.arguments
  dsimp only
  rw [parameters, List.flatMap_map, List.map_filterMap,
    List.flatMap_congr fun parameter member => (opened parameter member).1, ← List.map_flatMap,
    List.filterMap_map]
  apply List.filterMap_congr
  intro child member
  obtain ⟨parameter, listed, own⟩ := List.mem_flatMap.mp member
  exact held.argument? ((opened parameter listed).2 child own)

theorem spelling (void : String) : Spelling.of? whole void (shift.object id) =
    (Spelling.of? part void id).map (Spelling.rename shift) := by
  have lacks : Spelling.lacksArguments (whole.node (shift.object id)) =
      Spelling.lacksArguments (part.node id) := by
    rw [held.object id inside notRoot]
    rfl
  unfold Spelling.of?
  dsimp only
  rw [held.auxiliaryForm? inside, lacks]
  cases (part.node id).auxiliaryForm? with
  | some form => exact held.auxiliary? inside notRoot form void
  | none =>
    dsimp only
    split
    · simp [Spelling.template, Spelling.rename, held.arguments inside notRoot, held.name inside]
    · rfl

end Object

end Outline.Embeds

/-! ### What a name is spelled from -/

/-- A piece that is the name of an object of an entry, if it is the name of any. -/
def NamePart.Inside (outline : Outline) (piece : NamePart) : Prop :=
  ∀ target ∈ piece.target?, target ∈ outline.objects

namespace Spelling

variable {outline : Outline} {id : Nat} {piece : NamePart}

theorem inside_literal (outline : Outline) (text : String) :
    (NamePart.literal text).Inside outline := by
  intro target needed
  cases needed

theorem inside_typePart (linked : outline.LinksInside) (id : Nat) (missing : String) :
    (typePart outline id missing).Inside outline := by
  unfold typePart
  split
  · rename_i typed
    intro target needed
    cases needed
    exact linked id _ (.inl typed)
  · exact inside_literal outline missing

theorem inside_argument (linked : outline.LinksInside)
    (found : argument? outline id = some piece) : piece.Inside outline := by
  unfold argument? at found
  split at found
  · split at found
    · rename_i typed
      cases found
      intro target needed
      cases needed
      exact linked id _ (.inl typed)
    · cases found
      exact inside_literal outline _
  all_goals cases found <;> exact inside_literal outline _

/-- Names are spelled from names of objects of entries. -/
theorem inside_of? (linked : outline.LinksInside) {void : String} {spelling : Spelling}
    (spelled : of? outline void id = some spelling) :
    ∀ piece ∈ spelling.parts, piece.Inside outline := by
  have type := inside_typePart linked
  have literal := inside_literal outline
  unfold of? at spelled
  dsimp only at spelled
  split at spelled
  · rename_i form _
    cases form <;> cases spelled <;>
      simp [ofWords, array, subroutine, type, literal]
  · split at spelled
    · cases spelled
      intro piece member
      obtain ⟨child, -, found⟩ := List.mem_filterMap.mp member
      exact inside_argument linked found
    · cases spelled

end Spelling

/-! ### Visits to name objects -/

namespace Naming

open Outline

variable {shift other : Renaming} {part rest whole : Naming} {id : Nat} {void : String}

theorem resolve_of_hasStarted {naming : Naming} (started : naming.hasStarted id = true)
    (depth : Nat) : resolve void depth naming id = naming := by
  cases depth with
  | zero => rfl
  | succ depth => simp [resolve, started]

/-- No visit leaves more to visit. -/
theorem pending_resolve_le (void : String) (depth : Nat) (naming : Naming) (id : Nat) :
    pending (resolve void depth naming id).started ≤ pending naming.started := by
  refine resolve_induction (fun next => pending next.started ≤ pending naming.started) ?_
    (fun _ _ _ kept => kept) depth naming id (Nat.le_refl _)
  intro next id kept
  exact Nat.le_trans (Nat.le_of_add_right_le (pending_mark next.started id).ge) kept

/-- Two parts of a whole with the same names spelled so far. -/
abbrev Parts (shift other : Renaming) (part rest whole : Naming) : Prop :=
  Visited shift other part.outline rest.outline whole.outline part.started rest.started
    whole.started

theorem skeleton_resolve (void : String) (depth : Nat) (naming : Naming) (id : Nat) :
    Keeps Node.skeleton naming.outline (resolve void depth naming id).outline :=
  (keeps_resolve void depth naming id).weaken _ skeleton_of_withoutName

/-- The visit that a piece needs before it is read. -/
def prepare (visit : Naming → NodeId → Naming) (piece : NamePart) (naming : Naming) : Naming :=
  match piece.target? with
  | some target => visit naming target
  | none => naming

theorem gather_cons (visit : Naming → NodeId → Naming) (piece : NamePart) (later : List NamePart)
    (naming : Naming) : Naming.gather visit (piece :: later) naming =
      (piece.text (prepare visit piece naming).outline ::
          (Naming.gather visit later (prepare visit piece naming)).1,
        (Naming.gather visit later (prepare visit piece naming)).2) := rfl

section Gather

variable {bound : Nat} {visit visitAll : Naming → NodeId → Naming}
  (one : ∀ {part whole : Naming} {id : Nat}, Parts shift other part rest whole →
    pending part.started ≤ bound → id < part.outline.size → id ≠ root →
    Parts shift other (visit part id) rest (visitAll whole (shift.object id)))
  (fewer : ∀ naming id, pending (visit naming id).started ≤ pending naming.started)
  (kept : ∀ naming id, Keeps Node.skeleton naming.outline (visit naming id).outline)
include one fewer kept

theorem Parts.prepare {piece : NamePart} (parts : Parts shift other part rest whole)
    (enough : pending part.started ≤ bound) (inside : piece.Inside part.outline) :
    Parts shift other (Naming.prepare visit piece part) rest
        (Naming.prepare visitAll (piece.rename shift) whole) ∧
      pending (Naming.prepare visit piece part).started ≤ pending part.started ∧
      Keeps Node.skeleton part.outline (Naming.prepare visit piece part).outline := by
  unfold Naming.prepare
  rw [NamePart.target?_rename]
  cases needed : piece.target? with
  | none => exact ⟨parts, Nat.le_refl _, .refl _ _⟩
  | some target =>
    obtain ⟨present, notRoot, -⟩ := mem_objects.mp (inside target needed)
    exact ⟨one parts enough present notRoot, fewer part target, kept part target⟩

/-- Pieces read in turn give the same texts, if the objects they name are visited alike. -/
theorem Parts.gather (pieces : List NamePart) (parts : Parts shift other part rest whole)
    (enough : pending part.started ≤ bound) (inside : ∀ piece ∈ pieces, piece.Inside part.outline) :
    (Naming.gather visitAll (pieces.map (NamePart.rename shift)) whole).1 =
      (Naming.gather visit pieces part).1 ∧
    Parts shift other (Naming.gather visit pieces part).2 rest
      (Naming.gather visitAll (pieces.map (NamePart.rename shift)) whole).2 ∧
    Keeps Node.skeleton part.outline (Naming.gather visit pieces part).2.outline := by
  induction pieces generalizing part whole with
  | nil => exact ⟨rfl, parts, .refl _ _⟩
  | cons piece later ih =>
    obtain ⟨own, more⟩ := List.forall_mem_cons.mp inside
    obtain ⟨stepped, less, stays⟩ := parts.prepare one fewer kept enough own
    have text : (piece.rename shift).text _ = piece.text _ :=
      stepped.parts.own.text fun target needed =>
        stays.size ▸ (mem_objects.mp (own target needed)).1
    obtain ⟨texts, last, all⟩ := ih stepped (Nat.le_trans less enough)
      (by simpa only [NamePart.Inside, stays.objects] using more)
    rw [List.map_cons, gather_cons, gather_cons]
    exact ⟨by rw [text, texts], last, stays.trans all⟩

end Gather

/-- Naming an object of one part, with enough depth for all that is not visited there. -/
theorem Parts.resolve (parts : Parts shift other part rest whole) {depth longer : Nat}
    (enough : pending part.started ≤ depth) (plenty : pending part.started ≤ longer)
    (inside : id < part.outline.size) (notRoot : id ≠ root) :
    Parts shift other (Naming.resolve void depth part id) rest
      (Naming.resolve void longer whole (shift.object id)) := by
  induction depth generalizing longer part whole id with
  | zero =>
    have started : part.hasStarted id = true := marked_of_pending (Nat.eq_zero_of_le_zero enough)
    have also : whole.hasStarted (shift.object id) = true :=
      (parts.own id inside notRoot).trans started
    rwa [resolve_of_hasStarted started, resolve_of_hasStarted also]
  | succ depth ih =>
    have same : whole.hasStarted (shift.object id) = part.hasStarted id :=
      parts.own id inside notRoot
    cases started : part.hasStarted id with
    | true => rwa [resolve_of_hasStarted started, resolve_of_hasStarted (same.trans started)]
    | false =>
      have fewer := pending_of_unmarked started
      obtain ⟨longer, rfl⟩ := Nat.exists_eq_add_one_of_ne_zero (by omega : longer ≠ 0)
      have marked : Parts shift other
          ⟨part.outline, part.started.setIfInBounds id true⟩ rest
          ⟨whole.outline, whole.started.setIfInBounds (shift.object id) true⟩ :=
        parts.mark inside notRoot
      rw [Naming.resolve, Naming.resolve, same, started]
      simp only [Bool.false_eq_true, if_false]
      rw [parts.parts.own.spelling inside notRoot]
      cases spelled : Spelling.of? part.outline void id with
      | none => exact marked
      | some spelling =>
        have visit {part whole : Naming} {id : Nat} (parts : Parts shift other part rest whole)
            (bounded : pending part.started ≤ min depth longer) (inside : id < part.outline.size)
            (notRoot : id ≠ root) : Parts shift other (Naming.resolve void depth part id) rest
              (Naming.resolve void longer whole (shift.object id)) :=
          ih parts (by omega) (by omega) inside notRoot
        have left : pending (part.started.setIfInBounds id true) ≤ min depth longer := by omega
        obtain ⟨texts, gathered, kept⟩ := marked.gather visit (pending_resolve_le void depth)
          (skeleton_resolve void depth) spelling.parts left
          (Spelling.inside_of? parts.parts.own.linked spelled)
        rw [Option.map_some]
        dsimp only [Spelling.rename]
        rw [texts]
        exact gathered.change
          (gathered.parts.modify (kept.size ▸ inside) notRoot _ _ (fun _ => rfl)
            (gathered.parts.own.linked id) rfl)
          (size_modify _ _ _) (size_modify _ _ _)

end Naming

namespace Outline

variable {shift other : Renaming} {part rest whole : Outline} {id : Nat}

/-- A start without visits. -/
theorem hasStarted_start (inside : 0 < part.size) :
    (Array.replicate part.size false).getD root true = false := by
  simp [root, Array.getD, inside]

theorem PlainRoot.spelling (plain : part.PlainRoot) (void : String) :
    Spelling.of? part void root = none := by
  have noForm : (part.node root).auxiliaryForm? = none :=
    plain.read Node.auxiliaryForm? (fun _ => rfl) fun _ => rfl
  have isFile : (part.node root).kind = .inputFile :=
    plain.read Node.kind (fun _ => rfl) fun _ => rfl
  simp [Spelling.of?, Spelling.lacksArguments, noForm, isFile, Kind.takesArguments]

/-- The input file keeps its name. -/
theorem PlainRoot.resolve (plain : part.PlainRoot) (inside : 0 < part.size) (void : String) :
    Naming.resolve void part.size ⟨part, .replicate part.size false⟩ root =
      ⟨part, (Array.replicate part.size false).setIfInBounds root true⟩ := by
  obtain ⟨limit, size⟩ := Nat.exists_eq_add_one_of_ne_zero (Nat.ne_of_gt inside)
  have unmarked : Naming.hasStarted ⟨part, .replicate part.size false⟩ root = false :=
    hasStarted_start inside
  generalize Array.replicate part.size false = marks at unmarked
  rw [size, Naming.resolve, unmarked]
  simp [plain.spelling]

/-- Spelling every name of the whole spells every name of the parts. -/
theorem Parts.spellNames (parts : Parts shift other part rest whole)
    (order : Consecutive shift other part rest whole) (void : String) :
    Parts shift other (part.spellNames void) (rest.spellNames void) (whole.spellNames void) := by
  refine (Parts.pass Naming.Parts (Naming.resolve void) Naming.outline
    ⟨part, .replicate part.size false⟩ ⟨rest, .replicate rest.size false⟩
    ⟨whole, .replicate whole.size false⟩ parts order Visited.swap ?_ ?_ ?_).parts
  · intro limit naming id
    exact (Naming.skeleton_resolve void limit naming id).size
  · intro shift other part rest whole id limit longer parts enough plenty inside notRoot
    have few : pending part.started ≤ part.outline.size := parts.size ▸ Array.count_le_size
    exact parts.resolve (few.trans enough) (few.trans plenty) inside notRoot
  · obtain ⟨own, all⟩ := parts.own.plainRoot
    dsimp only
    rw [own.resolve parts.own.valid.root_present,
      parts.beside.plainRoot.1.resolve parts.beside.valid.root_present,
      all.resolve (Nat.zero_lt_of_lt (parts.own.object_lt parts.own.valid.root_present))]
    exact (Visited.start parts).markRoot

end Outline

end DebugOutline
