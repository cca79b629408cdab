import DebugOutline.Proofs.Renaming
import DebugOutline.Proofs.Resolution

/-! Two outlines side by side in a third one, with nothing in common but the input file. A pass over
the third does to the objects of each part what it does to them in the part alone. -/
namespace DebugOutline

namespace Outline

variable {shift other : Renaming} {part rest whole : Outline} {id target : Nat}

/-! ### One object changed -/

namespace Embeds

/-- The part and the whole change one object in the same way. -/
theorem modify (held : Embeds shift part whole) (inside : id < part.size) (notRoot : id ≠ root)
    {change changed : Node → Node} (skeleton : ∀ node, (change node).skeleton = node.skeleton)
    (linked : ∀ target, (change (part.node id)).typeId = some target ∨
      (change (part.node id)).referenceId = some target → target ∈ part.objects)
    (same : changed ((part.node id).rename shift) = (change (part.node id)).rename shift) :
    Embeds shift (part.modify id change) (whole.modify (shift.object id) changed) where
  valid := held.valid.of_keeps (.modify part id (skeleton _))
  linked := held.linked.modify skeleton linked
  size := by simpa using held.size
  object another known notFile := by
    rw [size_modify] at known
    rw [node_modify, node_modify]
    by_cases here : another = id
    · subst here
      simp [inside, held.object_lt inside, held.object another inside notRoot, same]
    · simp [here, held.object another known notFile]
  file := by
    have apart : root ≠ id := Ne.symm notRoot
    have alsoApart : root ≠ shift.object id := Ne.symm (by simpa using notRoot)
    simpa [node_modify, apart, alsoApart] using held.file

/-- The whole changes an object that is not of the part. -/
theorem modify_beside (held : Embeds shift part whole) (notRoot : target ≠ root)
    (apart : ∀ id < part.size, id ≠ root → shift.object id ≠ target) (change : Node → Node) :
    Embeds shift part (whole.modify target change) where
  valid := held.valid
  linked := held.linked
  size := by simpa using held.size
  object id known notFile := by
    rw [node_modify, if_neg fun changed => apart id known notFile changed.1]
    exact held.object id known notFile
  file := by simpa [node_modify, notRoot.symm] using held.file

end Embeds

/-- Two parts of a whole that share nothing but the input file. -/
structure Parts (shift other : Renaming) (part rest whole : Outline) : Prop where
  own : Embeds shift part whole
  beside : Embeds other rest whole
  apart : ∀ id < part.size, id ≠ root → ∀ stranger < rest.size, stranger ≠ root →
    shift.object id ≠ other.object stranger

namespace Parts

theorem swap (parts : Parts shift other part rest whole) : Parts other shift rest part whole where
  own := parts.beside
  beside := parts.own
  apart stranger known notFile id inside notRoot :=
    (parts.apart id inside notRoot stranger known notFile).symm

/-- Changing an object of one part leaves the other alone. -/
theorem modify (parts : Parts shift other part rest whole) (inside : id < part.size)
    (notRoot : id ≠ root) (change changed : Node → Node)
    (skeleton : ∀ node, (change node).skeleton = node.skeleton)
    (linked : ∀ target, (change (part.node id)).typeId = some target ∨
      (change (part.node id)).referenceId = some target → target ∈ part.objects)
    (same : changed ((part.node id).rename shift) = (change (part.node id)).rename shift) :
    Parts shift other (part.modify id change) rest (whole.modify (shift.object id) changed) where
  own := parts.own.modify inside notRoot skeleton linked same
  beside := parts.beside.modify_beside (by simpa using notRoot)
    (fun stranger known notFile => (parts.apart id inside notRoot stranger known notFile).symm) _
  apart := by simpa using parts.apart

end Parts

/-! ### Passes -/

/-- The objects of the whole in order: the input file, those of one part, those of the other. -/
def Consecutive (shift other : Renaming) (part rest whole : Outline) : Prop :=
  whole.ids = root :: (part.ids.tail.map shift.object ++ rest.ids.tail.map other.object)

theorem WellFormed.ids_eq_cons (valid : part.WellFormed) : part.ids = root :: part.ids.tail := by
  obtain ⟨more, size⟩ := Nat.exists_eq_succ_of_ne_zero (Nat.ne_of_gt valid.root_present)
  rw [ids, size, List.range_succ_eq_map]
  rfl

theorem mem_ids_tail (member : id ∈ part.ids.tail) : id < part.size ∧ id ≠ root := by
  unfold ids at member
  rw [List.range_eq_range', List.tail_range'] at member
  obtain ⟨k, last, same⟩ := List.mem_range'.mp member
  unfold root
  omega

/-- A pass that treats the objects of each part in the whole as in the part does so over all
objects. A step may need a limit as large as the outline. -/
theorem Parts.pass {σ : Type} (relation : Renaming → Renaming → σ → σ → σ → Prop)
    (step : Nat → σ → NodeId → σ) (outline : σ → Outline) (part rest whole : σ)
    (parts : Parts shift other (outline part) (outline rest) (outline whole))
    (order : Consecutive shift other (outline part) (outline rest) (outline whole))
    (swap : ∀ {shift other part rest whole}, relation shift other part rest whole →
      relation other shift rest part whole)
    (sized : ∀ limit state id, (outline (step limit state id)).size = (outline state).size)
    (one : ∀ {shift other part rest whole id limit longer}, relation shift other part rest whole →
      (outline part).size ≤ limit → (outline part).size ≤ longer →
      id < (outline part).size → id ≠ root →
      relation shift other (step limit part id) rest (step longer whole (shift.object id)))
    (first : relation shift other (step (outline part).size part root)
      (step (outline rest).size rest root) (step (outline whole).size whole root)) :
    relation shift other ((outline part).ids.foldl (step (outline part).size) part)
      ((outline rest).ids.foldl (step (outline rest).size) rest)
      ((outline whole).ids.foldl (step (outline whole).size) whole) := by
  have side {shift other : Renaming} {part rest whole : σ} {limit longer : Nat} (ids : List NodeId)
      (enough : (outline part).size ≤ limit) (plenty : (outline part).size ≤ longer)
      (inside : ∀ id ∈ ids, id < (outline part).size ∧ id ≠ root)
      (start : relation shift other part rest whole) :
      relation shift other (ids.foldl (step limit) part) rest
        ((ids.map shift.object).foldl (step longer) whole) := by
    induction ids generalizing part whole with
    | nil => exact start
    | cons id ids ih =>
      obtain ⟨⟨known, notRoot⟩, later⟩ := List.forall_mem_cons.mp inside
      have next := one start enough plenty known notRoot
      exact ih (by rwa [sized]) (by rwa [sized]) (by simpa only [sized] using later) next
  have within {shift part whole} (held : Embeds shift part whole) : part.size ≤ whole.size :=
    Nat.le_trans (Nat.le_add_right _ _) held.size
  rw [order, parts.own.valid.ids_eq_cons, parts.beside.valid.ids_eq_cons,
    List.foldl_cons, List.foldl_cons, List.foldl_cons, List.tail_cons, List.tail_cons,
    List.foldl_append]
  have own := side (outline part).ids.tail (sized _ _ _).le
    ((sized _ _ _).le.trans (within parts.own))
    (by simpa only [sized] using fun _ => mem_ids_tail) first
  have beside := side (outline rest).ids.tail (sized _ _ _).le
    ((sized _ _ _).le.trans (within parts.beside))
    (by simpa only [sized] using fun _ => mem_ids_tail) (swap own)
  exact swap beside

/-- The object of the input file has nothing but a name, and what is listed under it. -/
def PlainRoot (outline : Outline) : Prop :=
  ∃ input, (outline.node root).withoutChildren = .ofInput input

namespace PlainRoot

variable {outline : Outline} (plain : outline.PlainRoot)
include plain

/-- A field that what is listed does not enter is that of an input file. -/
theorem read (field : Node → α) (seen : ∀ node : Node, field node.withoutChildren = field node)
    {value : α} (same : ∀ input, field (.ofInput input) = value) :
    field (outline.node root) = value := by
  obtain ⟨input, alike⟩ := plain
  rw [← seen, alike, same]

theorem linkType : outline.linkType root = outline := by
  have noType : (outline.node root).typeOffset = none :=
    plain.read Node.typeOffset (fun _ => rfl) fun _ => rfl
  simp [Outline.linkType, noType]

theorem linkDeclaration : outline.linkDeclaration root = outline := by
  have noReference : (outline.node root).referenceOffset = none :=
    plain.read Node.referenceOffset (fun _ => rfl) fun _ => rfl
  simp [Outline.linkDeclaration, noReference]

theorem qualify : outline.qualify root = outline := by
  have isFile : (outline.node root).kind = .inputFile :=
    plain.read Node.kind (fun _ => rfl) fun _ => rfl
  simp [Outline.qualify, isFile, Kind.isQualified, Kind.isSymbol]

theorem inheritGlobal : outline.inheritGlobal root = outline := by
  have outermost : (outline.node root).parent = none :=
    plain.read Node.parent (fun _ => rfl) fun _ => rfl
  simp [Outline.inheritGlobal, outermost]

end PlainRoot

theorem Embeds.plainRoot (held : Embeds shift part whole) : part.PlainRoot ∧ whole.PlainRoot :=
  have ⟨input, own, also⟩ := held.file
  ⟨⟨input, own⟩, ⟨input, also⟩⟩

/-! ### Linking -/

/-- The offsets that objects of the part name lead to the same objects in the whole. -/
def Finds (shift : Renaming) (part whole : Outline) : Prop :=
  ∀ id < part.size, ∀ offset, (part.node id).typeOffset = some offset ∨
    (part.node id).referenceOffset = some offset →
    whole.find? (shift.offset offset) = (part.find? offset).map shift.object

namespace Finds

variable (finds : Finds shift part whole) (held : Embeds shift part whole) (inside : id < part.size)
include finds held inside

theorem typeAt? : (whole.node (shift.object id)).typeOffset.bind whole.find? =
    ((part.node id).typeOffset.bind part.find?).map shift.object := by
  obtain ⟨_, _, _, _, same⟩ := held.frame inside
  rw [same]
  cases typed : (part.node id).typeOffset with
  | none => simp [Node.rename, typed]
  | some offset => simp [Node.rename, typed, finds id inside offset (.inl typed)]

theorem declarationAt? : (whole.node (shift.object id)).referenceOffset.bind whole.find? =
    ((part.node id).referenceOffset.bind part.find?).map shift.object := by
  obtain ⟨_, _, _, _, same⟩ := held.frame inside
  rw [same]
  cases refers : (part.node id).referenceOffset with
  | none => simp [Node.rename, refers]
  | some offset => simp [Node.rename, refers, finds id inside offset (.inr refers)]

end Finds

/-- Linking changes no offset and leaves the index alone. -/
theorem Finds.of_keeps {part' whole' : Outline} (finds : Finds shift part whole)
    (kept : Keeps linkView part part') (also : Keeps linkView whole whole') :
    Finds shift part' whole' := by
  intro id inside offset named
  rw [kept.read Node.typeOffset (·.1.typeOffset) (fun _ => rfl) id,
    kept.read Node.referenceOffset (·.1.referenceOffset) (fun _ => rfl) id] at named
  rw [also.find, kept.find]
  exact finds id (kept.size ▸ inside) offset named

/-- Two parts with indexes that agree with that of the whole. -/
structure Indexed (shift other : Renaming) (part rest whole : Outline) : Prop where
  parts : Parts shift other part rest whole
  own : Finds shift part whole
  beside : Finds other rest whole

namespace Parts

theorem markForeign (parts : Parts shift other part rest whole) (inside : target < part.size)
    (notRoot : target ≠ root) (unit : Nat) :
    Parts shift other (part.markForeign target unit) rest
      (whole.markForeign (shift.object target) (unit + shift.units)) := by
  unfold Outline.markForeign
  rw [parts.own.object target inside notRoot]
  by_cases same : (part.node target).unit = unit
  · simpa [Node.rename, same] using parts
  · have foreign : ((part.node target).rename shift).unit ≠ unit + shift.units := by
      simpa [Node.rename] using same
    rw [if_neg same, if_neg foreign]
    exact parts.modify inside notRoot _ _ (fun _ => rfl) (parts.own.linked target) rfl

end Parts

namespace Indexed

variable (indexed : Indexed shift other part rest whole)
include indexed

theorem swap : Indexed other shift rest part whole :=
  ⟨indexed.parts.swap, indexed.beside, indexed.own⟩

theorem linkType (inside : id < part.size) (notRoot : id ≠ root) :
    Indexed shift other (part.linkType id) rest (whole.linkType (shift.object id)) := by
  have also := keeps_linkType whole (shift.object id)
  refine ⟨?_, indexed.own.of_keeps (keeps_linkType part id) also,
    indexed.beside.of_keeps (.refl _ _) also⟩
  have agree := indexed.own.typeAt? indexed.parts.own inside
  unfold Outline.linkType
  rw [agree]
  cases found : (part.node id).typeOffset.bind part.find? with
  | none => exact indexed.parts
  | some target =>
    obtain ⟨offset, -, hit⟩ := Option.bind_eq_some_iff.mp found
    have member := (indexed.parts.own.valid.find_sound hit).1
    obtain ⟨known, notFile, -⟩ := mem_objects.mp member
    have typed := indexed.parts.modify inside notRoot
      (fun node => { node with typeId := some target })
      (fun node => { node with typeId := some (shift.object target) })
      (fun _ => rfl)
      (by
        rintro other (type | declaration)
        · cases type
          exact member
        · exact indexed.parts.own.linked id other (.inr declaration))
      rfl
    have marked := typed.markForeign (by simpa using known) notFile (part.node id).unit
    simpa [indexed.parts.own.object id inside notRoot, Node.rename] using marked

theorem linkDeclaration (inside : id < part.size) (notRoot : id ≠ root) :
    Indexed shift other (part.linkDeclaration id) rest
      (whole.linkDeclaration (shift.object id)) := by
  have also := keeps_linkDeclaration whole (shift.object id)
  refine ⟨?_, indexed.own.of_keeps (keeps_linkDeclaration part id) also,
    indexed.beside.of_keeps (.refl _ _) also⟩
  have held := indexed.parts.own
  unfold Outline.linkDeclaration
  rw [indexed.own.declarationAt? held inside]
  cases found : (part.node id).referenceOffset.bind part.find? with
  | none => exact indexed.parts
  | some target =>
    obtain ⟨offset, -, hit⟩ := Option.bind_eq_some_iff.mp found
    have member := (held.valid.find_sound hit).1
    obtain ⟨known, notFile, -⟩ := mem_objects.mp member
    have together : (whole.node (shift.object id)).linksTo (whole.node (shift.object target)) =
        (part.node id).linksTo (part.node target) := by
      simp only [Node.linksTo, held.linkClass? inside, held.linkClass? known]
    rw [Option.map_some]
    dsimp only
    rw [together]
    split
    · have declared := indexed.parts.modify inside notRoot
        (fun node => { node with referenceId := some target })
        (fun node => { node with referenceId := some (shift.object target) })
        (fun _ => rfl)
        (by
          rintro other (type | declaration)
          · exact held.linked id other (.inl type)
          · cases declaration
            exact member)
        rfl
      have marked := declared.markForeign (by simpa using known) notFile (part.node id).unit
      simpa [held.object id inside notRoot, Node.rename] using marked
    · exact indexed.parts

theorem link (order : Consecutive shift other part rest whole) :
    Indexed shift other part.link rest.link whole.link := by
  refine Parts.pass Indexed (fun _ outline id => (outline.linkType id).linkDeclaration id)
    (fun outline => outline) part rest whole indexed.parts order Indexed.swap ?_ ?_ ?_
  · intro limit outline id
    exact ((keeps_linkType outline id).trans (keeps_linkDeclaration _ id)).size
  · intro shift other part rest whole id limit longer indexed _ _ inside notRoot
    have typed := indexed.linkType inside notRoot
    exact typed.linkDeclaration ((keeps_linkType part id).size ▸ inside) notRoot
  · obtain ⟨own, all⟩ := indexed.parts.own.plainRoot
    have beside := indexed.parts.beside.plainRoot.1
    simpa only [own.linkType, own.linkDeclaration, beside.linkType, beside.linkDeclaration,
      all.linkType, all.linkDeclaration] using indexed

end Indexed

namespace Parts

variable (parts : Parts shift other part rest whole)
include parts

/-! ### Qualifying names and spreading the global mark -/

theorem qualify (inside : id < part.size) (notRoot : id ≠ root) :
    Parts shift other (part.qualify id) rest (whole.qualify (shift.object id)) := by
  have under := parts.own.qualifierUnder (parts.own.valid.parent_lt_size inside)
  unfold Outline.qualify
  simp only [parts.own.kind inside, parts.own.parent inside, under]
  split
  · exact parts.modify inside notRoot _ _ (fun _ => rfl) (parts.own.linked id) rfl
  · exact parts

theorem inheritGlobal (inside : id < part.size) (notRoot : id ≠ root) :
    Parts shift other (part.inheritGlobal id) rest (whole.inheritGlobal (shift.object id)) := by
  have same : ((whole.node (shift.object id)).parent.any fun parent =>
      (whole.node parent).isGlobal) =
      (part.node id).parent.any fun parent => (part.node parent).isGlobal := by
    rw [parts.own.parent inside]
    cases named : (part.node id).parent with
    | none => rfl
    | some parent => exact parts.own.isGlobal (parts.own.valid.parent_lt_size inside parent named)
  unfold Outline.inheritGlobal
  rw [same]
  split
  · exact parts.modify inside notRoot _ _ (fun _ => rfl) (parts.own.linked id) rfl
  · exact parts

theorem qualifyNames (order : Consecutive shift other part rest whole) :
    Parts shift other part.qualifyNames rest.qualifyNames whole.qualifyNames := by
  refine Parts.pass Parts (fun _ => Outline.qualify) (fun outline => outline) part rest whole
    parts order swap ?_ ?_ ?_
  · intro limit outline id
    exact (keeps_qualify outline id).size
  · intro shift other part rest whole id limit longer parts _ _ inside notRoot
    exact parts.qualify inside notRoot
  · obtain ⟨own, all⟩ := parts.own.plainRoot
    simpa only [own.qualify, parts.beside.plainRoot.1.qualify, all.qualify] using parts

theorem spreadGlobals (order : Consecutive shift other part rest whole) :
    Parts shift other part.spreadGlobals rest.spreadGlobals whole.spreadGlobals := by
  refine Parts.pass Parts (fun _ => Outline.inheritGlobal) (fun outline => outline) part rest
    whole parts order swap ?_ ?_ ?_
  · intro limit outline id
    exact (keeps_inheritGlobal outline id).size
  · intro shift other part rest whole id limit longer parts _ _ inside notRoot
    exact parts.inheritGlobal inside notRoot
  · obtain ⟨own, all⟩ := parts.own.plainRoot
    simpa only [own.inheritGlobal, parts.beside.plainRoot.1.inheritGlobal, all.inheritGlobal]
      using parts

end Parts

end Outline

end DebugOutline
