import DebugOutline.Proofs.Origin
import DebugOutline.Proofs.Parts

/-! The entries of units placed after those of other units. If they name no entry of the others,
they come to stand beside them as they would stand alone. -/
namespace DebugOutline

open Dwarf (Entry LineRow UnitRecord)

/-! ### Objects of units that are counted on -/

section Counting

variable {shift : Renaming} (still : shift.Still) (unit : UnitRecord) (unitIndex : Nat)
include still

private theorem map_offset (offset : Option UInt64) : offset.map shift.offset = offset := by
  cases offset with
  | none => rfl
  | some offset => exact congrArg some (still offset)

theorem Reading.node_rename (entry : Entry) (role : Role) (inAggregate : Bool) :
    (Reading.node unit (unitIndex + shift.units) entry role inAggregate).value =
      (Reading.node unit unitIndex entry role inAggregate).value.rename shift := by
  unfold Reading.node
  simp only [Reading.value_bind]
  split <;> simp [Node.rename, map_offset still, still entry.offset]

omit still in
theorem Node.ofRow_rename (row : LineRow) : Node.ofRow unit (unitIndex + shift.units) row =
    (Node.ofRow unit unitIndex row).rename shift := by
  simp [Node.ofRow, Node.rename]

end Counting

theorem Node.adopt_rename (shift : Renaming) (owner : Node) (id : Nat) (kind : Kind) :
    (owner.rename shift).adopt (shift.object id) kind = (owner.adopt id kind).rename shift := by
  unfold adopt
  split <;> simp [rename]

namespace Outline

variable {shift : Renaming} {part whole : Outline} {id parent target : Nat}

/-! ### One object added -/

/-- An object that nothing is listed under and that is linked to nothing. -/
structure Bare (node : Node) : Prop where
  children : node.children = #[]
  lines : node.lines = #[]
  typeId : node.typeId = none
  referenceId : node.referenceId = none

theorem LinksInside.insert (linked : part.LinksInside) {node : Node} (bare : Bare node)
    (inside : parent < part.size) : (part.insert node parent).2.LinksInside := by
  intro id target named
  rw [objects_insert inside]
  apply List.mem_append_left
  rw [node_insert inside] at named
  split at named
  · simp [placed, bare.typeId, bare.referenceId] at named
  · split at named
    · refine linked id target ?_
      unfold Node.adopt at named
      split at named <;> exact named
    · exact linked id target named

theorem withoutChildren_insert_root (present : 0 < part.size) (inside : parent < part.size)
    {node : Node} (notRow : parent = root → node.kind ≠ .codeLine) :
    ((part.insert node parent).2.node root).withoutChildren =
      (part.node root).withoutChildren := by
  have older : root ≠ part.size := Nat.ne_of_lt present
  rw [node_insert inside, if_neg older]
  split
  · rename_i same
    simp [Node.adopt, notRow same.symm, Node.withoutChildren]
  · rfl

namespace Embeds

variable (held : Embeds shift part whole)
include held

theorem placed (inside : parent < part.size) (node : Node) :
    whole.placed (node.rename shift) (shift.object parent) =
      (part.placed node parent).rename shift := by
  have level : whole.levelUnder (shift.object parent) (node.rename shift).kind =
      part.levelUnder parent node.kind := by
    unfold levelUnder
    simp only [held.level inside, Renaming.object_eq_root]
    rfl
  unfold Outline.placed
  rw [level]
  rfl

/-- The part and the whole get the same object, which is the last in both. -/
theorem insert (last : whole.size = part.size + shift.objects) {node : Node} (bare : Bare node)
    (inside : parent < part.size) (notRow : parent = root → node.kind ≠ .codeLine) :
    Embeds shift (part.insert node parent).2
      (whole.insert (node.rename shift) (shift.object parent)).2 where
  valid := held.valid.insert bare.children bare.lines inside
  linked := held.linked.insert bare inside
  size := by
    simp only [size_insert, last]
    omega
  object id known notFile := by
    have newest : shift.object part.size = whole.size := by
      rw [Renaming.object_of_ne (Nat.ne_of_gt held.valid.root_present), last]
    rw [size_insert] at known
    rw [node_insert (held.object_lt inside), node_insert inside, ← newest]
    simp only [Renaming.object_inj]
    by_cases added : id = part.size
    · rw [if_pos added, if_pos added]
      exact held.placed inside node
    · have same := held.object id (by omega) notFile
      rw [if_neg added, if_neg added, same]
      split
      · exact Node.adopt_rename shift _ part.size node.kind
      · rfl
  file := by
    obtain ⟨input, own, all⟩ := held.file
    refine ⟨input, ?_, ?_⟩
    · rwa [withoutChildren_insert_root held.valid.root_present inside notRow]
    · rwa [withoutChildren_insert_root (Nat.zero_lt_of_lt (held.object_lt inside))
        (held.object_lt inside) (by simpa using notRow)]

/-- The whole gets an object under one that is not of the part. -/
theorem insert_beside {node : Node} (inside : target < whole.size)
    (apart : ∀ id < part.size, id ≠ root → shift.object id ≠ target)
    (notRow : target = root → node.kind ≠ .codeLine) :
    Embeds shift part (whole.insert node target).2 where
  valid := held.valid
  linked := held.linked
  size := by
    rw [size_insert]
    exact Nat.le_succ_of_le held.size
  object id known notFile := by
    rw [node_insert inside, if_neg (Nat.ne_of_lt (held.object_lt known)),
      if_neg (apart id known notFile)]
    exact held.object id known notFile
  file := by
    obtain ⟨input, own, all⟩ := held.file
    refine ⟨input, own, ?_⟩
    rwa [withoutChildren_insert_root (Nat.zero_lt_of_lt (held.object_lt held.valid.root_present))
      inside notRow]

end Embeds

/-! ### Two outlines side by side -/

theorem Embeds.refl (valid : whole.WellFormed) (linked : whole.LinksInside)
    (plain : whole.PlainRoot) : Embeds .first whole whole where
  valid := valid
  linked := linked
  size := Nat.le_refl _
  object id _ _ := by rw [Renaming.object_first, Node.rename_first, id_eq]
  file := plain.imp fun _ same => ⟨same, same⟩

/-- An input file with nothing in it. -/
theorem Embeds.empty {input : String}
    (same : (whole.node root).withoutChildren = .ofInput input)
    (room : shift.objects + 1 ≤ whole.size) : Embeds shift (.empty input) whole where
  valid := .empty input
  linked := (Draft.Sound.empty [] input).linksInside
  size := by
    rw [Nat.add_comm]
    exact room
  object id inside notRoot := absurd (Nat.lt_one_iff.mp inside) notRoot
  file := ⟨input, rfl, same⟩

/-- An outline with the objects of two others, those of the first before those of the second. -/
structure Joins (shift : Renaming) (first second both : Outline) : Prop where
  next : shift.objects + 1 = first.size
  size : both.size = second.size + shift.objects
  own : Embeds .first first both
  beside : Embeds shift second both
  children : (both.node root).children.toList = (first.node root).children.toList ++
    (second.node root).children.toList.map shift.object
  find : ∀ offset, both.find? offset =
    ((second.find? offset).map shift.object).or (first.find? offset)

namespace Joins

variable {first second both : Outline}

/-- Nothing beside an outline yet. -/
theorem start {input : String} (valid : first.WellFormed) (linked : first.LinksInside)
    (file : (first.node root).withoutChildren = .ofInput input)
    (next : shift.objects + 1 = first.size) : Joins shift first (.empty input) first where
  next := next
  size := by
    rw [← next, Nat.add_comm]
    rfl
  own := .refl valid linked ⟨input, file⟩
  beside := .empty file next.le
  children := by
    have none : ((Outline.empty input).node root).children = #[] := rfl
    simp [none]
  find offset := by
    have none : (Outline.empty input).find? offset = none := Std.HashMap.getElem?_empty
    rw [none]
    rfl

variable (joins : Joins shift first second both)
include joins

/-- Objects of the second outline come after those of the first. -/
theorem size_le_object (notRoot : id ≠ root) : first.size ≤ shift.object id := by
  have next := joins.next
  rw [Renaming.object_of_ne notRoot]
  unfold root at notRoot
  omega

/-- The next object of the second outline is the next object of both. -/
theorem newest : shift.object second.size = both.size := by
  rw [Renaming.object_of_ne (Nat.ne_of_gt joins.beside.valid.root_present), joins.size]

theorem parts : Parts .first shift first second both where
  own := joins.own
  beside := joins.beside
  apart id inside _ stranger _ notFile := by
    have later := joins.size_le_object notFile
    rw [Renaming.object_first, id_eq]
    omega

theorem consecutive : Consecutive .first shift first second both := by
  have next := joins.next
  have present := joins.beside.valid.root_present
  have size : both.size = first.size + (second.size - 1) := by
    rw [joins.size]
    omega
  have beside : second.ids.tail.map shift.object = List.range' first.size (second.size - 1) := by
    have counted : ∀ id ∈ second.ids.tail, shift.object id = shift.objects + id := by
      intro id member
      rw [Renaming.object_of_ne (mem_ids_tail member).2, Nat.add_comm]
    rw [List.map_congr_left counted, ids, List.range_eq_range', List.tail_range',
      List.map_add_range', ← next]
  unfold Consecutive
  rw [Renaming.object_first, List.map_id, beside, ← List.cons_append,
    ← joins.own.valid.ids_eq_cons, ids, ids, size, List.range_eq_range', List.range_eq_range',
    ← List.range'_append_1, Nat.zero_add]

/-- Both get the same object under an object of the second. -/
theorem insert (still : shift.Still) {node : Node} (bare : Bare node)
    (inside : parent < second.size) (notRow : parent = root → node.kind ≠ .codeLine) :
    Joins shift first (second.insert node parent).2
      (both.insert (node.rename shift) (shift.object parent)).2 where
  next := joins.next
  size := by
    rw [size_insert, size_insert, joins.size]
    omega
  own := by
    refine joins.own.insert_beside (joins.beside.object_lt inside) ?_ (by simpa using notRow)
    intro id known notFile same
    rw [Renaming.object_first, id_eq] at same
    by_cases top : parent = root
    · rw [top, Renaming.object_root] at same
      exact notFile same
    · have later := joins.size_le_object top
      omega
  beside := joins.beside.insert joins.size bare inside notRow
  children := by
    have older : root ≠ second.size := Nat.ne_of_lt joins.beside.valid.root_present
    have alsoOlder : root ≠ both.size :=
      Nat.ne_of_lt (Nat.zero_lt_of_lt (joins.beside.object_lt inside))
    rw [node_insert (joins.beside.object_lt inside), if_neg alsoOlder, node_insert inside,
      if_neg older]
    by_cases top : parent = root
    · subst top
      simp [Node.adopt_children, joins.children, notRow rfl, joins.newest]
    · have apart : root ≠ shift.object parent := Ne.symm (by simpa using top)
      rw [if_neg apart, if_neg (Ne.symm top), joins.children]
  find offset := by
    rw [find?_insert, find?_insert, Node.offset_rename still, Node.kind_rename, joins.find]
    split
    · rw [Option.map_some, joins.newest]
      rfl
    · rfl

/-- Both change the same object of the second, without moving it or linking it. -/
theorem modify (inside : id < second.size) (notRoot : id ≠ root) (change changed : Node → Node)
    (skeleton : ∀ node, (change node).skeleton = node.skeleton)
    (linked : ∀ target, (change (second.node id)).typeId = some target ∨
      (change (second.node id)).referenceId = some target → target ∈ second.objects)
    (same : changed ((second.node id).rename shift) = (change (second.node id)).rename shift) :
    Joins shift first (second.modify id change) (both.modify (shift.object id) changed) where
  next := joins.next
  size := by simpa using joins.size
  own := (joins.parts.swap.modify inside notRoot change changed skeleton linked same).beside
  beside := joins.beside.modify inside notRoot skeleton linked same
  children := by
    have apart : root ≠ shift.object id := Ne.symm (by simpa using notRoot)
    simpa [node_modify, apart, notRoot.symm] using joins.children
  find := joins.find

theorem markTemplate (inside : parent < second.size) :
    Joins shift first (Draft.markTemplate second parent)
      (Draft.markTemplate both (shift.object parent)) := by
  have makes : Draft.makesTemplate (both.node (shift.object parent)) =
      Draft.makesTemplate (second.node parent) :=
    joins.beside.read Draft.makesTemplate (fun _ _ _ _ _ => rfl) inside
  unfold Draft.markTemplate
  rw [makes]
  split
  · rename_i owner
    have notRoot : parent ≠ root := by
      intro top
      have isFile : (second.node root).kind = .inputFile :=
        joins.beside.plainRoot.1.read Node.kind (fun _ => rfl) fun _ => rfl
      simp [Draft.makesTemplate, top, isFile, Kind.endsScopes] at owner
    exact joins.modify inside notRoot _ _ (fun _ => rfl) (joins.beside.linked parent) rfl
  · exact joins

theorem addRows (still : shift.Still) (unit : UnitRecord) (unitIndex : Nat)
    (inside : parent < second.size) (notRoot : parent ≠ root) :
    Joins shift first (Draft.addRows unit unitIndex parent second)
      (Draft.addRows unit (unitIndex + shift.units) (shift.object parent) both) := by
  unfold Draft.addRows
  rw [← Array.foldl_toList, ← Array.foldl_toList]
  generalize unit.rows.toList = rows
  induction rows generalizing second both with
  | nil => exact joins
  | cons row rows ih =>
    have bare : Bare (Node.ofRow unit unitIndex row) := ⟨rfl, rfl, rfl, rfl⟩
    have next := joins.insert still bare inside fun top => absurd top notRoot
    rw [← Node.ofRow_rename] at next
    exact ih next (by rw [size_insert]; omega)

/-- Both place the same entry. -/
theorem place (still : shift.Still) (unit : UnitRecord) (unitIndex : Nat) (entry : Entry)
    {role : Role} (inside : parent < second.size) (notRow : role.kind ≠ .codeLine) :
    Joins shift first (Draft.place second unit unitIndex entry role parent)
      (Draft.place both unit (unitIndex + shift.units) entry role (shift.object parent)) := by
  have isOf := Reading.node_isOf unit unitIndex entry role (second.node parent).kind.isAggregate
  have bare : Bare _ := ⟨isOf.children, isOf.lines, isOf.typeId, isOf.referenceId⟩
  have inserted := joins.insert still bare inside fun _ => isOf.kind ▸ notRow
  have present : second.size < (second.insert (Reading.node unit unitIndex entry role
      (second.node parent).kind.isAggregate).value parent).2.size := by
    rw [size_insert]
    omega
  unfold Draft.place Draft.afterPlacing
  dsimp only
  rw [joins.beside.kind inside, Reading.node_rename still, ← joins.newest]
  split
  · exact inserted.addRows still unit unitIndex present
      (Nat.ne_of_gt joins.beside.valid.root_present)
  · exact inserted.markTemplate (Nat.lt_trans inside present)
  · exact inserted

end Joins

end Outline

end DebugOutline
