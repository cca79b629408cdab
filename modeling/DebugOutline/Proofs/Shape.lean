import DebugOutline.Proofs.Fields
import DebugOutline.Proofs.Searching
import DebugOutline.Proofs.Walk

/-! The document of an outline: its header, then a block for everything that is listed, in the
order of a walk. The margin in front of a block says how deep its object is nested, so the tree of
kinds can be read back from the text. -/
namespace DebugOutline

open Dwarf (UnitRecord)

/-- The kind of an object with those of the objects below it. -/
inductive KindTree where
  | node (kind : Kind) (below : List KindTree)

namespace Outline

variable {outline : Outline} {id other steps limit depth : Nat}

/-- Everything below the input file with its depth: every object before what is below it. -/
def listed (outline : Outline) : List Shown := (outline.walk {} (outline.size + 1) root 0).tail

/-- An object and everything below it by kind. Children are younger than their parents, so no
nesting is deeper than the outline. -/
def kindTrees (outline : Outline) : Nat → NodeId → List KindTree
  | 0, _ => []
  | limit + 1, id =>
    [.node (outline.node id).kind ((outline.below id).flatMap (outline.kindTrees limit))]

/-- Everything below the input file by kind. -/
def forest (outline : Outline) : List KindTree :=
  (outline.below root).flatMap (outline.kindTrees outline.size)

namespace Document

/-- The last field of an object, in front of its children. -/
def childrenField (outline : Outline) (id : NodeId) : String :=
  if outline.below id = [] then "children: []" else "children:"

/-- The lines of one object, which are more than its fields if a name holds line feeds. -/
def entryLines (outline : Outline) (shown : Shown) : List String :=
  itemLines (indentAt shown.depth)
    (Text.lines (String.intercalate "\n" (fields outline shown.id)) ++
      [childrenField outline shown.id])

/-- The lines of one object whose names hold no line feeds. -/
def block (outline : Outline) (shown : Shown) : List String :=
  itemLines (indentAt shown.depth) (fields outline shown.id ++ [childrenField outline shown.id])

/-- The first line of a block says how deep and of what kind the object is, and no other line looks
like it. What stands as far to the right as its first key are the seven keys. -/
structure IsBlock (outline : Outline) (shown : Shown) (lines : List String) : Prop where
  head : lines.head? = some (Text.blanks (4 * shown.depth - 2) ++
    "- object: \"" ++ (outline.node shown.id).kind.name ++ "\"")
  rest : ∀ line ∈ lines.tail, opensObject line = false
  keys : lines.filterMap (keyAt (4 * shown.depth)) =
    ["object", "name", "type", "source", "dwarf", "attributes", "children"]
  childless : Text.blanks (4 * shown.depth) ++ "children: []" ∈ lines ↔ outline.below shown.id = []

/-! ### Reading the tree -/

/-- The margin and the kind of a line that starts an object. -/
def entry? (line : String) : Option (Nat × Kind) :=
  let mark := String.ofList (line.toList.dropWhile (· == ' '))
  (Kind.all.find? fun kind => mark == "- object: \"" ++ kind.name ++ "\"").map fun kind =>
    ((line.toList.takeWhile (· == ' ')).length, kind)

/-- Put an object in front of those that were read after it. The ones that are farther to the right
are below it, up to the first that is not. -/
def plant (entry : Nat × Kind) (trees : List (Nat × KindTree)) : List (Nat × KindTree) :=
  let deeper (tree : Nat × KindTree) : Bool := entry.1 < tree.1
  (entry.1, .node entry.2 ((trees.takeWhile deeper).map (·.2))) :: trees.dropWhile deeper

/-- The tree that the margins of a document tell. -/
def readForest (text : String) : List KindTree :=
  (((Text.lines text).filterMap entry?).foldr plant []).map (·.2)

/-- What a document has to be. -/
structure Shape (outline : Outline) : Prop where
  text : outline.yaml = Text.unlines (header outline ++ outline.listed.flatMap (block outline))
  lines : Text.lines outline.yaml = header outline ++ outline.listed.flatMap (block outline)
  reached : ∀ id, id ∈ outline.listed.map Shown.id ↔
    Relation.TransGen (fun owner child => child ∈ outline.below owner) root id
  once : (outline.listed.map Shown.id).Nodup
  depth : ∀ shown ∈ outline.listed, shown.depth = (outline.ancestry shown.id).tail.length
  header : ∀ line ∈ header outline, opensObject line = false
  blocks : ∀ shown ∈ outline.listed, IsBlock outline shown (block outline shown)
  forest : readForest outline.yaml = outline.forest

end Document

/-! ### What is listed -/

theorem visited_initial (outline : Outline) (id : NodeId) :
    outline.visited {} id = outline.below id := rfl

theorem listed_eq (outline : Outline) : outline.listed =
    (outline.below root).flatMap fun child => outline.walk {} outline.size child 1 := rfl

namespace WellFormed

variable (valid : outline.WellFormed)
include valid

theorem exists_leads_iff_reflTransGen (inside : id < outline.size) :
    (∃ steps, outline.Leads (fun _ => True) id other steps) ↔
      Relation.ReflTransGen (fun owner child => child ∈ outline.below owner) id other := by
  constructor
  · rintro ⟨steps, leads⟩
    induction leads with
    | here => exact .refl
    | down _ named listed _ ih =>
      exact .head (valid.mem_below.mpr ⟨named, listed⟩) (ih (valid.of_parent named).1)
  · intro reached
    induction reached using Relation.ReflTransGen.head_induction_on with
    | refl => exact ⟨0, .here inside⟩
    | head child _ ih =>
      obtain ⟨named, listed⟩ := valid.mem_below.mp child
      obtain ⟨steps, leads⟩ := ih (valid.of_parent named).1
      exact ⟨steps + 1, .down trivial named listed leads⟩

theorem ancestry_length (leads : outline.Leads (fun _ => True) id other steps) :
    (outline.ancestry other).length = (outline.ancestry id).length + steps := by
  induction leads with
  | here => rfl
  | down _ named _ _ ih =>
    rw [valid.ancestry_of_parent named, List.length_cons] at ih
    omega

/-- What is listed is what can be reached below the file, at the depth of its nesting. -/
theorem mem_listed {shown : Shown} : shown ∈ outline.listed ↔
    Relation.TransGen (fun owner child => child ∈ outline.below owner) root shown.id ∧
      shown.depth = (outline.ancestry shown.id).tail.length := by
  have file := valid.ancestry_of_none valid.root_parent
  have walked {child : Nat} (member : child ∈ outline.below root) :
      shown ∈ outline.walk {} outline.size child 1 ↔
        ∃ steps, outline.Leads (fun _ => True) child shown.id steps ∧ shown.depth = 1 + steps :=
    mem_walk valid {} (Nat.le_add_left _ _) (valid.of_parent (valid.mem_below.mp member).1).1 1
  have deep {child steps : Nat} (member : child ∈ outline.below root)
      (leads : outline.Leads (fun _ => True) child shown.id steps) :
      (outline.ancestry shown.id).tail.length = 1 + steps := by
    have nested := valid.ancestry_of_parent (valid.mem_below.mp member).1
    rw [List.length_tail, valid.ancestry_length leads, nested, file]
    simp
  rw [listed_eq, List.mem_flatMap, Relation.TransGen.head'_iff]
  constructor
  · rintro ⟨child, member, listed⟩
    obtain ⟨steps, leads, depth⟩ := (walked member).mp listed
    have inside := (valid.of_parent (valid.mem_below.mp member).1).1
    exact ⟨⟨child, member, (valid.exists_leads_iff_reflTransGen inside).mp ⟨steps, leads⟩⟩,
      depth.trans (deep member leads).symm⟩
  · rintro ⟨⟨child, member, reached⟩, depth⟩
    have inside := (valid.of_parent (valid.mem_below.mp member).1).1
    obtain ⟨steps, leads⟩ := (valid.exists_leads_iff_reflTransGen inside).mpr reached
    exact ⟨child, member, (walked member).mpr ⟨steps, leads, depth.trans (deep member leads)⟩⟩

theorem listed_nodup : (outline.listed.map Shown.id).Nodup := by
  have enough : outline.size ≤ root + (outline.size + 1) := by simp [root]
  have all := walk_nodup valid {} enough valid.root_present 0
  rw [walk, List.map_cons] at all
  exact all.of_cons

end WellFormed

/-- An object that is listed is not the file. -/
theorem WellFormed.depth_pos (valid : outline.WellFormed) {shown : Shown}
    (listed : shown ∈ outline.listed) : 0 < shown.depth := by
  obtain ⟨child, member, walked⟩ := List.mem_flatMap.mp (listed_eq outline ▸ listed)
  have inside := (valid.of_parent (valid.mem_below.mp member).1).1
  obtain ⟨steps, -, depth⟩ := (mem_walk valid {} (Nat.le_add_left _ _) inside 1).mp walked
  omega

namespace Document

variable {indent field : String} {keys lines : List String}

/-! ### Entries -/

theorem itemLines_concat (full : lines ≠ []) (last : String) :
    itemLines indent (lines ++ [last]) = itemLines indent lines ++ [indent ++ "  " ++ last] := by
  cases lines with
  | nil => exact absurd rfl full
  | cons first rest => simp [itemLines]

/-- The fields of an object are lines of which the first says of what kind it is. -/
theorem head?_lines_fields (outline : Outline) (id : NodeId) :
    (Text.lines (String.intercalate "\n" (fields outline id))).head? =
      some ("object: \"" ++ (outline.node id).kind.name ++ "\"") := by
  obtain ⟨rest, spelled⟩ := List.head?_eq_some_iff.mp (head?_fields outline id)
  have own : ∀ kind ∈ Kind.all, Text.IsLine ("object: \"" ++ kind.name ++ "\"") ∧
      "object: \"" ++ kind.name ++ "\"" ≠ "" := by
    decide +kernel
  obtain ⟨line, full⟩ := own (outline.node id).kind (by cases (outline.node id).kind <;> decide)
  rw [spelled, Text.head?_lines_intercalate line full]

/-- The first line of an object is its mark, with its kind, at the margin of its depth. -/
theorem head?_entryLines (outline : Outline) (shown : Shown) :
    (entryLines outline shown).head? = some (indentAt shown.depth ++
      "- object: \"" ++ (outline.node shown.id).kind.name ++ "\"") := by
  obtain ⟨rest, lines⟩ := List.head?_eq_some_iff.mp (head?_lines_fields outline shown.id)
  have mark : "- " ++ "object: \"" = "- object: \"" := by decide
  rw [entryLines, lines, List.cons_append, itemLines, List.head?_cons, ← mark]
  simp only [String.append_assoc]

/-- An item is the lines of the objects that a walk gets to. -/
theorem item_eq (limit : Nat) (id : NodeId) (depth : Nat) : item outline limit id depth =
    (outline.walk {} limit id depth).flatMap (entryLines outline) := by
  induction limit generalizing id depth with
  | zero => rfl
  | succ limit ih =>
    have full : Text.lines (String.intercalate "\n" (fields outline id)) ≠ [] := by
      intro none
      have head := head?_lines_fields outline id
      rw [none] at head
      cases head
    rw [item, walk, List.flatMap_cons, List.flatMap_assoc, visited_initial, entryLines,
      itemLines_concat full, List.append_assoc]
    congr 1
    unfold childrenField
    by_cases none : outline.below id = []
    · simp [none, String.append_assoc]
    · simp [none, ih, String.append_assoc]

/-- The document is its header, then every listed object with its own lines. -/
theorem yaml_eq_entries (rowless : (outline.node root).lines = #[]) : outline.yaml =
    Text.unlines (header outline ++ outline.listed.flatMap (entryLines outline)) := by
  have below : outline.below root = outline.children root := by simp [Outline.below, rowless]
  unfold yaml yamlHeader yamlItem
  rw [Text.unlines_append, listed_eq, below, List.flatMap_assoc, Text.unlines_flatMap]
  simp only [item_eq]

/-! ### Blocks -/

section Item

variable (listing : Listing keys lines)
include listing

theorem keys_itemLines (blank : ∀ c ∈ indent.toList, (c == ' ') = true) :
    (itemLines indent lines).filterMap (keyAt (indent.toList.length + 2)) = keys := by
  have shifted (mark line : String) (two : mark.toList.length = 2)
      (margin : mark.toList.all isMargin = true) :
      keyAt (indent.toList.length + 2) (indent ++ mark ++ line) = keyAt 0 line := by
    have moved := keyAt_indent (indent ++ mark) ?_ 0 line
    · simpa [two] using moved
    · intro c member
      rw [String.toList_append, List.mem_append] at member
      rcases member with before | after
      · simp [isMargin, beq_iff_eq.mp (blank c before)]
      · exact List.all_eq_true.mp margin c after
  have first (line : String) := shifted "- " line (by decide) (by decide)
  have later (line : String) := shifted "  " line (by decide) (by decide)
  rw [← listing.keys]
  cases lines with
  | nil => rfl
  | cons line rest => simp [itemLines, List.filterMap_cons, first, List.filterMap_map, later]

theorem isLine_itemLines (blank : Text.IsLine indent) :
    ∀ line ∈ itemLines indent lines, Text.IsLine line := by
  cases lines with
  | nil => simp [itemLines]
  | cons first rest =>
    obtain ⟨own, others⟩ := List.forall_mem_cons.mp listing.line
    refine List.forall_mem_cons.mpr ⟨?_, fun line member => ?_⟩
    · exact .append (.append blank (.spelled _ (by decide))) own.1
    · obtain ⟨field, listed, rfl⟩ := List.mem_map.mp member
      exact .append (.append blank (.spelled _ (by decide))) (others field listed).1

theorem tail_itemLines (blank : ∀ c ∈ indent.toList, (c == ' ') = true) :
    ∀ line ∈ (itemLines indent lines).tail, opensObject line = false := by
  cases lines with
  | nil => simp [itemLines]
  | cons first rest =>
    intro line member
    obtain ⟨field, listed, rfl⟩ := List.mem_map.mp member
    rw [opensObject_indent (indent ++ "  ")]
    · exact listing.apart field (.tail _ listed)
    · simpa [or_imp] using blank

end Item

theorem blank_blanks (count : Nat) : ∀ c ∈ (Text.blanks count).toList, (c == ' ') = true := by
  simp [Text.blanks]

theorem length_blanks (count : Nat) : (Text.blanks count).toList.length = count := by
  simp [Text.blanks]

theorem indentAt_eq (depth : Nat) : indentAt depth = Text.blanks (4 * depth - 2) := by
  unfold indentAt
  congr 1
  omega

/-- The fields of an object stand two blanks to the right of its mark. -/
theorem indentAt_append (deep : 0 < depth) : indentAt depth ++ "  " = Text.blanks (4 * depth) := by
  have width : 4 * depth = (4 * depth - 2) + 2 := by omega
  rw [indentAt_eq, width, ← String.toList_inj]
  simp [Text.blanks, List.replicate_add]

section Block

variable (feedFree : outline.FeedFree) (numeric : ∀ id, (outline.node id).detail.IsNumeric)
include feedFree numeric

theorem listing_block (id : NodeId) :
    Listing ["object", "name", "type", "source", "dwarf", "attributes", "children"]
      (fields outline id ++ [childrenField outline id]) := by
  have last : Listing ["children"] [childrenField outline id] := by
    unfold childrenField
    split <;> exact .bare (by decide) .nil
  exact (listing_fields feedFree id numeric).append last

theorem isLine_block (shown : Shown) : ∀ line ∈ block outline shown, Text.IsLine line :=
  isLine_itemLines (listing_block feedFree numeric shown.id) (.blanks _)

/-- No other field looks like the last one. -/
theorem children_notMem_fields (id : NodeId) : "children: []" ∉ fields outline id := by
  intro member
  have listing := listing_fields feedFree id numeric
  have key : keyAt 0 "children: []" = some "children" := by decide +kernel
  have named := List.mem_filterMap.mpr ⟨_, member, key⟩
  rw [listing.keys] at named
  revert named
  decide

theorem isBlock_block (shown : Shown) (deep : 0 < shown.depth) :
    IsBlock outline shown (block outline shown) := by
  have listing := listing_block feedFree numeric shown.id
  have blank := blank_blanks ((shown.depth * 2 - 1) * 2)
  obtain ⟨rest, named⟩ := List.head?_eq_some_iff.mp (head?_fields outline shown.id)
  constructor
  case head =>
    have mark : "- " ++ "object: \"" = "- object: \"" := by decide
    unfold block
    rw [named, indentAt_eq]
    simp only [itemLines, List.cons_append, List.head?_cons, String.append_assoc]
    rw [← mark, String.append_assoc]
  case rest => exact tail_itemLines listing blank
  case keys =>
    have column : 4 * shown.depth = (indentAt shown.depth).toList.length + 2 := by
      rw [indentAt_eq, length_blanks]
      omega
    rw [column]
    exact keys_itemLines listing blank
  case childless =>
    have absent := children_notMem_fields feedFree numeric shown.id
    have own : childrenField outline shown.id = "children: []" ↔ outline.below shown.id = [] := by
      unfold childrenField
      split <;> simp_all
    have head (first : String) :
        indentAt shown.depth ++ "  " ++ "children: []" ≠ indentAt shown.depth ++ "- " ++ first := by
      simp [String.append_assoc, ← String.toList_inj]
    unfold block
    rw [← indentAt_append deep, named]
    rw [named] at absent
    rw [List.cons_append, itemLines, List.mem_cons, List.mem_map, ← own]
    constructor
    · rintro (first | ⟨field, member, same⟩)
      · exact absurd first (head _)
      · rw [String.append_right_inj] at same
        rcases List.mem_append.mp member with earlier | last
        · exact absurd (.tail _ (same ▸ earlier)) absent
        · exact (List.mem_singleton.mp last).symm.trans same
    · intro last
      exact .inr ⟨_, List.mem_append_right _ (List.mem_singleton_self _), by rw [last]⟩

/-! ### The document as lines -/

/-- Without line feeds in names, an object has one line for each field. -/
theorem entryLines_eq_block (shown : Shown) : entryLines outline shown = block outline shown := by
  have listing := listing_fields feedFree shown.id numeric
  unfold entryLines
  rw [Text.lines_intercalate (fun line member => (listing.line line member).1)
    (fun line member => (listing.line line member).2)]
  rfl

theorem yaml_eq (rowless : (outline.node root).lines = #[]) : outline.yaml =
    Text.unlines (header outline ++ outline.listed.flatMap (block outline)) := by
  rw [yaml_eq_entries rowless,
    List.flatMap_congr fun shown _ => entryLines_eq_block feedFree numeric shown]

omit numeric in
theorem listing_header : Listing ["input_file", "output_version", "objects"] (header outline) :=
  .keyed (by decide) (.quote (feedFree.name root))
    (.keyed (by decide) (.quote (by decide)) (.bare (by decide) .nil))

end Block

/-! ### The tree -/

theorem entry?_of_not_opens {line : String} (other : opensObject line = false) :
    entry? line = none := by
  unfold entry?
  rw [Option.map_eq_none_iff, List.find?_eq_none]
  intro kind _ same
  have mark : line.toList.dropWhile (· == ' ') =
      "- object: ".toList ++ ("\"" ++ kind.name ++ "\"").toList := by
    rw [← String.toList_ofList (l := line.toList.dropWhile (· == ' ')), beq_iff_eq.mp same]
    simp
  unfold opensObject at other
  rw [mark, List.isPrefixOf_iff_prefix.mpr (List.prefix_append _ _)] at other
  cases other

theorem entry?_head (count : Nat) (kind : Kind) :
    entry? (Text.blanks count ++ "- object: \"" ++ kind.name ++ "\"") = some (count, kind) := by
  have known : Kind.all.find? (fun other => kind.name == other.name) = some kind := by
    cases kind <;> rfl
  have named (other : Kind) : ("- object: \"" ++ kind.name ++ "\"" ==
      "- object: \"" ++ other.name ++ "\"") = (kind.name == other.name) := by
    rw [Bool.eq_iff_iff, beq_iff_eq, beq_iff_eq, String.append_left_inj, String.append_right_inj]
  have blank := blank_blanks count
  have first : ("- object: \"" ++ kind.name ++ "\"").toList.head? = some '-' := by simp
  have whole : Text.blanks count ++ "- object: \"" ++ kind.name ++ "\"" =
      Text.blanks count ++ ("- object: \"" ++ kind.name ++ "\"") := by
    simp only [String.append_assoc]
  obtain ⟨rest, marked⟩ := List.head?_eq_some_iff.mp first
  unfold entry?
  rw [whole, String.toList_append, List.takeWhile_append_of_pos blank,
    List.dropWhile_append_of_pos blank, marked, List.takeWhile_cons_of_neg (by decide),
    List.dropWhile_cons_of_neg (by decide), ← marked, String.ofList_toList]
  simp only [named, known]
  simp [length_blanks]

/-- The margin and kind of what a block is about. -/
def entryOf (outline : Outline) (shown : Shown) : Nat × Kind :=
  (4 * shown.depth - 2, (outline.node shown.id).kind)

/-- A block is read as one object. -/
theorem IsBlock.entries {shown : Shown} (isBlock : IsBlock outline shown lines) :
    lines.filterMap entry? = [entryOf outline shown] := by
  obtain ⟨rest, rfl⟩ := List.head?_eq_some_iff.mp isBlock.head
  have others : rest.filterMap entry? = [] :=
    List.filterMap_eq_nil_iff.mpr fun line member => entry?_of_not_opens (isBlock.rest line member)
  rw [List.filterMap_cons, entry?_head, others, entryOf]

/-- Whether what was read so far does not go on below a margin. -/
def EndsBelow (margin : Nat) (trees : List (Nat × KindTree)) : Prop :=
  ∀ tree ∈ trees.head?, tree.1 ≤ margin

/-- Objects farther to the right are put below, and nothing else is. -/
theorem plant_append (entry : Nat × Kind) {margin : Nat} (deeper : entry.1 < margin)
    (below : List KindTree) {trees : List (Nat × KindTree)} (ends : EndsBelow entry.1 trees) :
    plant entry (below.map (margin, ·) ++ trees) = (entry.1, .node entry.2 below) :: trees := by
  have inner : ∀ tree ∈ below.map (margin, ·), decide (entry.1 < tree.1) = true := by
    intro tree member
    obtain ⟨tree, -, rfl⟩ := List.mem_map.mp member
    exact decide_eq_true deeper
  have stops : trees.takeWhile (fun tree => decide (entry.1 < tree.1)) = [] ∧
      trees.dropWhile (fun tree => decide (entry.1 < tree.1)) = trees := by
    cases trees with
    | nil => exact ⟨rfl, rfl⟩
    | cons tree trees =>
      have shallow : ¬ decide (entry.1 < tree.1) = true := by
        simpa using ends tree rfl
      exact ⟨List.takeWhile_cons_of_neg shallow, List.dropWhile_cons_of_neg shallow⟩
  unfold plant
  dsimp only
  rw [List.takeWhile_append_of_pos inner, List.dropWhile_append_of_pos inner, stops.1, stops.2]
  simp

theorem EndsBelow.append {margin : Nat} {trees : List (Nat × KindTree)}
    (ends : EndsBelow margin trees) (siblings : List KindTree) :
    EndsBelow margin (siblings.map (margin, ·) ++ trees) := by
  cases siblings with
  | nil => exact ends
  | cons sibling siblings =>
    intro tree first
    rw [← Option.some.inj first]

/-- Siblings are read from the last one on, each in front of those that follow it. -/
theorem foldr_plant_siblings {limit depth : Nat}
    (each : ∀ (child : NodeId) {trees}, EndsBelow (4 * depth - 2) trees →
      ((outline.walk {} limit child depth).map (entryOf outline)).foldr plant trees =
        (outline.kindTrees limit child).map (4 * depth - 2, ·) ++ trees)
    (siblings : List NodeId) {trees : List (Nat × KindTree)}
    (ends : EndsBelow (4 * depth - 2) trees) :
    ((siblings.flatMap fun child => outline.walk {} limit child depth).map
        (entryOf outline)).foldr plant trees =
      (siblings.flatMap (outline.kindTrees limit)).map (4 * depth - 2, ·) ++ trees := by
  induction siblings with
  | nil => rfl
  | cons child siblings later =>
    rw [List.flatMap_cons, List.map_append, List.foldr_append, later, each child (ends.append _),
      List.flatMap_cons, List.map_append, List.append_assoc]

/-- Reading what a walk lists gives the tree that was walked over. -/
theorem foldr_plant_walk (limit : Nat) (id : NodeId) (depth : Nat) {trees : List (Nat × KindTree)}
    (ends : EndsBelow (4 * depth - 2) trees) :
    ((outline.walk {} limit id depth).map (entryOf outline)).foldr plant trees =
      (outline.kindTrees limit id).map (4 * depth - 2, ·) ++ trees := by
  induction limit generalizing id depth trees with
  | zero => rfl
  | succ limit ih =>
    have inner : EndsBelow (4 * (depth + 1) - 2) trees := fun tree first => by
      have shallow := ends tree first
      omega
    have deeper : (entryOf outline ⟨id, depth⟩).1 < 4 * (depth + 1) - 2 := by
      simp only [entryOf]
      omega
    rw [walk, visited_initial, List.map_cons, List.foldr_cons,
      foldr_plant_siblings (fun child => ih child (depth + 1)) _ inner]
    exact plant_append _ deeper _ ends

/-- The blocks of a document are read back as the tree they were written from. -/
theorem readForest_yaml (lines : Text.lines outline.yaml =
      header outline ++ outline.listed.flatMap (block outline))
    (header : ∀ line ∈ header outline, opensObject line = false)
    (blocks : ∀ shown ∈ outline.listed, IsBlock outline shown (block outline shown)) :
    readForest outline.yaml = outline.forest := by
  have front := List.filterMap_eq_nil_iff.mpr fun line member =>
    entry?_of_not_opens (header line member)
  have entries : (outline.listed.flatMap (block outline)).filterMap entry? =
      outline.listed.map (entryOf outline) := by
    rw [List.filterMap_flatMap, List.map_eq_flatMap]
    exact List.flatMap_congr fun shown member => (blocks shown member).entries
  have top : EndsBelow (4 * 1 - 2) [] := fun tree none => by cases none
  unfold readForest
  rw [lines, List.filterMap_append, front, List.nil_append, entries, listed_eq,
    foldr_plant_siblings (fun child _ => foldr_plant_walk outline.size child 1) _ top]
  simp [Outline.forest]

end Document

/-- Every tree of objects without line feeds, and without line rows outside its units, has a
document as it has to be. -/
theorem WellFormed.shape (valid : outline.WellFormed) (feedFree : outline.FeedFree)
    (numeric : ∀ id, (outline.node id).detail.IsNumeric)
    (rowless : (outline.node root).lines = #[]) : Document.Shape outline := by
  have text := Document.yaml_eq feedFree numeric rowless
  have header := Document.listing_header feedFree
  have blocks (shown : Shown) (listed : shown ∈ outline.listed) :=
    Document.isBlock_block feedFree numeric shown (valid.depth_pos listed)
  have separate : ∀ line ∈ Document.header outline ++
      outline.listed.flatMap (Document.block outline), Text.IsLine line := by
    intro line member
    rcases List.mem_append.mp member with first | rest
    · exact (header.line line first).1
    · obtain ⟨shown, -, member⟩ := List.mem_flatMap.mp rest
      exact Document.isLine_block feedFree numeric shown line member
  have lines : Text.lines outline.yaml = _ := text ▸ Text.lines_unlines separate
  exact {
    text
    lines
    reached := fun id => by
      rw [List.mem_map]
      constructor
      · rintro ⟨shown, listed, rfl⟩
        exact (valid.mem_listed.mp listed).1
      · intro reached
        exact ⟨⟨id, (outline.ancestry id).tail.length⟩, valid.mem_listed.mpr ⟨reached, rfl⟩, rfl⟩
    once := valid.listed_nodup
    depth := fun shown listed => (valid.mem_listed.mp listed).2
    header := header.apart
    blocks
    forest := Document.readForest_yaml lines header.apart blocks }

/-- If no text of an input has a line feed, its document has its shape, in every order: a block for
each object that can be reached, with all its keys, that no other line can be taken for. So the tree
of kinds can be read back from the text. -/
theorem yaml_shape_build (input : String) (units : List UnitRecord) (void : String)
    (feedFree : (build input units void).1.FeedFree) :
    Document.Shape (build input units void).1 ∧
      ∀ key, Document.Shape ((build input units void).1.sort key) := by
  have valid := WellFormed.build input units void
  have numeric := isNumeric_build input units void
  have rowless := lines_root_build input units void
  generalize (build input units void).1 = outline at feedFree valid numeric rowless ⊢
  refine ⟨valid.shape feedFree numeric rowless, fun key => ?_⟩
  refine (valid.sort key).shape (feedFree.sort key) (fun id => ?_) ?_
  · rw [node_sort]
    exact numeric id
  · rw [lines_sort, rowless]

/-- A class template with a negative argument and a member, an enumeration, and a line row. -/
private def boxUnit : UnitRecord where
  entries := #[
    { offset := 11, tag := .compileUnit, attributes := [⟨.name, .string, .string "box.cpp"⟩] },
    { offset := 20, tag := .classType, parent := some 11,
      attributes := [⟨.name, .string, .string "Box"⟩] },
    { offset := 24, tag := .templateValueParameter, parent := some 20,
      attributes := [⟨.name, .string, .string "N"⟩, ⟨.constValue, .sdata, .signed (-3)⟩] },
    { offset := 28, tag := .memberEntry, parent := some 20,
      attributes := [⟨.name, .string, .string "size"⟩] },
    { offset := 32, tag := .enumerationType, parent := some 11,
      attributes := [⟨.name, .string, .string "Lid"⟩] },
    { offset := 36, tag := .enumerator, parent := some 32,
      attributes := [⟨.name, .string, .string "open"⟩, ⟨.constValue, .udata, .unsigned 2⟩] }]
  rows := #[{ line := 3, address := 32 }]

theorem yaml_shape_box : (build "box.o" [boxUnit] "void").1.FeedFree ∧
    Document.Shape (build "box.o" [boxUnit] "void").1 ∧
    Document.Shape ((build "box.o" [boxUnit] "void").1.sort .name) := by
  have feedFree : (build "box.o" [boxUnit] "void").1.FeedFree := by
    rw [build_eq_buildBySearch]
    unfold FeedFree
    decide +kernel
  have shaped := yaml_shape_build "box.o" [boxUnit] "void" feedFree
  exact ⟨feedFree, shaped.1, shaped.2 .name⟩

end Outline

end DebugOutline
