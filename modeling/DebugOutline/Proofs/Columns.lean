import DebugOutline.Proofs.Apart
import DebugOutline.Proofs.Tallied
import DebugOutline.Render.Text

/-! Columns of indented text. Line numbers, levels and tags never outgrow the columns measured over
the outline. Offsets may: their columns have eight digits, and every digit more moves the first line
of an entry to the right, while the lines that follow it stay. -/
namespace DebugOutline

/-! ### Widths -/

namespace Text

theorem length_decimal_le {a b : Nat} (le : a ≤ b) : (decimal a).length ≤ (decimal b).length := by
  have large : b < 10 ^ (Nat.toDigits 10 b).length :=
    (Nat.length_toDigits_le_iff (by decide) Nat.length_toDigits_pos).mp (Nat.le_refl _)
  simpa [decimal] using
    (Nat.length_toDigits_le_iff (by decide) Nat.length_toDigits_pos).mpr (Nat.lt_of_le_of_lt le large)

theorem length_decimal_pos (value : Nat) : 0 < (decimal value).length := by
  simpa [decimal] using Nat.length_toDigits_pos

@[simp] theorem length_alignLeft (width : Nat) (text : String) :
    (alignLeft width text).length = max width text.length := by
  simp [alignLeft, blanks]
  omega

@[simp] theorem length_alignRight (width : Nat) (text : String) :
    (alignRight width text).length = max width text.length := by
  simp [alignRight, blanks]
  omega

@[simp] theorem length_zeroFill (width : Nat) (text : String) :
    (zeroFill width text).length = max width text.length := by
  simp [zeroFill]
  omega

end Text

/-- Nothing outgrows the most that is measured over a list, whatever the measuring starts from. -/
theorem le_foldl_max (measure : α → Nat) (items : List α) (least : Nat) :
    least ≤ items.foldl (fun most item => max most (measure item)) least ∧
      ∀ item ∈ items,
        measure item ≤ items.foldl (fun most item => max most (measure item)) least := by
  induction items generalizing least with
  | nil => simp
  | cons first rest ih =>
    obtain ⟨start, others⟩ := ih (max least (measure first))
    refine ⟨(Nat.le_max_left _ _).trans start, fun item member => ?_⟩
    rcases List.mem_cons.mp member with rfl | later
    · exact (Nat.le_max_right _ _).trans start
    · exact others item later

/-- No object outgrows what is measured over all of them. -/
theorem Outline.le_measured (outline : Outline) (measure : Node → Nat)
    (blank : measure default = 0) (id : Nat) : measure (outline.node id) ≤
      outline.nodes.foldl (fun most node => max most (measure node)) 0 := by
  rw [← Array.foldl_toList]
  by_cases inside : id < outline.size
  · refine (le_foldl_max measure _ 0).2 _ ?_
    rw [toList_nodes]
    exact List.mem_map_of_mem (mem_ids.mpr inside)
  · rw [node_of_size_le (Nat.le_of_not_lt inside), blank]
    exact Nat.zero_le _

namespace Layout

open Outline (Grown)

variable {outline : Outline} {layout : Layout} {node : Node}

/-- What is shown of an object left of its text, offsets apart, is no wider than its columns. -/
structure Fits (layout : Layout) (node : Node) : Prop where
  line : (layout.lineNumber node).length ≤ layout.lineWidth
  level : (Text.decimal node.level).length ≤ layout.levelWidth
  tag : (tagName node).length ≤ layout.tagWidth

theorem fits_of (outline : Outline) (options : Options) (id : Nat) :
    (Layout.of outline options).Fits (outline.node id) where
  line := by
    unfold lineNumber
    split
    · exact Text.length_decimal_pos _
    · exact Text.length_decimal_le (outline.le_measured (·.line.toNat) rfl id)
  level :=
    (Text.length_decimal_le (outline.le_measured Node.level rfl id)).trans (Nat.le_max_right _ _)
  tag := outline.le_measured (fun node => (tagName node).length) rfl id

/-! ### Offsets -/

/-- How many digits of an offset do not find room in a column of eight. -/
def digitsBeyond (offset : UInt64) : Nat := (Text.hex offset.toNat).length - 8

theorem digitsBeyond_eq_zero_iff (offset : UInt64) :
    digitsBeyond offset = 0 ↔ offset.toNat < 2 ^ 32 := by
  have digits : (Nat.toDigits 16 offset.toNat).length ≤ 8 ↔ offset.toNat < 16 ^ 8 :=
    Nat.length_toDigits_le_iff (by decide) (by decide)
  simpa [digitsBeyond, Text.hex, Nat.sub_eq_zero_iff_le] using digits

theorem length_offsetMark (offset : UInt64) : (offsetMark offset).length = 12 + digitsBeyond offset := by
  have opening : "[0x".length = 3 := rfl
  have closing : "]".length = 1 := rfl
  simp only [offsetMark, digitsBeyond, String.length_append, Text.length_zeroFill, opening, closing]
  omega

/-- How many digits of the offsets shown left of an object do not find room. -/
def overflow (layout : Layout) (node : Node) : Nat :=
  (if layout.shows .dwarfOffset then digitsBeyond node.offset else 0) +
    if layout.shows .dwarfParent then
      match node.parent with
      | some parent => digitsBeyond (layout.outline.node parent).offset
      | none => 0
    else 0

theorem overflow_eq_zero_iff (layout : Layout) (node : Node) : layout.overflow node = 0 ↔
    (layout.shows .dwarfOffset → node.offset.toNat < 2 ^ 32) ∧
    (layout.shows .dwarfParent → ∀ parent ∈ node.parent,
      (layout.outline.node parent).offset.toNat < 2 ^ 32) := by
  unfold overflow
  rw [Nat.add_eq_zero_iff]
  refine and_congr ?_ ?_
  · split <;> rename_i shown <;> simp [shown, digitsBeyond_eq_zero_iff]
  · split <;> rename_i shown
    · cases node.parent <;> simp [shown, digitsBeyond_eq_zero_iff]
    · simp [shown]

/-! ### Columns -/

/-- The width of the columns about the entry where all offsets find room. -/
def entryWidth (layout : Layout) : Nat :=
  (if layout.shows .dwarfOffset then 12 else 0) + (if layout.shows .dwarfParent then 12 else 0) +
    (if layout.shows .level then layout.levelWidth + 1 else 0) +
    if layout.shows .dwarfTag then layout.tagWidth + 2 else 0

theorem length_offsetColumn (layout : Layout) (node : Node) : (layout.offsetColumn node).length =
    if layout.shows .dwarfOffset then 12 + digitsBeyond node.offset else 0 := by
  unfold offsetColumn
  split
  · exact length_offsetMark _
  · rfl

theorem length_parentColumn (layout : Layout) (node : Node) : (layout.parentColumn node).length =
    if layout.shows .dwarfParent then 12 + match node.parent with
      | some parent => digitsBeyond (layout.outline.node parent).offset
      | none => 0
    else 0 := by
  unfold parentColumn
  split
  · cases node.parent with
    | none =>
      have blank : ("[" ++ Text.blanks 10 ++ "]").length = 12 := by decide
      exact blank
    | some parent => exact length_offsetMark _
  · rfl

theorem Fits.length_levelColumn (fits : layout.Fits node) : (layout.levelColumn node).length =
    if layout.shows .level then layout.levelWidth + 1 else 0 := by
  unfold levelColumn
  split
  · have blank : " ".length = 1 := rfl
    rw [String.length_append, Text.length_zeroFill, Nat.max_eq_left fits.level, blank]
  · rfl

theorem Fits.length_tagColumn (fits : layout.Fits node) : (layout.tagColumn node).length =
    if layout.shows .dwarfTag then layout.tagWidth + 2 else 0 := by
  unfold tagColumn
  split
  · have opening : "[".length = 1 := rfl
    have closing : "]".length = 1 := rfl
    have tag := fits.tag
    rw [Text.length_alignLeft, String.length_append, String.length_append, opening, closing]
    omega
  · rfl

/-- The columns of the entry are as wide as for any other, but for digits without room. -/
theorem Fits.length_entryColumns (fits : layout.Fits node) : (layout.entryColumns node).length =
    (if layout.entryWidth = 0 then 0 else layout.entryWidth + 2) + layout.overflow node := by
  have columns : (layout.offsetColumn node ++ layout.parentColumn node ++
      layout.levelColumn node ++ layout.tagColumn node).length =
        layout.entryWidth + layout.overflow node := by
    simp only [String.length_append, length_offsetColumn, length_parentColumn,
      fits.length_levelColumn, fits.length_tagColumn, entryWidth, overflow]
    split <;> split <;> omega
  have room : layout.entryWidth = 0 → layout.overflow node = 0 := by
    unfold entryWidth overflow
    split <;> split <;> omega
  have gap : "  ".length = 2 := rfl
  unfold entryColumns
  dsimp only
  split
  · rename_i empty
    rw [empty, String.length_empty] at columns
    rw [if_pos (by omega), room (by omega), String.length_empty]
  · rename_i shown
    have wide : layout.entryWidth + layout.overflow node ≠ 0 := by
      rw [← columns, ne_eq, String.length_eq_zero_iff]
      exact shown
    rw [if_neg (fun narrow => wide (by rw [narrow, room narrow])), String.length_append, columns, gap]
    omega

/-- Everything left of the line number is as wide as for any other object, but for digits without
room. -/
theorem Fits.length_leftColumns {other : Node} (fits : layout.Fits node) (also : layout.Fits other)
    (room : layout.overflow other = 0) : (layout.leftColumns node).length =
      (layout.leftColumns other).length + layout.overflow node := by
  have flag (node : Node) : (layout.flagColumn node).length =
      if layout.shows .global then 2 else 0 := by
    unfold flagColumn
    split
    · split <;> rfl
    · rfl
  unfold leftColumns
  rw [String.length_append, String.length_append, fits.length_entryColumns, also.length_entryColumns,
    flag, flag, room]
  omega

end Layout

/-! ### The object of the input file -/

namespace Outline

theorem Grown.offset_root {outline : Outline} (grown : Grown outline) :
    (outline.node root).offset = 0 := by
  induction grown with
  | empty input => rfl
  | build input units void =>
    rw [build_fst, (keeps_finish _ void).skeleton.offset, Draft.outline_ofUnits]
    exact congrArg Node.offset (Draft.file_addUnits input units)
  | @insert outline node parent grown _ _ inside ih =>
    have notLast : root ≠ outline.size := Nat.ne_of_lt grown.wellFormed.root_present
    rw [node_insert inside, if_neg notLast]
    split
    · rw [Node.adopt_offset, ih]
    · exact ih
  | sort grown key ih =>
    rw [node_sort]
    exact ih

end Outline

/-! ### Entries on a page -/

namespace Layout

open Outline (Grown)

variable {outline : Outline} {options : Options} {layout : Layout} {shown : Shown}

/-- Where the text of an entry starts if all columns keep their widths. -/
def textColumn (layout : Layout) (depth : Nat) : Nat :=
  layout.leftWidth + layout.lineWidth + layout.treeIndent depth

/-- The text of an entry starts at `column` on its first line, and where the widths of the columns
have it on all lines that follow. -/
def StartsAt (layout : Layout) (shown : Shown) (column : Nat) : Prop :=
  ∃ margin first rest, layout.objectLines shown.id = first :: rest ∧
    layout.shownLines shown = (margin ++ first) ::
      rest.map (Text.blanks (layout.textColumn shown.depth) ++ ·) ∧
    margin.length = column

theorem StartsAt.unique {column other : Nat} (starts : layout.StartsAt shown column)
    (also : layout.StartsAt shown other) : column = other := by
  obtain ⟨margin, first, rest, lines, page, rfl⟩ := starts
  obtain ⟨space, text, more, again, same, rfl⟩ := also
  rw [lines] at again
  cases again
  rw [page] at same
  have whole : margin ++ first = space ++ first := (List.cons.inj same).1
  simpa using congrArg String.length whole

/-- Every object has a first line. -/
theorem exists_objectLines (layout : Layout) (id : Nat) :
    ∃ first rest, layout.objectLines id = first :: rest := by
  apply List.exists_cons_of_ne_nil
  unfold objectLines
  dsimp only
  rw [ne_eq, List.append_eq_nil_iff, not_and_or]
  left
  split <;> try exact List.cons_ne_nil _ _
  unfold templateParameterLines
  dsimp only
  split
  · exact List.cons_ne_nil _ _
  · split <;> exact List.cons_ne_nil _ _

theorem overflow_root (grown : Grown outline) (options : Options) :
    (Layout.of outline options).overflow (outline.node Outline.root) = 0 := by
  rw [overflow_eq_zero_iff, grown.offset_root, grown.wellFormed.root_parent]
  simp

theorem length_leftColumns (grown : Grown outline) (options : Options) (id : Nat) :
    ((Layout.of outline options).leftColumns (outline.node id)).length =
      (Layout.of outline options).leftWidth +
        (Layout.of outline options).overflow (outline.node id) :=
  (fits_of outline options id).length_leftColumns (fits_of outline options Outline.root)
    (overflow_root grown options)

theorem length_lineNumber (outline : Outline) (options : Options) (id : Nat) :
    (Text.alignRight (Layout.of outline options).lineWidth
      ((Layout.of outline options).lineNumber (outline.node id))).length =
      (Layout.of outline options).lineWidth := by
  rw [Text.length_alignRight, Nat.max_eq_left (fits_of outline options id).line]

theorem startsAt (grown : Grown outline) (options : Options) (shown : Shown) :
    (Layout.of outline options).StartsAt shown
      ((Layout.of outline options).textColumn shown.depth +
        (Layout.of outline options).overflow (outline.node shown.id)) := by
  obtain ⟨first, rest, lines⟩ := (Layout.of outline options).exists_objectLines shown.id
  have left := length_leftColumns grown options shown.id
  have number := length_lineNumber outline options shown.id
  refine ⟨(Layout.of outline options).leftColumns (outline.node shown.id) ++
    Text.alignRight (Layout.of outline options).lineWidth
      ((Layout.of outline options).lineNumber (outline.node shown.id)) ++
    Text.blanks ((Layout.of outline options).treeIndent shown.depth), first, rest, lines, ?_, ?_⟩
  · unfold shownLines
    rw [lines]
    rfl
  · rw [String.length_append, String.length_append, left, number, textColumn]
    simp only [Text.blanks, String.length_ofList, List.length_replicate]
    omega

/-- Line numbers always find room, and so does all that stands left of them as long as offsets have
no more than eight digits. Every digit more moves the first line to the right, and only that: all
lines of an entry start at one column exactly if the offsets that are shown fit. -/
theorem text_startsAt (grown : Grown outline) (options : Options) (shown : Shown) :
    let layout := Layout.of outline options
    let node := outline.node shown.id
    (layout.leftColumns node).length = layout.leftWidth + layout.overflow node ∧
    (Text.alignRight layout.lineWidth (layout.lineNumber node)).length = layout.lineWidth ∧
    layout.StartsAt shown (layout.textColumn shown.depth + layout.overflow node) ∧
    (layout.StartsAt shown (layout.textColumn shown.depth) ↔
      (layout.shows .dwarfOffset → node.offset.toNat < 2 ^ 32) ∧
      (layout.shows .dwarfParent → ∀ parent ∈ node.parent,
        (outline.node parent).offset.toNat < 2 ^ 32)) := by
  intro layout node
  have starts : layout.StartsAt shown (layout.textColumn shown.depth + layout.overflow node) :=
    startsAt grown options shown
  refine ⟨length_leftColumns grown options shown.id, length_lineNumber outline options shown.id,
    starts, Iff.trans ⟨fun straight => ?_, fun room => ?_⟩ (overflow_eq_zero_iff layout node)⟩
  · have same := straight.unique starts
    omega
  · rwa [room] at starts

/-- A unit with a row at an address of nine digits. -/
private def farOutline : Outline :=
  (Outline.build "a.o" [
    { entries := #[
        { offset := 11, tag := .compileUnit, attributes := [⟨.name, .string, .string "a.c"⟩] }],
      rows := #[{ line := 3, address := 0x100000000, isStatement := true }] }] "void").1

private def offsetOptions : Options where
  flags := ((ShowFlags.initial.set .codeLine true).set .codeLineAttributes true).set .dwarfOffset true

theorem text_startsAt_far :
    let layout := Layout.of farOutline offsetOptions
    Grown farOutline ∧ layout.StartsAt ⟨1, 1⟩ 17 ∧ layout.textColumn 1 = 17 ∧
      layout.StartsAt ⟨2, 2⟩ 20 ∧ layout.textColumn 2 = 19 := by
  intro layout
  have grown : Grown farOutline := .build _ _ _
  have unit := (text_startsAt grown offsetOptions ⟨1, 1⟩).2.2.1
  have row := (text_startsAt grown offsetOptions ⟨2, 2⟩).2.2.1
  have columns : layout.textColumn 1 = 17 ∧ layout.textColumn 2 = 19 ∧
      layout.overflow (farOutline.node 1) = 0 ∧ layout.overflow (farOutline.node 2) = 1 := by
    decide +kernel
  obtain ⟨first, second, fits, beyond⟩ := columns
  dsimp only at unit row
  rw [first, fits] at unit
  rw [second, beyond] at row
  exact ⟨grown, unit, first, row, second⟩

/-- The lines of an entry need not start at one column. -/
theorem row_beyond_columns :
    let layout := Layout.of farOutline offsetOptions
    ∃ shown ∈ farOutline.select offsetOptions,
      ¬ layout.StartsAt shown (layout.textColumn shown.depth) := by
  intro layout
  have selected : (⟨2, 2⟩ : Shown) ∈ farOutline.select offsetOptions := by decide +kernel
  have beyond : layout.overflow (farOutline.node 2) = 1 := by decide +kernel
  refine ⟨⟨2, 2⟩, selected, fun straight => ?_⟩
  have same : layout.textColumn 2 = layout.textColumn 2 + layout.overflow (farOutline.node 2) :=
    straight.unique (startsAt (.build _ _ _) offsetOptions ⟨2, 2⟩)
  omega

end Layout

end DebugOutline
