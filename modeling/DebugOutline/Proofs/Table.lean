import DebugOutline.Build.Names
import DebugOutline.Proofs.Columns
import DebugOutline.Proofs.Lines
import Std.Data.String.ToNat

/-! The printed table of counts. Its columns are measured only at the sums, and no count is longer
than the sum it goes into: all lines have one width, every number ends where its column ends with a
blank in front, and the counts and their sums are read back from the text. -/
namespace DebugOutline

/-! ### Cells -/

namespace Text

/-- A text at the start of a cell, with a blank behind it at least. -/
def LeftAligned (width : Nat) (text cell : String) : Prop :=
  ∃ gap, 0 < gap ∧ text.length + gap = width ∧ cell = text ++ blanks gap

/-- A text at the end of a cell, with a blank in front at least. -/
def RightAligned (width : Nat) (text cell : String) : Prop :=
  ∃ gap, 0 < gap ∧ gap + text.length = width ∧ cell = blanks gap ++ text

variable {width : Nat} {text cell rest : String}

theorem leftAligned_alignLeft (narrow : text.length < width) :
    LeftAligned width text (alignLeft width text) :=
  ⟨width - text.length, by omega, by omega, rfl⟩

theorem rightAligned_alignRight (narrow : text.length < width) :
    RightAligned width text (alignRight width text) :=
  ⟨width - text.length, by omega, by omega, rfl⟩

theorem LeftAligned.length (aligned : LeftAligned width text cell) : cell.length = width := by
  obtain ⟨gap, -, whole, rfl⟩ := aligned
  simpa [blanks] using whole

theorem RightAligned.length (aligned : RightAligned width text cell) : cell.length = width := by
  obtain ⟨gap, -, whole, rfl⟩ := aligned
  simpa [blanks] using whole

theorem toNat?_decimal (value : Nat) : (decimal value).toNat? = some value := by
  rw [decimal, ← Nat.repr_eq_ofList_toDigits, Nat.toNat?_repr]

end Text

namespace Spelling

theorem words_append_blank (text rest : String) :
    words (text ++ " " ++ rest) = words text ++ words rest := by
  have blank : " ".toList = [' '] := rfl
  unfold words
  rw [String.toList_append, String.toList_append, blank, List.append_assoc, List.singleton_append,
    List.splitOn_append_cons_self, List.map_append, List.filter_append]

/-- A run of blanks separates words as one does. -/
theorem words_append_blanks {gap : Nat} (apart : 0 < gap) (text rest : String) :
    words (text ++ Text.blanks gap ++ rest) = words text ++ words rest := by
  induction gap generalizing text with
  | zero => cases apart
  | succ gap ih =>
    have first : Text.blanks (gap + 1) = " " ++ Text.blanks gap := by
      simp [Text.blanks, List.replicate_succ]
    rcases Nat.eq_zero_or_pos gap with rfl | more
    · exact words_append_blank text rest
    · have shorter := ih more ""
      rw [String.empty_append] at shorter
      rw [first, ← String.append_assoc, String.append_assoc, words_append_blank, shorter]
      rfl

theorem words_of_plain {word : String} (nonempty : word ≠ "") (plain : ' ' ∉ word.toList) :
    words word = [word] := by
  simp [words, List.splitOn_eq_singleton plain, nonempty]

theorem words_decimal (value : Nat) : words (Text.decimal value) = [Text.decimal value] := by
  refine words_of_plain (fun none => ?_) fun blank => ?_
  · exact absurd (Text.length_decimal_pos value) (by rw [none]; decide)
  · rcases Text.IsNumeral.decimal value _ blank with digit | sign
    · exact absurd digit (by decide)
    · exact absurd sign (by decide)

end Spelling

namespace Tally

/-- A line of a label and two texts, each in a cell of its own. -/
def InColumns (label column : Nat) (line name first second : String) : Prop :=
  ∃ left middle right, Text.LeftAligned label name left ∧ Text.RightAligned column first middle ∧
    Text.RightAligned column second right ∧
    line = Text.blanks indent ++ left ++ middle ++ right

/-- A label and two numbers, as the words of a line give them. -/
def readRow? (line : String) : Option (String × Nat × Nat) :=
  match Spelling.words line with
  | [label, total, printed] => do return (label, ← total.toNat?, ← printed.toNat?)
  | _ => none

variable {tally : Tally} {row : TallyRow} {label column : Nat}
  {line name first second : String}

namespace InColumns

theorem length (aligned : InColumns label column line name first second) :
    line.length = indent + label + 2 * column := by
  obtain ⟨left, middle, right, front, one, other, rfl⟩ := aligned
  simp only [String.length_append, front.length, one.length, other.length, Text.blanks,
    String.length_ofList, List.length_replicate]
  omega

theorem words (aligned : InColumns label column line name first second) :
    Spelling.words line =
      Spelling.words name ++ Spelling.words first ++ Spelling.words second := by
  obtain ⟨_, _, _, ⟨behind, front, _, rfl⟩, ⟨before, middle, _, rfl⟩, ⟨between, last, _, rfl⟩,
    rfl⟩ := aligned
  -- The blanks of the cells stand between the three texts.
  have cut : Text.blanks indent ++ (name ++ Text.blanks behind) ++ (Text.blanks before ++ first) ++
      (Text.blanks between ++ second) = "" ++ Text.blanks indent ++ (name ++ Text.blanks behind ++
        ("" ++ Text.blanks before ++ (first ++ Text.blanks between ++ second))) := by
    simp only [String.append_assoc, String.empty_append]
  have none : Spelling.words "" = [] := rfl
  rw [cut, Spelling.words_append_blanks (by decide), Spelling.words_append_blanks front,
    Spelling.words_append_blanks middle, Spelling.words_append_blanks last, none]
  simp only [List.nil_append, List.append_assoc]

/-- Numbers behind a label of one word are read as they were written. -/
theorem readRow? {total printed : Nat} (whole : Spelling.words name = [name])
    (aligned : InColumns label column line name (Text.decimal total) (Text.decimal printed)) :
    readRow? line = some (name, total, printed) := by
  unfold Tally.readRow?
  rw [aligned.words, whole, Spelling.words_decimal, Spelling.words_decimal]
  simp [Text.toNat?_decimal]

end InColumns

/-! ### Widths -/

theorem length_lt_labelWidth (listed : row ∈ tally.rows) :
    row.kind.name.length < tally.labelWidth := by
  rw [labelWidth, List.foldl_map]
  exact (le_foldl_max (fun row : TallyRow => row.kind.name.length + 1) _ _).2 row listed

theorem minLabelWidth_le (tally : Tally) : minLabelWidth ≤ tally.labelWidth := by
  rw [labelWidth, List.foldl_map]
  exact (le_foldl_max (fun row : TallyRow => row.kind.name.length + 1) _ _).1

theorem minColumnWidth_le (tally : Tally) : minColumnWidth ≤ tally.columnWidth :=
  (le_foldl_max (fun count => (Text.decimal count).length + 1) _ _).1

theorem length_total_lt (tally : Tally) :
    (Text.decimal tally.total).length < tally.columnWidth :=
  (le_foldl_max (fun count => (Text.decimal count).length + 1) _ _).2 _ (by simp)

theorem length_printed_lt (tally : Tally) :
    (Text.decimal tally.printed).length < tally.columnWidth :=
  (le_foldl_max (fun count => (Text.decimal count).length + 1) _ _).2 _ (by simp)

/-- A count is no more than the sum it goes into, and so it is no longer. -/
theorem length_counts_lt (listed : row ∈ tally.rows) :
    (Text.decimal row.total).length < tally.columnWidth ∧
      (Text.decimal row.printed).length < tally.columnWidth := by
  have total : row.total ≤ tally.total := by
    rw [total_eq_sum]
    exact List.le_sum_of_mem (List.mem_map_of_mem listed)
  have printed : row.printed ≤ tally.printed := by
    rw [printed_eq_sum]
    exact List.le_sum_of_mem (List.mem_map_of_mem listed)
  exact ⟨(Text.length_decimal_le total).trans_lt tally.length_total_lt,
    (Text.length_decimal_le printed).trans_lt tally.length_printed_lt⟩

/-! ### Lines -/

theorem inColumns_line (narrow : name.length < tally.labelWidth)
    (one : first.length < tally.columnWidth) (other : second.length < tally.columnWidth) :
    InColumns tally.labelWidth tally.columnWidth (tally.line name first second)
      name first second :=
  ⟨_, _, _, Text.leftAligned_alignLeft narrow, Text.rightAligned_alignRight one,
    Text.rightAligned_alignRight other, rfl⟩

theorem inColumns_heading (tally : Tally) :
    InColumns tally.labelWidth tally.columnWidth (tally.line "Object" "Total" "Printed")
      "Object" "Total" "Printed" := by
  have wide := tally.minLabelWidth_le
  have deep := tally.minColumnWidth_le
  unfold minLabelWidth at wide
  unfold minColumnWidth at deep
  refine inColumns_line (Nat.lt_of_lt_of_le ?_ wide) (Nat.lt_of_lt_of_le ?_ deep)
    (Nat.lt_of_lt_of_le ?_ deep) <;> decide

theorem inColumns_row (listed : row ∈ tally.rows) :
    InColumns tally.labelWidth tally.columnWidth
      (tally.line row.kind.name (Text.decimal row.total) (Text.decimal row.printed))
      row.kind.name (Text.decimal row.total) (Text.decimal row.printed) :=
  inColumns_line (length_lt_labelWidth listed) (length_counts_lt listed).1
    (length_counts_lt listed).2

theorem inColumns_totals (tally : Tally) :
    InColumns tally.labelWidth tally.columnWidth
      (tally.line "Totals" (Text.decimal tally.total) (Text.decimal tally.printed))
      "Totals" (Text.decimal tally.total) (Text.decimal tally.printed) := by
  refine inColumns_line (Nat.lt_of_lt_of_le ?_ tally.minLabelWidth_le) tally.length_total_lt
    tally.length_printed_lt
  decide

theorem length_divider (tally : Tally) :
    tally.divider.length = indent + tally.labelWidth + 2 * tally.columnWidth := by
  simp [divider, Text.blanks, Nat.add_assoc]

theorem mem_lines (member : line ∈ tally.lines) : line = "" ∨ line = tally.divider ∨
    line = tally.line "Object" "Total" "Printed" ∨
    (∃ row ∈ tally.rows,
      line = tally.line row.kind.name (Text.decimal row.total) (Text.decimal row.printed)) ∨
    line = tally.line "Totals" (Text.decimal tally.total) (Text.decimal tally.printed) := by
  simp only [lines, List.mem_append, List.mem_cons, List.mem_map, List.not_mem_nil, or_false]
    at member
  rcases member with ((blank | divider | heading | divider) | ⟨row, listed, rfl⟩) |
    divider | totals | blank
  · exact .inl blank
  · exact .inr (.inl divider)
  · exact .inr (.inr (.inl heading))
  · exact .inr (.inl divider)
  · exact .inr (.inr (.inr (.inl ⟨row, listed, rfl⟩)))
  · exact .inr (.inl divider)
  · exact .inr (.inr (.inr (.inr totals)))
  · exact .inl blank

theorem length_of_mem_lines (member : line ∈ tally.lines) : line = "" ∨
    line.length = indent + tally.labelWidth + 2 * tally.columnWidth := by
  rcases mem_lines member with blank | rfl | rfl | ⟨row, listed, rfl⟩ | rfl
  · exact .inl blank
  · exact .inr tally.length_divider
  · exact .inr tally.inColumns_heading.length
  · exact .inr (inColumns_row listed).length
  · exact .inr tally.inColumns_totals.length

theorem isLine_line (one : Text.IsLine name) (two : Text.IsLine first)
    (three : Text.IsLine second) : Text.IsLine (tally.line name first second) :=
  (((Text.IsLine.blanks _).append (one.append (.blanks _))).append
    ((Text.IsLine.blanks _).append two)).append ((Text.IsLine.blanks _).append three)

theorem isLine_of_mem_lines (member : line ∈ tally.lines) : Text.IsLine line := by
  rcases mem_lines member with rfl | rfl | rfl | ⟨row, -, rfl⟩ | rfl
  · exact .spelled [] rfl
  · exact (Text.IsLine.blanks _).append (.replicate _ (by decide))
  · exact isLine_line (.spelled _ (by decide)) (.spelled _ (by decide)) (.spelled _ (by decide))
  · have kind : Text.IsLine row.kind.name := by cases row.kind <;> exact .spelled _ (by decide)
    exact isLine_line kind (.decimal _) (.decimal _)
  · exact isLine_line (.spelled _ (by decide)) (.decimal _) (.decimal _)

theorem lines_render (tally : Tally) : Text.lines tally.render = tally.lines :=
  Text.lines_unlines fun _ => isLine_of_mem_lines

/-! ### Reading -/

theorem readRow?_divider (tally : Tally) : readRow? tally.divider = none := by
  have dashes : tally.divider = "" ++ Text.blanks indent ++
      String.ofList (List.replicate (tally.labelWidth + 2 * tally.columnWidth) '-') := by
    rw [String.empty_append, divider]
  have none : Spelling.words "" = [] := rfl
  unfold readRow?
  rw [dashes, Spelling.words_append_blanks (by decide), none, Spelling.words_of_plain]
  · rfl
  · have wide := tally.minLabelWidth_le
    unfold minLabelWidth at wide
    simp
    omega
  · simp

theorem readRow?_heading (tally : Tally) :
    readRow? (tally.line "Object" "Total" "Printed") = none := by
  have words : Spelling.words (tally.line "Object" "Total" "Printed") =
      ["Object", "Total", "Printed"] := tally.inColumns_heading.words
  have letters : "Total".toNat? = none := by cbv
  unfold readRow?
  rw [words]
  simp [letters]

theorem readRow?_row (listed : row ∈ tally.rows) :
    readRow? (tally.line row.kind.name (Text.decimal row.total) (Text.decimal row.printed)) =
      some (row.kind.name, row.total, row.printed) := by
  have label : Spelling.words row.kind.name = [row.kind.name] := by
    cases row.kind <;> decide
  exact (inColumns_row listed).readRow? label

theorem filterMap_readRow?_lines (tally : Tally) : tally.lines.filterMap readRow? =
    tally.rows.map (fun row => (row.kind.name, row.total, row.printed)) ++
      [("Totals", tally.total, tally.printed)] := by
  have blank : readRow? "" = none := rfl
  have rows : (tally.rows.map fun row => tally.line row.kind.name (Text.decimal row.total)
      (Text.decimal row.printed)).filterMap readRow? =
        tally.rows.map fun row => (row.kind.name, row.total, row.printed) := by
    rw [List.filterMap_map, ← List.filterMap_eq_map]
    exact List.filterMap_congr fun row listed => readRow?_row listed
  have totals := tally.inColumns_totals.readRow? rfl
  unfold lines
  rw [List.filterMap_append, List.filterMap_append, rows]
  simp [blank, readRow?_divider, readRow?_heading, totals]

/-! ### The theorem -/

/-- The text consists of the lines of the table. All that are not blank have one width, and a
heading, a label or a number stands in a cell of its own, numbers at the end of theirs. What is read
from the lines are the counts of the rows and then their sums. -/
structure Aligned (tally : Tally) : Prop where
  text : Text.lines tally.render = tally.lines
  width : ∀ line ∈ tally.lines, line = "" ∨
    line.length = indent + tally.labelWidth + 2 * tally.columnWidth
  heading : InColumns tally.labelWidth tally.columnWidth (tally.line "Object" "Total" "Printed")
    "Object" "Total" "Printed"
  row : ∀ row ∈ tally.rows, InColumns tally.labelWidth tally.columnWidth
    (tally.line row.kind.name (Text.decimal row.total) (Text.decimal row.printed))
    row.kind.name (Text.decimal row.total) (Text.decimal row.printed)
  totals : InColumns tally.labelWidth tally.columnWidth
    (tally.line "Totals" (Text.decimal tally.total) (Text.decimal tally.printed))
    "Totals" (Text.decimal tally.total) (Text.decimal tally.printed)
  read : (Text.lines tally.render).filterMap readRow? =
    tally.rows.map (fun row => (row.kind.name, row.total, row.printed)) ++
      [("Totals", (tally.rows.map TallyRow.total).sum, (tally.rows.map TallyRow.printed).sum)]

/-- Every table is aligned, whatever it counts. -/
theorem aligned_table (tally : Tally) : Aligned tally where
  text := tally.lines_render
  width _ := length_of_mem_lines
  heading := tally.inColumns_heading
  row _ listed := inColumns_row listed
  totals := tally.inColumns_totals
  read := by
    rw [tally.lines_render, filterMap_readRow?_lines, total_eq_sum, printed_eq_sum]

end Tally

end DebugOutline
