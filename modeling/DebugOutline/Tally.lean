import DebugOutline.Outline.Basic
import DebugOutline.Selection
import DebugOutline.Text.Layout

/-! A table of how many objects there are of each kind, and how many of them were printed. -/
namespace DebugOutline

structure TallyRow where
  kind : Kind
  total : Nat
  printed : Nat
  deriving DecidableEq, Inhabited, Repr

/-- One row for each counted kind, by name. -/
structure Tally where
  rows : List TallyRow
  deriving DecidableEq, Inhabited, Repr

namespace Tally

/-- Count every kind; `printed` says how many objects of a kind were printed. -/
def ofCounts (outline : Outline) (printed : Kind → Nat) : Tally where
  rows := Kind.tallied.map fun kind => ⟨kind, outline.count kind, printed kind⟩

/-- For text, which prints what is selected. -/
def ofSelection (outline : Outline) (selection : List Shown) : Tally :=
  ofCounts outline fun kind => selection.countP fun shown => (outline.node shown.id).kind == kind

/-- For a document that lists every object. -/
def ofAll (outline : Outline) : Tally := ofCounts outline outline.count

def total (tally : Tally) : Nat := tally.rows.foldl (fun sum row => sum + row.total) 0

def printed (tally : Tally) : Nat := tally.rows.foldl (fun sum row => sum + row.printed) 0

/-- Blanks in front of every line. -/
def indent : Nat := 5

/-- The least width of the first column. -/
def minLabelWidth : Nat := 19

/-- The least width of a column of numbers. -/
def minColumnWidth : Nat := 9

def labelWidth (tally : Tally) : Nat :=
  (tally.rows.map fun row => row.kind.name.length + 1).foldl max minLabelWidth

/-- The sums are the widest numbers; one blank goes in front. -/
def columnWidth (tally : Tally) : Nat :=
  [tally.total, tally.printed].foldl (fun width count => max width ((Text.decimal count).length + 1))
    minColumnWidth

def line (tally : Tally) (label first second : String) : String :=
  Text.blanks indent ++ Text.alignLeft tally.labelWidth label ++
    Text.alignRight tally.columnWidth first ++ Text.alignRight tally.columnWidth second

def divider (tally : Tally) : String :=
  Text.blanks indent ++
    String.ofList (List.replicate (tally.labelWidth + 2 * tally.columnWidth) '-')

/-- The lines of the table, with a blank one before and after it. -/
def lines (tally : Tally) : List String :=
  ["", tally.divider, tally.line "Object" "Total" "Printed", tally.divider] ++
    tally.rows.map (fun row =>
      tally.line row.kind.name (Text.decimal row.total) (Text.decimal row.printed)) ++
    [tally.divider, tally.line "Totals" (Text.decimal tally.total) (Text.decimal tally.printed),
      ""]

def render (tally : Tally) : String := Text.unlines tally.lines

end Tally

end DebugOutline
