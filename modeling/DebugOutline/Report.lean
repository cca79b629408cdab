import DebugOutline.Build
import DebugOutline.ObjectFile
import DebugOutline.Outline.Order
import DebugOutline.Split
import DebugOutline.Tally

/-! One input file from its units to everything that is said about it. -/
namespace DebugOutline

/-- What came of one input file. -/
structure Report where
  warnings : Warnings := []
  /-- What goes to standard output. -/
  output : String := ""
  /-- The files that were written. -/
  splitFiles : List String := []
  deriving Inhabited

/-- How a missing type is spelled inside names. -/
def Options.void (options : Options) : String := if options.shows .void then "void" else ""

namespace Outline

/-- The outline in one format. -/
def render (outline : Outline) (options : Options) (selection : List Shown) :
    OutputFormat → String
  | .text => (Layout.of outline options).render selection
  | .yaml => outline.yaml

/-- The table at the end; a document that lists everything counts everything as printed. -/
def tally (outline : Outline) (options : Options) (selection : List Shown) : Tally :=
  if options.wants .yaml then .ofAll outline else .ofSelection outline selection

/-- Write every format to split files, up to the first failure. -/
def writeFormats {m : Type → Type} [Monad m] (disk : Disk m) (outline : Outline)
    (options : Options) : List OutputFormat → m (Except Failure (List String))
  | [] => pure (.ok [])
  | format :: rest => do
    match ← outline.writeSplit disk options format (outline.splitDirectory options) with
    | .error failure => return .error failure
    | .ok written =>
      match ← outline.writeFormats disk options rest with
      | .error failure => return .error failure
      | .ok more => return .ok (written ++ more)

end Outline

/-- Build, sort and print one input file. Nothing is printed when the output is split or quiet,
except the table if that is asked for. -/
def Report.ofUnits {m : Type → Type} [Monad m] (disk : Disk m) (input : String)
    (units : List Dwarf.UnitRecord) (options : Options) : m (Except Failure Report) := do
  let (built, warnings) := Outline.build input units options.void
  let outline := built.sort options.sort
  let selection := outline.select options
  let table :=
    if options.summary then (outline.tally options selection).render else ""
  if options.split then
    match ← outline.writeFormats disk options options.outputs with
    | .error failure => return .error failure
    | .ok written => return .ok ⟨warnings, table, written⟩
  else
    let output :=
      if options.quiet then ""
      else String.join (options.outputs.map (outline.render options selection))
    return .ok ⟨warnings, output ++ table, []⟩

/-- Read an object file and report on it under its path. -/
def Report.ofFile {m : Type → Type} [Monad m] (disk : Disk m) (path : String) (options : Options) :
    m (Except Failure Report) := do
  match ← readUnits disk path with
  | .error failure => return .error failure
  | .ok units => Report.ofUnits disk path units options

end DebugOutline
