import DebugOutline.Disk.Basic
import DebugOutline.Failure
import DebugOutline.Render.Yaml

/-! Split output: one file for each unit in place of one stream. Every file starts with the header
of its format; what follows in all files, in order, is what follows the header of the stream. -/
namespace DebugOutline

structure SplitFile where
  path : String
  content : String
  deriving DecidableEq, Inhabited, Repr

namespace Outline

/-- The directory that was asked for, else one named after the input file. -/
def splitDirectory (outline : Outline) (options : Options) : String :=
  options.outputDirectory.getD (Path.flatten outline.inputFile)

/-- The file of a unit, named after the unit. -/
def splitPath (outline : Outline) (format : OutputFormat) (directory : String) (unit : NodeId) :
    String :=
  Path.under directory (Path.flatten (outline.node unit).name ++ "." ++ format.extension)

/-- The text of one unit after another. A page does not announce the file that the page before it
announced last. -/
def unitPages (layout : Layout) : Option String → List NodeId → List String
  | _, [] => []
  | file, unit :: rest =>
    let page := Page.writeAll layout ⟨#[layout.header], file⟩
      (layout.outline.selectFrom layout.options unit)
    page.text :: unitPages layout page.file rest

/-- The content of the file of each unit. -/
def unitContents (outline : Outline) (options : Options) (format : OutputFormat)
    (units : List NodeId) : List String :=
  match format with
  | .text => unitPages (.of outline options) none units
  | .yaml => units.map fun unit => outline.yamlHeader ++ outline.yamlItem unit 1

/-- The files of all units under a directory. -/
def splitFiles (outline : Outline) (options : Options) (format : OutputFormat)
    (directory : String) : List SplitFile :=
  let units := outline.compileUnits
  (units.zip (outline.unitContents options format units)).map fun (unit, content) =>
    ⟨outline.splitPath format directory unit, content⟩

end Outline

namespace SplitFile

variable {m : Type → Type} [Monad m]

/-- Write one file after another, up to the first that cannot be written. -/
def writeAll (disk : Disk m) : List SplitFile → m (Except Failure Unit)
  | [] => pure (.ok ())
  | file :: rest => do
    if ← disk.write file.path file.content then writeAll disk rest
    else return .error (.openSplitFile file.path)

end SplitFile

/-- Write the files of all units into a directory; the answer lists them. Without units there is
nothing to do, not even a directory to make. -/
def Outline.writeSplit {m : Type → Type} [Monad m] (disk : Disk m) (outline : Outline)
    (options : Options) (format : OutputFormat) (directory : String) :
    m (Except Failure (List String)) := do
  let files := outline.splitFiles options format directory
  if files.isEmpty then return .ok []
  else if ← disk.makeDirectories directory then
    match ← SplitFile.writeAll disk files with
    | .ok () => return .ok (files.map (·.path))
    | .error failure => return .error failure
  else return .error (.makeDirectory directory)

end DebugOutline
