import DebugOutline.Disk.Basic
import DebugOutline.Dwarf.Unit
import DebugOutline.Elf.Debug
import DebugOutline.Failure

/-! Units from an object file on the disk. -/
namespace DebugOutline

/-- The sections of an object file that units are read from. All sections with debugging
information have to be undamaged, also those that are not used. -/
def Elf.File.sections? (file : File) : Option Dwarf.Sections := do
  let abbreviations ← file.debugSection? "abbrev"
  let addresses ← file.debugSection? "addr"
  let info ← file.debugSection? "info"
  let lines ← file.debugSection? "line"
  let lineTexts ← file.debugSection? "line_str"
  let texts ← file.debugSection? "str"
  let offsets ← file.debugSection? "str_offsets"
  for unused in ["ranges", "rnglists", "loc", "loclists"] do
    let _ ← file.debugSection? unused
  return { info, abbreviations, addresses, lines, texts := ⟨texts, lineTexts, offsets⟩ }

/-- The bytes that every object file starts with. -/
def Elf.magic : ByteArray := ⟨#[0x7f, 0x45, 0x4c, 0x46]⟩

/-- The units in the bytes of a file. -/
def unitsOfBytes (path : String) (bytes : ByteArray) : Except Failure (List Dwarf.UnitRecord) :=
  if (bytes.extract 0 4).data ≠ Elf.magic.data then .error (.invalidFile path)
  else
    let units? := do (← (← Elf.File.ofBytes? bytes).sections?).units?
    match units? with
    | some units => .ok units
    | none => .error (.invalidDwarf path)

/-- The units of a file. -/
def readUnits {m : Type → Type} [Monad m] (disk : Disk m) (path : String) :
    m (Except Failure (List Dwarf.UnitRecord)) := do
  match ← disk.read path with
  | .ok bytes => return unitsOfBytes path bytes
  | .error .notFound => return .error (.fileNotFound path)
  | .error .unreadable => return .error (.readFailed path)

end DebugOutline
