import DebugOutline.Dwarf.Tag
import DebugOutline.Dwarf.Attr
import DebugOutline.Dwarf.Form

/-! What is reported about odd input without giving up on it. -/
namespace DebugOutline

open Dwarf (Tag Attr Form)

inductive Warning where
  | unknownTag (tag : Tag)
  | unexpectedForm (attr : Attr) (form : Form)
  | noDebugData
  deriving DecidableEq, Inhabited, Repr

def Warning.message : Warning → String
  | .unknownTag tag => "Ignoring unknown/unsupported DWARF tag '" ++ tag.display ++ "'."
  | .unexpectedForm attr form =>
    "Ignoring unrecognised DW_AT, DW_FORM combination '" ++ attr.display ++ "', '" ++
      form.display ++ "'."
  | .noDebugData => "No DWARF debug data found."

/-- The warnings about one input file, in the order they were found. -/
abbrev Warnings := List Warning

/-- Add a warning at the end. An oddity is reported once; missing data each time it is noticed. -/
def Warnings.add (warnings : Warnings) (warning : Warning) : Warnings :=
  if warning ≠ .noDebugData ∧ warning ∈ warnings then warnings else warnings ++ [warning]

end DebugOutline
