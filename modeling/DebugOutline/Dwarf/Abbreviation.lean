import DebugOutline.Dwarf.Attr
import DebugOutline.Dwarf.Form
import DebugOutline.Dwarf.Tag
import DebugOutline.Bytes.Cursor

/-! Abbreviations: the shapes of entries, by number. -/
namespace DebugOutline.Dwarf

/-- An attribute of all entries of a shape. -/
structure AttributeShape where
  name : Attr
  form : Form
  /-- A value that all these entries share. -/
  constant : Option Int64 := none
  deriving DecidableEq, Inhabited, Repr

/-- A shape of entries. -/
structure Abbreviation where
  tag : Tag
  hasChildren : Bool
  attributes : List AttributeShape
  deriving DecidableEq, Inhabited, Repr

abbrev Abbreviations := Std.HashMap Nat Abbreviation

/-- Attributes up to the pair of zeros. -/
def readShapes : Nat → Decode (List AttributeShape)
  | 0 => failure
  | fuel + 1 => do
    let name ← Decode.uleb16
    let form ← Decode.uleb16
    if name = 0 then
      if form = 0 then return [] else failure
    else if form = 0 then failure
    else
      let form : Form := ⟨form.toUInt16⟩
      let constant ← if form = .implicitConst then some <$> Decode.sleb128 else pure none
      return ⟨⟨name.toUInt16⟩, form, constant⟩ :: (← readShapes fuel)

def readAbbreviation : Decode Abbreviation := do
  let tag ← Decode.uleb16
  let children ← Decode.u8
  if tag = 0 ∨ 1 < children then failure
  else
    return ⟨⟨tag.toUInt16⟩, children == 1, ← readShapes ((← get).remaining + 1)⟩

/-- Abbreviations up to number zero or to the end of the section. No number is given twice. -/
def readAbbreviations : Nat → Abbreviations → Decode Abbreviations
  | 0, _ => failure
  | fuel + 1, table => do
    if ← Decode.isAtEnd then return table
    let number ← Decode.uleb128
    if number = 0 then return table
    else
      let abbreviation ← readAbbreviation
      if table.contains number then failure
      else readAbbreviations fuel (table.insert number abbreviation)

/-- The abbreviations that start at an offset. -/
def abbreviationsAt? (source : Source) (offset : Nat) : Option Abbreviations :=
  Decode.at? source offset (readAbbreviations (source.bytes.size + 1) ∅)

end DebugOutline.Dwarf
