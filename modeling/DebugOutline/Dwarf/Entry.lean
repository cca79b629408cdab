import DebugOutline.Dwarf.Tag
import DebugOutline.Dwarf.Attr
import DebugOutline.Dwarf.Form

/-! Decoded debugging information: entries with their attributes, and line table rows, unit by unit. -/
namespace DebugOutline.Dwarf

/-- A decoded attribute value. Expressions, blocks and values of other classes are told apart but
not kept. -/
inductive Value where
  | string (text : String)
  | unsigned (value : UInt64)
  | signed (value : Int64)
  | flag (isSet : Bool)
  | reference (offset : UInt64)
  | exprloc
  | block
  | unsupported
  deriving DecidableEq, Inhabited, Repr

namespace Value

def string? : Value → Option String
  | .string text => some text
  | _ => none

def unsigned? : Value → Option UInt64
  | .unsigned value => some value
  | _ => none

def flag? : Value → Option Bool
  | .flag isSet => some isSet
  | _ => none

def reference? : Value → Option UInt64
  | .reference offset => some offset
  | _ => none

/-- An integer of either sign, in base ten. -/
def integerText? : Value → Option String
  | .unsigned value => some (Text.decimal value.toNat)
  | .signed value => some (Text.signedDecimal value.toInt)
  | _ => none

end Value

/-- One attribute of an entry. -/
structure Attribute where
  name : Attr
  form : Form
  value : Value
  deriving DecidableEq, Inhabited, Repr

/-- A debugging information entry; `parent` is the offset of the entry it is nested in. -/
structure Entry where
  offset : UInt64
  tag : Tag
  parent : Option UInt64 := none
  attributes : List Attribute := []
  deriving DecidableEq, Inhabited, Repr

namespace Entry

/-- The first attribute of that name. -/
def attribute? (entry : Entry) (name : Attr) : Option Attribute :=
  entry.attributes.find? (·.name == name)

def has (entry : Entry) (name : Attr) : Bool := (entry.attribute? name).isSome

/-- Add an attribute after those already there. -/
def push (entry : Entry) (name : Attr) (form : Form) (value : Value) : Entry :=
  { entry with attributes := entry.attributes ++ [⟨name, form, value⟩] }

def named (entry : Entry) (name : String) : Entry := entry.push .name .string (.string name)

def unsigned (entry : Entry) (name : Attr) (value : UInt64) : Entry :=
  entry.push name .udata (.unsigned value)

def signed (entry : Entry) (name : Attr) (value : Int64) : Entry :=
  entry.push name .sdata (.signed value)

def flag (entry : Entry) (name : Attr) : Entry := entry.push name .flagPresent (.flag true)

def reference (entry : Entry) (name : Attr) (offset : UInt64) : Entry :=
  entry.push name .ref4 (.reference offset)

/-- Give the place of declaration. -/
def declaredAt (entry : Entry) (file line : UInt64) : Entry :=
  (entry.unsigned .declFile file).unsigned .declLine line

def typed (entry : Entry) (offset : UInt64) : Entry := entry.reference .type offset

end Entry

/-- One row of a line table. -/
structure LineRow where
  line : UInt64 := 0
  address : UInt64 := 0
  file : UInt64 := 0
  discriminator : UInt64 := 0
  isStatement : Bool := false
  basicBlock : Bool := false
  endSequence : Bool := false
  prologueEnd : Bool := false
  epilogueBegin : Bool := false
  deriving DecidableEq, Inhabited, Repr

/-- What one unit records: its file table, its entries depth first, its line rows.
A file table entry without a path means "no file". -/
structure UnitRecord where
  files : Array (Option String) := #[]
  entries : Array Entry := #[]
  rows : Array LineRow := #[]
  deriving DecidableEq, Inhabited, Repr

namespace UnitRecord

/-- A unit whose file numbers start at one. -/
def empty : UnitRecord := { files := #[none] }

/-- Register a file; the answer is its number. -/
def addFile (unit : UnitRecord) (path : String) : UInt64 × UnitRecord :=
  (unit.files.size.toUInt64, { unit with files := unit.files.push (some path) })

def addEntry (unit : UnitRecord) (entry : Entry) : UnitRecord :=
  { unit with entries := unit.entries.push entry }

end UnitRecord

end DebugOutline.Dwarf
