import DebugOutline.Bytes.Cursor

/-! What the header of a unit or of a line table says about the numbers in it. -/
namespace DebugOutline.Dwarf

/-- The width of offsets, the version of the format, and the width of addresses. -/
structure Encoding where
  is64 : Bool
  version : Nat
  addressSize : Nat
  deriving DecidableEq, Inhabited, Repr

namespace Encoding

def offsetSize (encoding : Encoding) : Nat := if encoding.is64 then 8 else 4

/-- An offset into a section. -/
def readOffset (encoding : Encoding) : Decode Nat := Decode.fixed encoding.offsetSize

def readAddress (encoding : Encoding) : Decode Nat := Decode.fixed encoding.addressSize

end Encoding

/-- The length of what follows; a mark in front of it makes it and all offsets wide. -/
def readLength : Decode (Nat × Bool) := do
  let length ← Decode.unsigned 4
  if length < 0xfffffff0 then return (length, false)
  else if length = 0xffffffff then return (← Decode.unsigned 8, true)
  else failure

/-- The width of addresses. -/
def readAddressSize : Decode Nat := do
  let size ← Decode.u8
  if [1, 2, 4, 8].contains size then return size else failure

end DebugOutline.Dwarf
