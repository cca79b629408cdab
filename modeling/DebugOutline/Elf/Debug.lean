import DebugOutline.Bytes.Inflate
import DebugOutline.Elf.Basic

/-! The sections with debugging information: unpacked, and with what the linker would put in. -/
namespace DebugOutline.Elf

/-! ### Fixups -/

/-- The types of fixups that put the address of a symbol in, for a machine and its word size. -/
def addressTypes (machine : Nat) (is64 : Bool) : List Nat :=
  match machine with
  | 2 | 18 => [3, 23]
  | 3 => [1, 20, 22]
  | 4 => [1, 2, 3]
  | 8 => [1, 2, 18]
  | 20 => [1]
  | 21 => [1, 38]
  | 22 => [1, 3, 4, 22]
  | 40 => [2]
  | 42 => [1]
  | 43 => [3, 23, 32, 54]
  | 62 => [1, 10, 11, 12, 14]
  | 83 => [1, 4]
  | 94 => [1]
  | 105 => [1, 5]
  | 164 => [6]
  | 183 => if is64 then [257, 258, 259] else [1]
  | 243 => [1, 2]
  | 247 => [1, 10]
  | 252 => [1]
  | 258 => [1, 2]
  | 263 => [1, 10]
  | _ => []

/-- A fixup as it is recorded. -/
structure FixupRecord where
  place : Nat
  symbol : Nat
  type : Nat
  /-- The value that the symbol is added to, unless it is the one in place. -/
  value : Option UInt64
  deriving DecidableEq, Inhabited, Repr

/-- Whether types of fixups have their most significant byte first in spite of the byte order. -/
def FileHeader.hasTypesReversed (header : FileHeader) : Bool :=
  header.machine == 8 && header.layout.is64 && header.layout.order == .little

/-- The symbol and the type of a fixup, which share a word. -/
def readFixupInfo (header : FileHeader) : Decode (Nat × Nat) := do
  if header.hasTypesReversed then
    let symbol ← Decode.unsigned 4
    return (symbol, Decode.number .big (← Decode.octets 4))
  else
    let info ← Decode.unsigned header.layout.word
    let symbolUnit := if header.layout.is64 then UInt32.size else UInt8.size
    return (info / symbolUnit, info % symbolUnit)

def readFixupRecord (header : FileHeader) (hasValue : Bool) : Decode FixupRecord := do
  let layout := header.layout
  let place ← Decode.unsigned layout.word
  let (symbol, type) ← readFixupInfo header
  let value ←
    if hasValue then do
      let value ← Decode.unsigned layout.word
      let isNegative := !layout.is64 && 0x80000000 ≤ value
      pure (some (if isNegative then value.toUInt64 - 0x100000000 else value.toUInt64))
    else pure none
  return ⟨place, symbol, type, value⟩

namespace File

variable (file : File)

/-- The records of a section; none if its bytes are not there. -/
def fixupRecords (header : SectionHeader) : List FixupRecord :=
  let layout := file.layout
  let hasValue := header.type == .fixupsWithValue
  let size := layout.word * if hasValue then 3 else 2
  ((file.contents? header).bind fun contents =>
    Decode.from? { file.source with bytes := contents }
      (readMany (readFixupRecord file.header hasValue) (contents.size / size))).getD []

/-- What a record puts in, if its type is known and its symbol is there. -/
def fixup? (record : FixupRecord) : Option Fixup :=
  if record.symbol = 0 ∨
      !(addressTypes file.header.machine file.layout.is64).contains record.type then none
  else (file.symbols[record.symbol]?).map fun address =>
    ⟨record.value.isNone, address + record.value.getD 0⟩

/-- All fixups of a section by place. A later one for the same place replaces an earlier one. -/
def fixups (index : Nat) : Std.HashMap Nat Fixup :=
  let sections := file.sections.toList.drop 1 |>.filter fun header =>
    header.type.isFixups && header.link == file.symbolSection && header.info == index
  (sections.flatMap file.fixupRecords).foldl (fun table record =>
    match file.fixup? record with
    | some fixup => table.insert record.place fixup
    | none => table) ∅

/-! ### Packed sections -/

/-- The flag of a section with packed bytes. -/
def packedFlag : Nat := 0x800

/-- The one known method of packing. -/
def packingMethod : Nat := 1

/-- The bytes in a stretch that starts with a header of its own, unpacked. The header may reach
beyond the stretch only if nothing follows it there. -/
def unpack? (offset size : Nat) (readSize : Decode Nat) : Option ByteArray := do
  if file.source.bytes.size < offset then none
  let (unpackedSize, cursor) ←
    readSize.run ⟨file.source, offset, file.source.bytes.size⟩
  let stop := offset + size
  if stop < cursor.place ∨ file.source.bytes.size < stop then none
  Inflate.unpack? (file.source.bytes.extract cursor.place stop) unpackedSize

/-- The header of a section with the flag for packed bytes: method, size, alignment. -/
def readPackedSize : Decode Nat := do
  let layout := file.layout
  let method ← Decode.unsigned 4
  if layout.is64 then Decode.skip 4
  let size ← Decode.unsigned layout.word
  Decode.skip layout.word
  if method = packingMethod then return size else failure

/-- The older header: a mark, and the size with the most significant byte first. -/
def readMarkedSize : Decode Nat := do
  let mark ← Decode.octets 8
  let size ← Decode.octets 4
  if mark = [0x5a, 0x4c, 0x49, 0x42, 0, 0, 0, 0] then return Decode.number .big size else failure

/-- The bytes of a section, unpacked if need be. -/
def unpacked? (header : SectionHeader) (isMarked : Bool) : Option ByteArray :=
  let isPacked := header.flags &&& packedFlag != 0
  if isPacked || isMarked then
    match range? header with
    | some (offset, size) =>
      file.unpack? offset size (if isPacked then file.readPackedSize else readMarkedSize)
    | none => none
  else file.contents? header

/-- A section of debugging information by what follows the dot and the word for it. Packed sections
may have a name of their own. A section that is not there is empty; a damaged one is an error. -/
def debugSection? (name : String) : Option Source :=
  let plain? := (file.sectionNamed? (".debug_" ++ name)).map fun found => (found, false)
  let marked? := (file.sectionNamed? (".zdebug_" ++ name)).map fun found => (found, true)
  match plain?.or marked? with
  | none => some { order := file.layout.order }
  | some ((index, header), isMarked) =>
    (file.unpacked? header isMarked).map fun bytes =>
      { bytes, order := file.layout.order, fixups := file.fixups index }

end File

end DebugOutline.Elf
