import DebugOutline.Bytes.Utf8
import DebugOutline.Dwarf.Encoded
import DebugOutline.Dwarf.Entry

/-! What an encoded value means for the attribute that has it. -/
namespace DebugOutline.Dwarf

/-- How the numbers of an attribute are taken. -/
inductive NumberClass where
  /-- Any number that is not negative, without a sign. -/
  | count
  /-- A code up to a limit, without a sign. -/
  | code (limit : UInt64)
  /-- A code up to a limit that is of no further use. -/
  | ignored (limit : UInt64)
  /-- As it is encoded. -/
  | plain
  deriving DecidableEq, Inhabited, Repr

namespace Attr

def numberClass : Attr → NumberClass
  | .byteSize | .bitOffset | .bitSize | .highPc | .bitStride | .dataMemberLocation | .declColumn
  | .declFile | .declLine | .byteStride | .callColumn | .callFile | .callLine => .count
  | .accessibility | .inlineCode | .encoding | .virtuality | .visibility | .callingConvention =>
    .code 0xff
  | .language => .code 0xffff
  | .ordering | .identifierCase | .decimalSign | .endianity => .ignored 0xff
  | .addressClass | .gnuDwoId => .ignored 0xffffffffffffffff
  | _ => .plain

/-- Whether a block of bytes is an expression. -/
def takesExpression : Attr → Bool
  | .location | .byteSize | .bitOffset | .bitSize | .stringLength | .lowerBound | .returnAddr
  | .bitStride | .upperBound | .count | .dataMemberLocation | .frameBase | .segment | .staticLink
  | .useLocation | .vtableElemLocation | .allocated | .associated | .dataLocation | .byteStride
  | .rank | .callValue | .callOrigin | .callTarget | .callTargetClobbered | .callDataLocation
  | .callDataValue => true
  | _ => false

end Attr

/-- A number that is not negative. -/
def Encoded.natural? : Encoded → Option UInt64
  | .unsigned value => some value
  | .signed value => if value < 0 then none else some value.toUInt64
  | _ => none

/-- The sections that texts are in. -/
structure TextSections where
  texts : Source := {}
  lineTexts : Source := {}
  offsets : Source := {}
  deriving Inhabited

/-- Where texts are found by number, and which unit references count from. -/
structure UnitPlace where
  encoding : Encoding
  offset : Nat
  textOffsetsBase : Nat := 0
  deriving Inhabited

/-- The bytes of the text at an offset. -/
def textBytesAt? (source : Source) (offset : Nat) : Option (List UInt8) :=
  Decode.at? source offset Decode.zeroEnded

/-- The bytes of the text that a value stands for. -/
def TextSections.bytes? (sections : TextSections) (unit : UnitPlace) :
    Encoded → Option (List UInt8)
  | .text bytes => some bytes
  | .textAt offset => textBytesAt? sections.texts offset
  | .lineTextAt offset => textBytesAt? sections.lineTexts offset
  | .textIndex index => do
    if sections.offsets.bytes.size < unit.textOffsetsBase then none
    let skipped := index.toUInt64 * unit.encoding.offsetSize.toUInt64
    let offset ← Decode.at? sections.offsets (unit.textOffsetsBase + skipped.toNat)
      unit.encoding.readOffset
    textBytesAt? sections.texts offset
  | _ => none

/-- The text that a value stands for. -/
def TextSections.text? (sections : TextSections) (unit : UnitPlace) (value : Encoded) :
    Option String :=
  (sections.bytes? unit value).map Utf8.decode

/-- The value of an attribute. A text that is not found is an error. -/
def interpret? (sections : TextSections) (unit : UnitPlace) (name : Attr) (value : Encoded) :
    Option Value :=
  match value with
  | .text _ | .textAt _ | .lineTextAt _ | .textIndex _ | .foreignText =>
    (sections.text? unit value).map .string
  | .flag isSet => some (.flag isSet)
  | .block => some (if name.takesExpression then .exprloc else .block)
  | .exprloc => some .exprloc
  | .unitReference offset => some (.reference (unit.offset.toUInt64 + offset))
  | .reference offset => some (.reference offset)
  | .sectionOffset _ | .addressIndex _ | .other => some .unsupported
  | .unsigned _ | .signed _ =>
    let plain := match value with
      | .signed value => Value.signed value
      | _ => .unsigned (value.natural?.getD 0)
    some (match name.numberClass, value.natural? with
      | .count, some number => .unsigned number
      | .code limit, some number => if number ≤ limit then .unsigned number else plain
      | .ignored limit, some number => if number ≤ limit then .unsupported else plain
      | _, _ => plain)

end DebugOutline.Dwarf
