import DebugOutline.Dwarf.Attr
import DebugOutline.Dwarf.Encoding
import DebugOutline.Dwarf.Form

/-! Attribute values as their forms encode them. -/
namespace DebugOutline.Dwarf

/-- A decoded value before its attribute is looked at. -/
inductive Encoded where
  | unsigned (value : UInt64)
  | signed (value : Int64)
  | flag (isSet : Bool)
  | block
  | exprloc
  | sectionOffset (offset : Nat)
  /-- An entry by its offset in the unit. -/
  | unitReference (offset : UInt64)
  /-- An entry by its offset in the section. -/
  | reference (offset : UInt64)
  | text (bytes : List UInt8)
  | textAt (offset : Nat)
  | lineTextAt (offset : Nat)
  | textIndex (index : Nat)
  /-- A text in another file. -/
  | foreignText
  | addressIndex (index : Nat)
  | other
  deriving DecidableEq, Inhabited, Repr

namespace Encoded

def readUnsigned (width : Nat) : Decode Encoded :=
  return .unsigned (← Decode.unsigned width).toUInt64

def readBlock (length : Nat) : Decode Encoded := do
  Decode.skip length
  return .block

/-- The forms of texts, which also stand for file names. -/
def readText? (encoding : Encoding) (form : Form) : Option (Decode Encoded) :=
  match form with
  | .string => some do return .text (← Decode.zeroEnded)
  | .strp => some do return .textAt (← encoding.readOffset)
  | .lineStrp => some do return .lineTextAt (← encoding.readOffset)
  | .strpSup | .gnuStrpAlt => some do
    let _ ← encoding.readOffset
    return .foreignText
  | .strx | .gnuStrIndex => some do return .textIndex (← Decode.uleb128)
  | .strx1 => some do return .textIndex (← Decode.unsigned 1)
  | .strx2 => some do return .textIndex (← Decode.unsigned 2)
  | .strx3 => some do return .textIndex (← Decode.unsigned 3)
  | .strx4 => some do return .textIndex (← Decode.unsigned 4)
  | _ => none

/-- The forms of numbers and blocks. -/
def readData? (form : Form) : Option (Decode Encoded) :=
  match form with
  | .block1 => some do readBlock (← Decode.unsigned 1)
  | .block2 => some do readBlock (← Decode.unsigned 2)
  | .block4 => some do readBlock (← Decode.unsigned 4)
  | .block => some do readBlock (← Decode.uleb128)
  | .data1 => some (readUnsigned 1)
  | .data2 => some (readUnsigned 2)
  | .data4 => some (readUnsigned 4)
  | .data8 => some (readUnsigned 8)
  | .data16 => some (readBlock 16)
  | .udata => some do return .unsigned (← Decode.uleb128).toUInt64
  | .sdata => some do return .signed (← Decode.sleb128)
  | .flag => some do return .flag ((← Decode.u8) != 0)
  | _ => none

/-- The forms of references to entries. -/
def readReference? (encoding : Encoding) (form : Form) : Option (Decode Encoded) :=
  let inUnit (read : Decode Nat) : Decode Encoded := do return .unitReference (← read).toUInt64
  match form with
  | .ref1 => some (inUnit (Decode.unsigned 1))
  | .ref2 => some (inUnit (Decode.unsigned 2))
  | .ref4 => some (inUnit (Decode.unsigned 4))
  | .ref8 => some (inUnit (Decode.unsigned 8))
  | .refUdata => some (inUnit Decode.uleb128)
  | .refAddr => some do
    let size := if encoding.version = 2 then encoding.addressSize else encoding.offsetSize
    return .reference (← Decode.fixed size).toUInt64
  | .refSig8 | .refSup8 => some do Decode.skip 8; return .other
  | .refSup4 => some do Decode.skip 4; return .other
  | .gnuRefAlt => some do
    let _ ← encoding.readOffset
    return .other
  | _ => none

/-- The forms of addresses and of places in other sections. -/
def readPlace? (encoding : Encoding) (form : Form) : Option (Decode Encoded) :=
  match form with
  | .addr => some do
    let _ ← encoding.readAddress
    return .other
  | .secOffset => some do return .sectionOffset (← encoding.readOffset)
  | .addrx | .gnuAddrIndex => some do return .addressIndex (← Decode.uleb128)
  | .addrx1 => some do return .addressIndex (← Decode.unsigned 1)
  | .addrx2 => some do return .addressIndex (← Decode.unsigned 2)
  | .addrx3 => some do return .addressIndex (← Decode.unsigned 3)
  | .addrx4 => some do return .addressIndex (← Decode.unsigned 4)
  | .loclistx | .rnglistx => some do
    let _ ← Decode.uleb128
    return .other
  | _ => none

/-- Attributes whose plain numbers are offsets into other sections where these had no form of their
own. -/
def mayBeOffset (name : Attr) (version : Nat) : Bool :=
  match name with
  | .location | .stmtList | .stringLength | .returnAddr | .startScope | .frameBase | .macroInfo
  | .macros | .segment | .staticLink | .useLocation | .vtableElemLocation | .ranges => true
  | .dataMemberLocation => version == 2 || version == 3
  | _ => false

/-- Whether a number of this form is as wide as an offset. -/
def isOffsetWide (encoding : Encoding) (form : Form) : Bool :=
  form == if encoding.is64 then .data8 else .data4

/-- A value of a form, for an attribute. The form may be given along with the value. -/
def read (encoding : Encoding) (name : Attr) (constant : Option Int64) :
    Nat → Form → Decode Encoded
  | 0, _ => failure
  | fuel + 1, form =>
    if form = .indirect then do
      read encoding name constant fuel ⟨(← Decode.uleb16).toUInt16⟩
    else if form = .implicitConst then
      match constant with
      | some value => return .signed value
      | none => failure
    else if form = .flagPresent then return .flag true
    else if form = .exprloc then do
      Decode.skip (← Decode.uleb128)
      return .exprloc
    else if isOffsetWide encoding form && mayBeOffset name encoding.version then
      return .sectionOffset (← encoding.readOffset)
    else
      match (readText? encoding form).or ((readData? form).or
          ((readReference? encoding form).or (readPlace? encoding form))) with
      | some decode => decode
      | none => failure

end Encoded

end DebugOutline.Dwarf
