import Std.Data.HashMap

/-! Reading numbers and texts from the bytes of a section. -/
namespace DebugOutline

/-- Which byte of a number comes first: the least or the most significant. -/
inductive ByteOrder where
  | little | big
  deriving DecidableEq, Inhabited, Repr

/-- What the linker would put in a place: a value of its own, or something added to the value that
is there. -/
structure Fixup where
  isAdded : Bool
  amount : UInt64
  deriving DecidableEq, Inhabited, Repr

/-- Bytes, how to read them, and what to put in some places. -/
structure Source where
  bytes : ByteArray := .empty
  order : ByteOrder := .little
  fixups : Std.HashMap Nat Fixup := ∅
  deriving Inhabited

namespace Source

def byte? (source : Source) (index : Nat) : Option UInt8 :=
  if h : index < source.bytes.size then some source.bytes[index] else none

/-- The value to use in place of the one read at a place. -/
def fix (source : Source) (place value : Nat) : Nat :=
  match source.fixups[place]? with
  | none => value
  | some fixup =>
    if fixup.isAdded then (value.toUInt64 + fixup.amount).toNat else fixup.amount.toNat

end Source

/-- A place in a source and where reading has to stop. -/
structure Cursor where
  source : Source
  place : Nat
  limit : Nat
  deriving Inhabited

def Source.start (source : Source) : Cursor := ⟨source, 0, source.bytes.size⟩

def Cursor.isAtEnd (cursor : Cursor) : Bool := cursor.limit ≤ cursor.place

def Cursor.remaining (cursor : Cursor) : Nat := cursor.limit - cursor.place

/-- A step of reading; it fails where the bytes run out or make no sense. -/
abbrev Decode := StateT Cursor Option

namespace Decode

/-- Read from the start of a source. -/
def from? (source : Source) (decode : Decode α) : Option α := (decode.run source.start).map (·.1)

/-- Read from a place in a source, which may be its end. -/
def at? (source : Source) (place : Nat) (decode : Decode α) : Option α :=
  if source.bytes.size < place then none
  else (decode.run ⟨source, place, source.bytes.size⟩).map (·.1)

def isAtEnd : Decode Bool := return (← get).isAtEnd

def skip (count : Nat) : Decode Unit := do
  let cursor ← get
  if cursor.remaining < count then failure else set { cursor with place := cursor.place + count }

/-- Cut off the next bytes, to be read on their own. -/
def split (count : Nat) : Decode Cursor := do
  let cursor ← get
  skip count
  return { cursor with limit := cursor.place + count }

def u8 : Decode Nat := do
  let cursor ← get
  skip 1
  match cursor.source.byte? cursor.place with
  | some byte => return byte.toNat
  | none => failure

/-- So many bytes, as they stand. -/
def octets : Nat → Decode (List Nat)
  | 0 => return []
  | count + 1 => do
    let first ← u8
    return first :: (← octets count)

/-- The number that bytes write in either order. -/
def number (order : ByteOrder) (octets : List Nat) : Nat :=
  let bigEndian := match order with
    | .little => octets.reverse
    | .big => octets
  bigEndian.foldl (fun value octet => value * 256 + octet) 0

/-- An unsigned number of a fixed width in bytes. -/
def unsigned (width : Nat) : Decode Nat := do
  let cursor ← get
  return number cursor.source.order (← octets width)

/-- A number that the linker may have replaced. -/
def fixed (width : Nat) : Decode Nat := do
  let cursor ← get
  let value ← unsigned width
  return cursor.source.fix cursor.place value

/-! ### Numbers of variable length -/

/-- Groups of seven bits from bit `shift` on, the least significant first. Nothing may stand beyond
bit 63. -/
def groups : Nat → Nat → Decode Nat
  | 0, _ => failure
  | fuel + 1, shift => do
    let octet ← u8
    if shift = 63 ∧ 1 < octet then failure
    let low := octet % 128 * 2 ^ shift
    if octet < 128 then return low else return low + (← groups fuel (shift + 7))

/-- An unsigned number of 64 bits. -/
def uleb128 : Decode Nat := groups 10 0

/-- An unsigned number of 16 bits, in three bytes at most. -/
def uleb16 : Decode Nat := do
  let first ← u8
  if first < 128 then return first
  let second ← u8
  let low := first % 128 + (second % 128) <<< 7
  if second < 128 then return low
  let third ← u8
  if 3 < third then failure else return low + third <<< 14

/-- Like `groups`; the last group ends in the sign. -/
def signedGroups : Nat → Nat → Decode Int
  | 0, _ => failure
  | fuel + 1, shift => do
    let octet ← u8
    if shift = 63 ∧ octet ≠ 0 ∧ octet ≠ 0x7f then failure
    let low : Int := octet % 128 * 2 ^ shift
    if 128 ≤ octet then return low + (← signedGroups fuel (shift + 7))
    else if shift < 63 ∧ 64 ≤ octet then return low - 2 ^ (shift + 7)
    else return low

/-- A signed number of 64 bits. -/
def sleb128 : Decode Int64 := return Int64.ofInt (← signedGroups 10 0)

/-! ### Texts -/

/-- Bytes up to a zero byte, which is gone over. -/
def untilZero : Nat → Decode (List UInt8)
  | 0 => failure
  | fuel + 1 => do
    let octet ← u8
    if octet = 0 then return [] else return octet.toUInt8 :: (← untilZero fuel)

/-- The bytes of a text that ends in a zero byte. -/
def zeroEnded : Decode (List UInt8) := do untilZero (← get).remaining

end Decode

end DebugOutline
