import DebugOutline.Dwarf.LineProgram
import DebugOutline.Dwarf.Stream

/-! Whole units, with all that they refer to in other sections. -/
namespace DebugOutline.Dwarf

/-- The sections that units are read from. -/
structure Sections where
  info : Source := {}
  abbreviations : Source := {}
  addresses : Source := {}
  lines : Source := {}
  texts : TextSections := {}
  deriving Inhabited

/-- The header of a unit, and the stretch with its entries. -/
structure UnitHeader where
  offset : Nat
  encoding : Encoding
  abbreviationOffset : Nat
  entries : Cursor
  deriving Inhabited

/-- What stands behind the header of each type of unit of version 5. -/
def skipUnitIdentity (encoding : Encoding) (type : Nat) : Decode Unit := do
  match type with
  | 1 | 3 => return ()
  | 4 | 5 => Decode.skip 8
  | 2 | 6 =>
    Decode.skip 8
    let _ ← encoding.readOffset
  | _ => failure

/-- The header of the next unit. The cursor is left behind the unit. -/
def readUnitHeader : Decode UnitHeader := do
  let offset := (← get).place
  let (length, is64) ← readLength
  let inner ← Decode.split length
  let after ← get
  set inner
  let version ← Decode.unsigned 2
  if version < 2 ∨ 5 < version then failure
  let offsetSize := Encoding.offsetSize ⟨is64, version, 0⟩
  let header ←
    if version < 5 then do
      let abbreviationOffset ← Decode.fixed offsetSize
      let encoding : Encoding := ⟨is64, version, ← readAddressSize⟩
      pure (UnitHeader.mk offset encoding abbreviationOffset (← get))
    else do
      let type ← Decode.u8
      let encoding : Encoding := ⟨is64, version, ← readAddressSize⟩
      let abbreviationOffset ← encoding.readOffset
      skipUnitIdentity encoding type
      pure (UnitHeader.mk offset encoding abbreviationOffset (← get))
  set after
  return header

/-- Section offsets among the values of an attribute; the last one counts. -/
def lastOffset? (values : List (Attr × Encoded)) (names : List Attr) : Option Nat :=
  (values.filterMap fun (name, value) =>
    match value with
    | .sectionOffset offset => if names.contains name then some offset else none
    | _ => none).getLast?

/-- A low address that is given by its number has to be found. -/
def hasLowAddress (sections : Sections) (encoding : Encoding) (values : List (Attr × Encoded)) :
    Bool :=
  match (values.filter fun (name, _) => name == .lowPc).getLast? with
  | some (_, .addressIndex index) =>
    let base := (lastOffset? values [.addrBase, .gnuAddrBase]).getD 0
    let skipped := index.toUInt64 * encoding.addressSize.toUInt64
    base ≤ sections.addresses.bytes.size &&
      (Decode.at? sections.addresses (base + skipped.toNat) encoding.readAddress).isSome
  | _ => true

/-- The files and rows of the line table at an offset. -/
def lineTable? (sections : Sections) (unit : UnitPlace) (offset : Nat) :
    Option (Array (Option String) × List LineRow) := do
  let header ← Decode.at? sections.lines offset (readLineHeader unit.encoding.addressSize)
  let paths ← header.paths.mapM (sections.texts.text? unit)
  return (fileTable header.encoding.version paths, ← header.rows?)

/-- The entries, files and rows of a unit. Its first entry says where the rest is; a unit without
entries is an error. -/
def UnitHeader.record? (sections : Sections) (header : UnitHeader) : Option UnitRecord := do
  let abbreviations ← abbreviationsAt? sections.abbreviations header.abbreviationOffset
  let (stream, _) ← (readStream header.encoding abbreviations (header.entries.remaining + 1) 0).run
    header.entries
  let first ← stream.head?
  let unit : UnitPlace := {
    encoding := header.encoding
    offset := header.offset
    textOffsetsBase := (lastOffset? first.values [.strOffsetsBase]).getD 0 }
  if !hasLowAddress sections header.encoding first.values then none
  let (files, rows) ← match lastOffset? first.values [.stmtList] with
    | some offset => lineTable? sections unit offset
    | none => some (#[none], [])
  let items ← stream.mapM (StreamEntry.interpret? sections.texts unit)
  return { files, entries := (nest 0 [] items).toArray, rows := rows.toArray }

/-- The headers of all units, which fill the section. -/
def readUnitHeaders : Nat → Decode (List UnitHeader)
  | 0 => failure
  | fuel + 1 => do
    if ← Decode.isAtEnd then return []
    let header ← readUnitHeader
    return header :: (← readUnitHeaders fuel)

/-- All units. -/
def Sections.units? (sections : Sections) : Option (List UnitRecord) := do
  let headers ← Decode.from? sections.info (readUnitHeaders (sections.info.bytes.size + 1))
  headers.mapM (UnitHeader.record? sections)

end DebugOutline.Dwarf
