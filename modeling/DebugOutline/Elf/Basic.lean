import DebugOutline.Bytes.Cursor

/-! Object files: their header, sections and symbols. -/
namespace DebugOutline.Elf

/-- Section types that matter here. -/
inductive SectionType where
  | symbols | texts | fixupsWithValue | empty | fixups | dynamicSymbols | symbolSections | other
  deriving DecidableEq, Inhabited, Repr

def SectionType.ofCode : Nat → SectionType
  | 2 => .symbols
  | 3 => .texts
  | 4 => .fixupsWithValue
  | 8 => .empty
  | 9 => .fixups
  | 11 => .dynamicSymbols
  | 18 => .symbolSections
  | _ => .other

def SectionType.isFixups : SectionType → Bool
  | .fixups | .fixupsWithValue => true
  | _ => false

/-- The header of a section. -/
structure SectionHeader where
  nameOffset : Nat
  type : SectionType
  flags : Nat
  offset : Nat
  size : Nat
  link : Nat
  info : Nat
  deriving DecidableEq, Inhabited, Repr

/-- The layout that the first bytes announce. -/
structure Layout where
  order : ByteOrder
  is64 : Bool
  deriving DecidableEq, Inhabited, Repr

namespace Layout

/-- The width of addresses, offsets and sizes. -/
def word (layout : Layout) : Nat := if layout.is64 then 8 else 4

def segmentHeaderSize (layout : Layout) : Nat := if layout.is64 then 56 else 32

def sectionHeaderSize (layout : Layout) : Nat := if layout.is64 then 64 else 40

def symbolSize (layout : Layout) : Nat := if layout.is64 then 24 else 16

end Layout

/-- What is needed of the header of a file. -/
structure FileHeader where
  layout : Layout
  machine : Nat
  segmentOffset : Nat
  sectionOffset : Nat
  segmentSize : Nat
  segmentCount : Nat
  sectionSize : Nat
  sectionCount : Nat
  nameSection : Nat
  deriving DecidableEq, Inhabited, Repr

/-- An object file. The first section stands for "no section". -/
structure File where
  source : Source
  header : FileHeader
  sections : Array SectionHeader := #[]
  /-- The section of the symbol table, or zero. -/
  symbolSection : Nat := 0
  /-- The value of every symbol. -/
  symbols : Array UInt64 := #[]
  deriving Inhabited

/-! ### Headers -/

/-- The layout of a file, if its first bytes announce one that is known. -/
def layout? (bytes : ByteArray) : Option Layout :=
  if bytes.size < 16 then none
  else
    let isMagic := (bytes.extract 0 4).data = #[0x7f, 0x45, 0x4c, 0x46]
    let order? : Option ByteOrder := match bytes.get! 5 with
      | 1 => some .little
      | 2 => some .big
      | _ => none
    let is64? : Option Bool := match bytes.get! 4 with
      | 1 => some false
      | 2 => some true
      | _ => none
    if isMagic ∧ bytes.get! 6 = 1 then
      match order?, is64? with
      | some order, some is64 => some ⟨order, is64⟩
      | _, _ => none
    else none

def readFileHeader (layout : Layout) : Decode FileHeader := do
  Decode.skip 18
  let machine ← Decode.unsigned 2
  Decode.skip (4 + layout.word)
  let segmentOffset ← Decode.unsigned layout.word
  let sectionOffset ← Decode.unsigned layout.word
  Decode.skip 6
  let segmentSize ← Decode.unsigned 2
  let segmentCount ← Decode.unsigned 2
  let sectionSize ← Decode.unsigned 2
  let sectionCount ← Decode.unsigned 2
  let nameSection ← Decode.unsigned 2
  return { layout, machine, segmentOffset, sectionOffset, segmentSize, segmentCount, sectionSize,
           sectionCount, nameSection }

def readSectionHeader (layout : Layout) : Decode SectionHeader := do
  let nameOffset ← Decode.unsigned 4
  let type ← Decode.unsigned 4
  let flags ← Decode.unsigned layout.word
  Decode.skip layout.word
  let offset ← Decode.unsigned layout.word
  let size ← Decode.unsigned layout.word
  let link ← Decode.unsigned 4
  let info ← Decode.unsigned 4
  Decode.skip (2 * layout.word)
  return { nameOffset, type := .ofCode type, flags, offset, size, link, info }

/-- The value of a symbol. -/
def readSymbol (layout : Layout) : Decode UInt64 := do
  Decode.skip (if layout.is64 then 8 else 4)
  let value ← Decode.unsigned layout.word
  Decode.skip 8
  return value.toUInt64

/-- Read so many things in a row. -/
def readMany (decode : Decode α) : Nat → Decode (List α)
  | 0 => return []
  | count + 1 => do
    let first ← decode
    return first :: (← readMany decode count)

/-- Whether a stretch lies within the bytes. -/
def isInside (bytes : ByteArray) (offset size : Nat) : Bool := offset + size ≤ bytes.size

/-! ### Sections -/

namespace File

variable (file : File)

def layout : Layout := file.header.layout

/-- The stretch of the file that a section takes. -/
def range? (header : SectionHeader) : Option (Nat × Nat) :=
  if header.type = .empty then none else some (header.offset, header.size)

/-- The bytes of a section. -/
def contents? (header : SectionHeader) : Option ByteArray :=
  match range? header with
  | none => some .empty
  | some (offset, size) =>
    if isInside file.source.bytes offset size then
      some (file.source.bytes.extract offset (offset + size))
    else none

/-- The name of a section, if the section of names has it, with its end. -/
def name? (header : SectionHeader) (names : SectionHeader) : Option (List UInt8) := do
  let (offset, size) ← range? names
  if !isInside file.source.bytes offset size || size < header.nameOffset then none
  else
    let start := offset + header.nameOffset
    let (name, _) ← (Decode.zeroEnded).run ⟨file.source, start, offset + size⟩
    return name

/-- The first section of a name. -/
def sectionNamed? (name : String) : Option (Nat × SectionHeader) := do
  let names ← file.sections[file.header.nameSection]?
  let named := ((file.sections.toList.zipIdx).drop 1).find? fun (header, _) =>
    file.name? header names == some name.toUTF8.toList
  named.map fun (header, index) => (index, header)

end File

/-- The largest number that a count or an index in the header can be; it stands for "elsewhere". -/
def elsewhere : Nat := 0xffff

/-- Counts and indices that do not fit the header stand in the first section. -/
def FileHeader.complete (header : FileHeader) (first : SectionHeader) : FileHeader where
  layout := header.layout
  machine := header.machine
  segmentOffset := header.segmentOffset
  sectionOffset := header.sectionOffset
  segmentSize := header.segmentSize
  sectionSize := header.sectionSize
  segmentCount := if header.segmentCount = elsewhere then first.info else header.segmentCount
  sectionCount := if header.sectionCount = 0 then first.size else header.sectionCount
  nameSection := if header.nameSection = elsewhere then first.link else header.nameSection

/-- Whether the header refers to the first section. -/
def FileHeader.needsFirst (header : FileHeader) : Bool :=
  header.segmentOffset != 0 && header.segmentCount == elsewhere ||
    header.sectionOffset != 0 && (header.sectionCount == 0 || header.nameSection == elsewhere)

/-- Whether a stretch ends before addresses do. -/
def hasEnd (header : SectionHeader) : Bool :=
  header.type == .empty || header.offset + header.size < UInt64.size

/-- Segments are not used, but their headers have to be there. -/
def hasSegments (header : FileHeader) (bytes : ByteArray) : Bool :=
  let size := header.layout.segmentHeaderSize
  header.segmentOffset == 0 || header.segmentCount == 0 ||
    header.segmentSize == size &&
      isInside bytes header.segmentOffset (header.segmentCount * size)

/-- The headers of all sections. -/
def readSections? (header : FileHeader) (source : Source) : Option (Array SectionHeader) :=
  let size := header.layout.sectionHeaderSize
  if header.sectionOffset = 0 ∨ header.sectionCount = 0 then some #[]
  else if header.sectionSize ≠ size ∨
      !isInside source.bytes header.sectionOffset (header.sectionCount * size) then none
  else
    (Decode.at? source header.sectionOffset
      (readMany (readSectionHeader header.layout) header.sectionCount)).map (·.toArray)

/-- The first section header, before their number is known. -/
def readFirstSection? (header : FileHeader) (source : Source) : Option SectionHeader :=
  if header.sectionOffset = 0 ∨ header.sectionSize ≠ header.layout.sectionHeaderSize then none
  else Decode.at? source header.sectionOffset (readSectionHeader header.layout)

/-- The symbols of the first section of a type: its index and their values. Their names have to be
in a section of texts, and further tables that belong to it have to be there. -/
def File.symbolTable? (file : File) (type : SectionType) : Option (Nat × Array UInt64) :=
  match ((file.sections.toList.zipIdx).drop 1).find? fun (header, _) => header.type = type with
  | none => some (0, #[])
  | some (header, index) => do
    let contents ← file.contents? header
    let layout := file.layout
    let symbols ← Decode.from? { file.source with bytes := contents }
      (readMany (readSymbol layout) (contents.size / layout.symbolSize))
    if header.link ≠ 0 then
      let names ← file.sections[header.link]?
      if names.type ≠ .texts ∨ !hasEnd names then none
    for further in file.sections.toList.drop 1 do
      if further.type = .symbolSections ∧ further.link = index then
        let _ ← file.contents? further
    return (index, symbols.toArray)

/-- A section that says what to fix has to name a section that is there and is not of its kind. -/
def File.hasFixupTargets (file : File) : Bool :=
  (file.sections.toList.drop 1).all fun header =>
    !header.type.isFixups || header.link != file.symbolSection || header.info == 0 ||
      (file.sections[header.info]?).any fun target => !target.type.isFixups

/-- An object file, if everything in it that other parts rely on is there. -/
def File.ofBytes? (bytes : ByteArray) : Option File := do
  let layout ← layout? bytes
  let source : Source := { bytes, order := layout.order }
  let header ← Decode.from? source (readFileHeader layout)
  let header ←
    if header.needsFirst then (readFirstSection? header source).map header.complete
    else some header
  if !hasSegments header bytes then none
  let sections ← readSections? header source
  let file : File := { source, header, sections }
  let hasNames := header.nameSection != 0 && (sections[header.nameSection]?).any hasEnd
  if !sections.isEmpty && !hasNames then none
  let (symbolSection, symbols) ← file.symbolTable? .symbols
  let _ ← file.symbolTable? .dynamicSymbols
  let file := { file with symbolSection, symbols }
  if file.hasFixupTargets then some file else none

end DebugOutline.Elf
