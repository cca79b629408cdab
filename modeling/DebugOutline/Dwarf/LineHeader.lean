import DebugOutline.Dwarf.Encoded

/-! The headers of line tables: how their programs are encoded, and the files they name. -/
namespace DebugOutline.Dwarf

/-- What a line program runs with. -/
structure LineHeader where
  encoding : Encoding
  /-- The unit in which addresses advance. -/
  minimumLength : Nat
  /-- Operations in an instruction. -/
  operations : Nat
  startsAsStatement : Bool
  lineBase : Int
  lineRange : Nat
  /-- The first opcode that advances line and address at once. -/
  opcodeBase : Nat
  /-- The number of operands of every opcode below that. -/
  operandCounts : List Nat
  /-- The paths of the files, as they are encoded. -/
  paths : List Encoded
  program : Cursor
  deriving Inhabited

/-- The number of the part of a file entry that is its path. -/
def pathPart : Nat := 1

/-- The parts of the entries of a table, with their forms. One of them is the path. -/
def readEntryParts : Decode (List (Nat × Form)) := do
  let count ← Decode.u8
  let parts ← (List.replicate count ()).mapM fun _ => do
    let part ← Decode.uleb128
    return (part, (⟨(← Decode.uleb16).toUInt16⟩ : Form))
  if (parts.map (·.1)).count pathPart = 1 then return parts else failure

/-- A part of a file entry. Only texts, numbers, blocks and section offsets can be there. -/
def readEntryPart (encoding : Encoding) (form : Form) : Decode Encoded :=
  match (Encoded.readText? encoding form).or (Encoded.readData? form) with
  | some decode => decode
  | none =>
    if form = .secOffset then return .sectionOffset (← encoding.readOffset) else failure

/-- The path of a file entry. -/
def readEntryPath (encoding : Encoding) (parts : List (Nat × Form)) : Decode Encoded := do
  let values ← parts.mapM fun (part, form) => do
    return (part, ← readEntryPart encoding form)
  match values.lookup pathPart with
  | some path => return path
  | none => failure

/-- So many paths. Each takes some bytes, so that `fuel` of them cannot all be read from fewer
bytes. -/
def readPaths (encoding : Encoding) (parts : List (Nat × Form)) : Nat → Nat → Decode (List Encoded)
  | _, 0 => return []
  | 0, _ + 1 => failure
  | fuel + 1, count + 1 => do
    let path ← readEntryPath encoding parts
    return path :: (← readPaths encoding parts fuel count)

/-- A table of directories or files with the description of its entries in front. -/
def readDescribedPaths (encoding : Encoding) : Decode (List Encoded) := do
  let parts ← readEntryParts
  let count ← Decode.uleb128
  readPaths encoding parts ((← get).remaining + 1) count

/-- Texts up to an empty one. Behind each there may be numbers. -/
def readTexts (numbers : Nat) : Nat → Decode (List Encoded)
  | 0 => failure
  | fuel + 1 => do
    let text ← Decode.zeroEnded
    if text.isEmpty then return []
    else
      let _ ← (List.replicate numbers ()).mapM fun _ => Decode.uleb128
      return .text text :: (← readTexts numbers fuel)

/-- The paths of the files. The directories in front are only gone over. -/
def readFiles (encoding : Encoding) : Decode (List Encoded) := do
  if encoding.version < 5 then
    let _ ← readTexts 0 ((← get).remaining + 1)
    readTexts 3 ((← get).remaining + 1)
  else
    let _ ← readDescribedPaths encoding
    readDescribedPaths encoding

/-- The part of the header whose length stands in front of it. -/
def readLineSettings (encoding : Encoding) (program : Cursor) : Decode LineHeader := do
  let minimumLength ← Decode.u8
  let operations ← if encoding.version < 4 then pure 1 else Decode.u8
  let startsAsStatement := (← Decode.u8) != 0
  let lineBase ← Decode.u8
  let lineRange ← Decode.u8
  let opcodeBase ← Decode.u8
  if minimumLength = 0 ∨ operations = 0 ∨ lineRange = 0 ∨ opcodeBase = 0 then failure
  let operandCounts ← Decode.octets (opcodeBase - 1)
  return {
    encoding, minimumLength, operations, startsAsStatement, lineRange, opcodeBase, operandCounts
    lineBase := if lineBase < 128 then lineBase else lineBase - 256
    paths := ← readFiles encoding
    program }

/-- The header of a line table. Early versions leave the width of addresses to the unit. -/
def readLineHeader (unitAddressSize : Nat) : Decode LineHeader := do
  let (length, is64) ← readLength
  let table ← Decode.split length
  set table
  let version ← Decode.unsigned 2
  if version < 2 ∨ 5 < version then failure
  let addressSize ←
    if version < 5 then pure unitAddressSize
    else do
      let addressSize ← readAddressSize
      let selectorSize ← Decode.u8
      if selectorSize ≠ 0 then failure else pure addressSize
  let encoding : Encoding := ⟨is64, version, addressSize⟩
  let headerLength ← Decode.unsigned encoding.offsetSize
  let header ← Decode.split headerLength
  let program ← get
  set header
  readLineSettings encoding program

/-- The file table of a line table. Before version 5 file numbers start at one, and zero is for "no
file". -/
def fileTable (version : Nat) (paths : List String) : Array (Option String) :=
  let files := paths.map some
  (if version < 5 then none :: files else files).toArray

end DebugOutline.Dwarf
