import DebugOutline.Dwarf.Entry
import DebugOutline.Dwarf.LineHeader

/-! Line programs: instructions for a machine that puts out the rows of a line table. -/
namespace DebugOutline.Dwarf

inductive LineInstruction where
  /-- Advance line and address at once, and put out a row. -/
  | special (opcode : Nat)
  | copy
  | advanceAddress (operations : UInt64)
  | advanceLine (lines : Int64)
  | setFile (file : UInt64)
  | toggleStatement
  | markBasicBlock
  /-- Advance the address as the last special opcode does. -/
  | advanceLikeLast
  | advanceFixed (count : Nat)
  | markPrologueEnd
  | markEpilogueBegin
  | endSequence
  | setAddress (address : Nat)
  | setDiscriminator (discriminator : UInt64)
  /-- Without effect on the rows. -/
  | ignored
  deriving DecidableEq, Inhabited, Repr

/-! ### Instructions -/

/-- So many numbers that do not matter. -/
def skipNumbers (count : Nat) : Decode Unit := do
  let _ ← (List.replicate count ()).mapM fun _ => Decode.uleb128

/-- An instruction with its length in front, which it may not use up. -/
def readExtended (header : LineHeader) : Decode LineInstruction := do
  let inner ← Decode.split (← Decode.uleb128)
  let after ← get
  set inner
  let instruction ← match ← Decode.u8 with
    | 1 => pure LineInstruction.endSequence
    | 2 => .setAddress <$> header.encoding.readAddress
    | 3 =>
      if header.encoding.version < 5 then do
        let _ ← Decode.zeroEnded
        skipNumbers 3
        pure .ignored
      else pure .ignored
    | 4 => do pure (.setDiscriminator (← Decode.uleb128).toUInt64)
    | _ => pure .ignored
  set after
  return instruction

/-- An instruction with an opcode of its own. Those without a meaning tell how many operands they
have. -/
def readStandard (header : LineHeader) (opcode : Nat) : Decode LineInstruction := do
  match opcode with
  | 1 => return .copy
  | 2 => return .advanceAddress (← Decode.uleb128).toUInt64
  | 3 => return .advanceLine (← Decode.sleb128)
  | 4 => return .setFile (← Decode.uleb128).toUInt64
  | 5 | 12 => do
    skipNumbers 1
    return .ignored
  | 6 => return .toggleStatement
  | 7 => return .markBasicBlock
  | 8 => return .advanceLikeLast
  | 9 => return .advanceFixed (← Decode.unsigned 2)
  | 10 => return .markPrologueEnd
  | 11 => return .markEpilogueBegin
  | _ => do
    skipNumbers (header.operandCounts[opcode - 1]?.getD 0)
    return .ignored

def readInstruction (header : LineHeader) : Decode LineInstruction := do
  let opcode ← Decode.u8
  if opcode = 0 then readExtended header
  else if header.opcodeBase ≤ opcode then return .special opcode
  else readStandard header opcode

/-! ### The machine -/

/-- The row being made, and what else the machine remembers. -/
structure LineState where
  row : LineRow
  operation : UInt64 := 0
  /-- The code of the sequence was dropped by a linker; its rows are left out. -/
  isDead : Bool := false
  deriving DecidableEq, Inhabited, Repr

namespace LineState

/-- The state at the start of a sequence. -/
def initial (header : LineHeader) : LineState where
  row := { line := 1, file := 1, isStatement := header.startsAsStatement }

/-- The largest address. -/
def lastAddress (header : LineHeader) : Nat := (1 <<< (8 * header.encoding.addressSize)) - 1

/-- Add to a line number. It does not go below zero, and wraps at the other end. -/
def addLines (line : UInt64) (lines : Int64) : UInt64 :=
  if 0 ≤ lines then line + lines.toUInt64
  else
    let down := 0 - lines.toUInt64
    if down ≤ line then line - down else 0

def advanceLine (state : LineState) (lines : Int64) : LineState :=
  { state with row := { state.row with line := addLines state.row.line lines } }

/-- Move the address up; it has to stay an address. -/
def addAddress? (header : LineHeader) (state : LineState) (count : Nat) : Option LineState :=
  let address := state.row.address.toNat + count
  if lastAddress header < address then none
  else some { state with row := { state.row with address := address.toUInt64 } }

/-- Move on by so many operations, several of which may be in one instruction. -/
def advance? (header : LineHeader) (state : LineState) (operations : UInt64) : Option LineState :=
  let unit := header.minimumLength.toUInt64
  let inOne := header.operations.toUInt64
  if state.isDead then some state
  else if inOne = 1 then
    addAddress? header { state with operation := 0 } (unit * operations).toNat
  else
    let reached := state.operation + operations
    addAddress? header { state with operation := reached % inOne } (unit * (reached / inOne)).toNat

/-- What the machine does with an instruction, and whether a row is complete. -/
def execute? (header : LineHeader) (state : LineState) :
    LineInstruction → Option (LineState × Bool)
  | .special opcode =>
    let adjusted := opcode - header.opcodeBase
    let lines := header.lineBase + adjusted % header.lineRange
    ((state.advanceLine (Int64.ofInt lines)).advance? header
      (adjusted / header.lineRange).toUInt64).map (·, true)
  | .copy => some (state, true)
  | .advanceAddress operations => (state.advance? header operations).map (·, false)
  | .advanceLine lines => some (state.advanceLine lines, false)
  | .setFile file => some ({ state with row := { state.row with file } }, false)
  | .toggleStatement =>
    some ({ state with row := { state.row with isStatement := !state.row.isStatement } }, false)
  | .markBasicBlock => some ({ state with row := { state.row with basicBlock := true } }, false)
  | .advanceLikeLast =>
    (state.advance? header ((255 - header.opcodeBase) / header.lineRange).toUInt64).map (·, false)
  | .advanceFixed count =>
    if state.isDead then some (state, false)
    else (addAddress? header { state with operation := 0 } count).map (·, false)
  | .markPrologueEnd => some ({ state with row := { state.row with prologueEnd := true } }, false)
  | .markEpilogueBegin =>
    some ({ state with row := { state.row with epilogueBegin := true } }, false)
  | .endSequence => some ({ state with row := { state.row with endSequence := true } }, true)
  | .setAddress address =>
    if address < state.row.address.toNat ∨ lastAddress header - 1 ≤ address then
      some ({ state with isDead := true }, false)
    else
      let row := { state.row with address := address.toUInt64 }
      some ({ state with row, operation := 0, isDead := false }, false)
  | .setDiscriminator discriminator =>
    some ({ state with row := { state.row with discriminator } }, false)
  | .ignored => some (state, false)

/-- The state behind a row: the end of a sequence clears everything, any other row its marks. -/
def afterRow (header : LineHeader) (state : LineState) : LineState :=
  if state.row.endSequence then initial header
  else
    let row := { state.row with
      discriminator := 0, basicBlock := false, prologueEnd := false, epilogueBegin := false }
    { state with row }

end LineState

/-- The rows that the rest of a program puts out. -/
def runProgram (header : LineHeader) : Nat → LineState → Decode (List LineRow)
  | 0, _ => failure
  | fuel + 1, state => do
    if ← Decode.isAtEnd then return []
    match state.execute? header (← readInstruction header) with
    | none => failure
    | some (state, false) => runProgram header fuel state
    | some (state, true) =>
      let rest ← runProgram header fuel (state.afterRow header)
      return if state.isDead then rest else state.row :: rest

/-- All rows of a line table. Every instruction takes a byte at least. -/
def LineHeader.rows? (header : LineHeader) : Option (List LineRow) :=
  ((runProgram header (header.program.remaining + 1) (.initial header)).run header.program).map (·.1)

end DebugOutline.Dwarf
