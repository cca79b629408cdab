/-! Unpacking compressed data up to an announced size. -/
namespace DebugOutline.Inflate

/-- Packed bytes, the bit to read next, and what was unpacked so far. -/
structure Unpacker where
  packed : ByteArray
  bit : Nat := 0
  output : ByteArray := .empty
  deriving Inhabited

/-- Why unpacking stops early: the data make no sense, or the announced size is exceeded. -/
inductive Stop where
  | invalid
  | full (output : ByteArray)

abbrev Unpack := StateT Unpacker (Except Stop)

namespace Unpack

def readBit : Unpack Nat := do
  let state ← get
  let index := state.bit / 8
  if h : index < state.packed.size then
    set { state with bit := state.bit + 1 }
    return (state.packed[index].toNat >>> (state.bit % 8)) % 2
  else throw .invalid

/-- A number of so many bits, the least significant first. -/
def readBits : Nat → Unpack Nat
  | 0 => return 0
  | count + 1 => do
    let low ← readBit
    return low + 2 * (← readBits count)

/-- Go on at the next whole byte. -/
def align : Unpack Unit := modify fun state => { state with bit := (state.bit + 7) / 8 * 8 }

/-- Put out a byte, unless the announced size is reached. -/
def emit (limit : Nat) (byte : UInt8) : Unpack Unit := do
  let state ← get
  if limit ≤ state.output.size then throw (.full state.output)
  else set { state with output := state.output.push byte }

/-- Repeat bytes put out `distance` places ago. -/
def copy (limit distance : Nat) : Nat → Unpack Unit
  | 0 => return ()
  | count + 1 => do
    let output := (← get).output
    if distance ≤ output.size then
      emit limit (output.get! (output.size - distance))
      copy limit distance count
    else throw .invalid

end Unpack

/-! ### Prefix codes -/

/-- A canonical code: for every length the count of codes of that length, and all symbols in order
of their codes. -/
structure PrefixCode where
  counts : List Nat
  symbols : Array Nat
  deriving Inhabited

/-- The longest code. -/
def longestCode : Nat := 15

/-- The code in which each symbol has the given length, zero for those that do not occur. -/
def PrefixCode.ofLengths (lengths : List Nat) : PrefixCode where
  counts := (List.range longestCode).map fun index => lengths.count (index + 1)
  symbols := ((List.range longestCode).flatMap fun index =>
    (List.range lengths.length).filter fun symbol => lengths[symbol]? == some (index + 1)).toArray

/-- How much of all texts of `longestCode` bits the codes account for. -/
def PrefixCode.weight (code : PrefixCode) : Nat :=
  (List.range longestCode).foldl (fun weight index =>
    weight + (code.counts[index]?.getD 0) <<< (longestCode - 1 - index)) 0

/-- Every text of bits starts with a code. -/
def PrefixCode.isComplete (code : PrefixCode) : Bool := code.weight == 1 <<< longestCode

/-- Read a symbol. `code` is what was read so far, `first` the first code of this length, and
`index` the count of shorter codes. -/
def PrefixCode.readFrom (table : PrefixCode) (code first index : Nat) : List Nat → Unpack Nat
  | [] => throw .invalid
  | count :: rest => do
    let code := code + (← Unpack.readBit)
    if code < first + count then
      match table.symbols[index + (code - first)]? with
      | some symbol => return symbol
      | none => throw .invalid
    else table.readFrom (2 * code) (2 * (first + count)) (index + count) rest

def PrefixCode.read (table : PrefixCode) : Unpack Nat := table.readFrom 0 0 0 table.counts

/-! ### Blocks -/

/-- The extra bits and the least value of every length symbol. -/
def lengthSymbols : Array (Nat × Nat) :=
  #[(0, 3), (0, 4), (0, 5), (0, 6), (0, 7), (0, 8), (0, 9), (0, 10), (1, 11), (1, 13), (1, 15),
    (1, 17), (2, 19), (2, 23), (2, 27), (2, 31), (3, 35), (3, 43), (3, 51), (3, 59), (4, 67),
    (4, 83), (4, 99), (4, 115), (5, 131), (5, 163), (5, 195), (5, 227), (0, 258)]

/-- The extra bits and the least value of every distance symbol. -/
def distanceSymbols : Array (Nat × Nat) :=
  #[(0, 1), (0, 2), (0, 3), (0, 4), (1, 5), (1, 7), (2, 9), (2, 13), (3, 17), (3, 25), (4, 33),
    (4, 49), (5, 65), (5, 97), (6, 129), (6, 193), (7, 257), (7, 385), (8, 513), (8, 769),
    (9, 1025), (9, 1537), (10, 2049), (10, 3073), (11, 4097), (11, 6145), (12, 8193), (12, 12289),
    (13, 16385), (13, 24577)]

/-- The value of a symbol with its extra bits. -/
def readValue (symbols : Array (Nat × Nat)) (symbol : Nat) : Unpack Nat := do
  match symbols[symbol]? with
  | some (extra, least) => return least + (← Unpack.readBits extra)
  | none => throw .invalid

/-- Bytes and repetitions up to the end of a block. -/
def readSymbols (limit : Nat) (literals distances : PrefixCode) : Nat → Unpack Unit
  | 0 => throw .invalid
  | fuel + 1 => do
    let symbol ← literals.read
    if symbol = 256 then return ()
    else if symbol < 256 then
      Unpack.emit limit symbol.toUInt8
      readSymbols limit literals distances fuel
    else
      let length ← readValue lengthSymbols (symbol - 257)
      let distance ← readValue distanceSymbols (← distances.read)
      Unpack.copy limit distance length
      readSymbols limit literals distances fuel

/-- A block of bytes as they are, with their count and its complement in front. -/
def readStored (limit : Nat) : Unpack Unit := do
  Unpack.align
  let count ← Unpack.readBits 16
  let complement ← Unpack.readBits 16
  if count + complement ≠ 0xffff then throw .invalid
  (List.range count).forM fun _ => do Unpack.emit limit (← Unpack.readBits 8).toUInt8

def fixedLiterals : PrefixCode :=
  .ofLengths (List.replicate 144 8 ++ List.replicate 112 9 ++ List.replicate 24 7 ++
    List.replicate 8 8)

def fixedDistances : PrefixCode := .ofLengths (List.replicate 32 5)

/-- The order in which the lengths of the code for code lengths are given. -/
def lengthOrder : List Nat := [16, 17, 18, 0, 8, 7, 9, 6, 10, 5, 11, 4, 12, 3, 13, 2, 14, 1, 15]

/-- Code lengths, themselves in a code with repetitions. -/
def readLengths (code : PrefixCode) (count : Nat) : Nat → List Nat → Unpack (List Nat)
  | 0, _ => throw .invalid
  | fuel + 1, lengths => do
    if lengths.length = count then return lengths
    let symbol ← code.read
    let more ←
      if symbol < 16 then pure [symbol]
      else if symbol = 16 then
        match lengths.getLast? with
        | some previous => do pure (List.replicate (3 + (← Unpack.readBits 2)) previous)
        | none => throw .invalid
      else if symbol = 17 then do pure (List.replicate (3 + (← Unpack.readBits 3)) 0)
      else do pure (List.replicate (11 + (← Unpack.readBits 7)) 0)
    if count < lengths.length + more.length then throw .invalid
    else readLengths code count fuel (lengths ++ more)

/-- A code may leave texts of bits over only if it has at most one symbol. -/
def PrefixCode.isUsable (code : PrefixCode) : Bool := code.isComplete || code.symbols.size ≤ 1

/-- The two codes that stand at the start of a block. -/
def readCodes : Unpack (PrefixCode × PrefixCode) := do
  let literalCount := 257 + (← Unpack.readBits 5)
  let distanceCount := 1 + (← Unpack.readBits 5)
  let lengthCount := 4 + (← Unpack.readBits 4)
  let given ← (lengthOrder.take lengthCount).mapM fun symbol => do
    return (symbol, ← Unpack.readBits 3)
  let lengthCode := PrefixCode.ofLengths ((List.range 19).map fun symbol =>
    (given.lookup symbol).getD 0)
  if !lengthCode.isComplete then throw .invalid
  let count := literalCount + distanceCount
  let lengths ← readLengths lengthCode count (count + 1) []
  let literals := PrefixCode.ofLengths (lengths.take literalCount)
  let distances := PrefixCode.ofLengths (lengths.drop literalCount)
  if literals.isUsable && distances.isUsable then return (literals, distances) else throw .invalid

/-- Blocks up to the one marked as the last. Each symbol takes at least a bit, so there are no more
of them than bits. -/
def readBlocks (limit : Nat) : Nat → Unpack Unit
  | 0 => throw .invalid
  | fuel + 1 => do
    let isLast ← Unpack.readBit
    let bits := (← get).packed.size * 8 + 1
    match ← Unpack.readBits 2 with
    | 0 => readStored limit
    | 1 => readSymbols limit fixedLiterals fixedDistances bits
    | 2 =>
      let (literals, distances) ← readCodes
      readSymbols limit literals distances bits
    | _ => throw .invalid
    if isLast = 1 then return () else readBlocks limit fuel

/-! ### Framing -/

/-- Two sums over all bytes, to find out whether they are the right ones. -/
def checksum (bytes : ByteArray) : Nat :=
  let (low, high) := bytes.data.toList.foldl (fun (low, high) byte =>
    let low := (low + byte.toNat) % 65521
    (low, (high + low) % 65521)) (1, 0)
  high * 65536 + low

/-- What stands in front: the method with its window, and a check that both bytes are right. -/
def readFrameHeader : Unpack Unit := do
  let method ← Unpack.readBits 8
  let flags ← Unpack.readBits 8
  let isRight := (method * 256 + flags) % 31 == 0
  let hasDictionary := flags / 32 % 2 == 1
  if !isRight || hasDictionary || method % 16 != 8 || 7 < method / 16 then throw .invalid

/-- A frame with its blocks and its checksum. -/
def readFrame (limit : Nat) : Unpack ByteArray := do
  readFrameHeader
  readBlocks limit ((← get).packed.size * 8 + 1)
  Unpack.align
  let octets ← (List.range 4).mapM fun _ => Unpack.readBits 8
  let output := (← get).output
  if octets.foldl (fun value octet => value * 256 + octet) 0 = checksum output then return output
  else throw .invalid

/-- Unpack to exactly the announced size. What goes beyond it is not looked at. -/
def unpack? (packed : ByteArray) (size : Nat) : Option ByteArray :=
  let output? := match (readFrame size).run { packed } with
    | .ok (output, _) => some output
    | .error (.full output) => some output
    | .error .invalid => none
  output?.filter (·.size == size)

end DebugOutline.Inflate
