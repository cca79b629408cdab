/-! Texts from bytes that need not be well formed. -/
namespace DebugOutline.Utf8

/-- What stands for bytes that make no character. -/
def replacement : Char := '\uFFFD'

/-- A character of which some bytes were read, and the span that the next byte has to be in. -/
structure Unfinished where
  code : Nat
  missing : Nat
  low : Nat := 0x80
  high : Nat := 0xbf
  deriving DecidableEq, Inhabited, Repr

/-- The first byte of a character. The spans leave out needlessly long encodings, surrogates and
codes beyond the last one. -/
def start (byte : Nat) : List Char × Option Unfinished :=
  if byte < 0x80 then ([Char.ofNat byte], none)
  else if 0xc2 ≤ byte ∧ byte ≤ 0xdf then ([], some { code := byte - 0xc0, missing := 1 })
  else if byte = 0xe0 then ([], some { code := 0, missing := 2, low := 0xa0 })
  else if byte = 0xed then ([], some { code := 0xd, missing := 2, high := 0x9f })
  else if 0xe1 ≤ byte ∧ byte ≤ 0xef then ([], some { code := byte - 0xe0, missing := 2 })
  else if byte = 0xf0 then ([], some { code := 0, missing := 3, low := 0x90 })
  else if byte = 0xf4 then ([], some { code := 4, missing := 3, high := 0x8f })
  else if 0xf1 ≤ byte ∧ byte ≤ 0xf3 then ([], some { code := byte - 0xf0, missing := 3 })
  else ([replacement], none)

/-- One byte more. A byte that does not continue a character starts a new one. -/
def push (unfinished : Option Unfinished) (byte : Nat) : List Char × Option Unfinished :=
  match unfinished with
  | none => start byte
  | some character =>
    if character.low ≤ byte ∧ byte ≤ character.high then
      let code := character.code * 64 + (byte - 0x80)
      if character.missing ≤ 1 then ([Char.ofNat code], none)
      else ([], some { code, missing := character.missing - 1 })
    else
      let (characters, next) := start byte
      (replacement :: characters, next)

/-- The characters of some bytes, each longest part that starts no character replaced by one. -/
def characters : Option Unfinished → List UInt8 → List Char
  | none, [] => []
  | some _, [] => [replacement]
  | unfinished, byte :: rest =>
    let (found, next) := push unfinished byte.toNat
    found ++ characters next rest

def decode (bytes : List UInt8) : String := String.ofList (characters none bytes)

end DebugOutline.Utf8
