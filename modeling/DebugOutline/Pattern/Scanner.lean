import DebugOutline.Unicode.Lookup

/-! Reading a pattern character by character. -/
namespace DebugOutline

/-- The modes that flags turn on and off. -/
structure PatternMode where
  ignoresCase : Bool := false
  /-- `^` and `$` match at every line. -/
  multiline : Bool := false
  /-- A dot matches line ends too. -/
  dotMatchesAll : Bool := false
  /-- Lines may end in a carriage return. -/
  returnEndsLine : Bool := false
  /-- Classes and word boundaries go beyond ASCII. -/
  unicode : Bool := true
  /-- Blanks and comments in the pattern do not count. -/
  ignoresBlanks : Bool := false
  deriving DecidableEq, Inhabited, Repr

/-- What is left of a pattern, the mode in force, and the names of groups so far. -/
structure Scanner where
  rest : List Char
  mode : PatternMode := {}
  groupNames : List (List Char) := []
  deriving Inhabited

/-- A step of reading; it fails where the pattern is invalid. -/
abbrev Scan := StateT Scanner Option

namespace Scan

def next? : Scan (Option Char) := return (← get).rest.head?

def second? : Scan (Option Char) := return (← get).rest[1]?

def mode : Scan PatternMode := return (← get).mode

def setMode (mode : PatternMode) : Scan Unit := modify fun scanner => { scanner with mode }

/-- Go over some characters. -/
def skip (count : Nat) : Scan Unit :=
  modify fun scanner => { scanner with rest := scanner.rest.drop count }

/-- Drop blanks and comments, which run from `#` to the end of the line. -/
def dropBlanks : Bool → List Char → List Char
  | _, [] => []
  | true, c :: rest => dropBlanks (c != '\n') rest
  | false, c :: rest =>
    if c = '#' then dropBlanks true rest
    else if Unicode.isBlank c then dropBlanks false rest
    else c :: rest

/-- Go over blanks and comments in the mode that ignores them. -/
def skipBlanks : Scan Unit :=
  modify fun scanner =>
    if scanner.mode.ignoresBlanks then { scanner with rest := dropBlanks false scanner.rest }
    else scanner

/-- Go over one character and ignored blanks after it. -/
def step : Scan Unit := do
  skip 1
  skipBlanks

/-- Go over a word if it comes next. -/
def skipWord (word : String) : Scan Bool := do
  if word.toList.isPrefixOf (← get).rest then
    skip word.length
    return true
  else return false

/-- Refuse the pattern unless this character comes next; go over it. -/
def expect (c : Char) : Scan Unit := do
  if (← next?) = some c then skip 1 else failure

/-- Characters up to a closing brace, without ignored blanks; the brace stays. -/
def untilBrace : Nat → Scan (List Char)
  | 0 => failure
  | fuel + 1 => do
    match ← next? with
    | none => failure
    | some '}' => return []
    | some c =>
      step
      return c :: (← untilBrace fuel)

/-- A text in braces; the opening one comes next. -/
def braced : Scan (List Char) := do
  step
  let text ← untilBrace ((← get).rest.length + 1)
  skip 1
  return text

def digitValue? (base : Nat) (c : Char) : Option Nat :=
  let value :=
    if '0' ≤ c ∧ c ≤ '9' then c.toNat - '0'.toNat
    else if 'a' ≤ c ∧ c ≤ 'f' then c.toNat - 'a'.toNat + 10
    else if 'A' ≤ c ∧ c ≤ 'F' then c.toNat - 'A'.toNat + 10
    else base
  if value < base then some value else none

/-- The number that digits of base sixteen write. -/
def hexValue? (digits : List Char) : Option Nat :=
  if digits.isEmpty then none
  else digits.foldlM (fun value c => (digitValue? 16 c).map (value * 16 + ·)) 0

/-- A fixed number of digits of base sixteen. -/
def hexDigits : Nat → Scan (List Char)
  | 0 => return []
  | count + 1 => do
    match ← next? with
    | none => failure
    | some c =>
      step
      return c :: (← hexDigits count)

/-- Digits of base ten that come next. -/
def decimalDigits : Nat → Scan (List Char)
  | 0 => return []
  | fuel + 1 => do
    match ← next? with
    | some c =>
      if (digitValue? 10 c).isSome then
        step
        return c :: (← decimalDigits fuel)
      else return []
    | none => return []

/-- Go over blanks, in any mode. -/
def skipOuterBlanks : Scan Unit :=
  modify fun scanner => { scanner with rest := scanner.rest.dropWhile Unicode.isBlank }

/-- The largest count of a repetition. -/
def countLimit : Nat := UInt32.size - 1

/-- A count, with blanks around it. -/
def count : Scan Nat := do
  skipOuterBlanks
  let digits ← decimalDigits (← get).rest.length
  skipOuterBlanks
  skipBlanks
  let value := digits.foldl (fun value c => value * 10 + (c.toNat - '0'.toNat)) 0
  if digits.isEmpty ∨ countLimit < value then failure else return value

end Scan

end DebugOutline
