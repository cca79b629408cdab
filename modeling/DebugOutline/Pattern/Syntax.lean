import DebugOutline.Pattern.Class

/-! Whole patterns: sequences, alternatives, groups and repetitions. -/
namespace DebugOutline

/-- A piece of a pattern, with the depth of nesting in it. -/
structure Piece where
  expr : Expr
  depth : Nat := 0
  /-- A repetition may follow; it may not follow flags. -/
  repeats : Bool := true
  deriving Inhabited

namespace Piece

/-- Pieces one after another, the last one first. -/
def inSequence : List Piece → Piece
  | [] => ⟨.empty, 0, true⟩
  | [piece] => piece
  | last :: before =>
    ⟨before.foldl (fun rest piece => .seq piece.expr rest) last.expr,
      1 + (before.map depth).foldl max last.depth, true⟩

/-- Alternatives, the last one first. -/
def inChoice : List Piece → Piece
  | [] => ⟨.empty, 0, true⟩
  | [piece] => piece
  | last :: before =>
    ⟨before.foldl (fun rest piece => .alt piece.expr rest) last.expr,
      1 + (before.map depth).foldl max last.depth, true⟩

/-- A piece so many times. -/
def times (piece : Piece) (least : Nat) (most : Option Nat) : Piece :=
  ⟨.repeated piece.expr least most, piece.depth + 1, true⟩

end Piece

/-- What opens with a parenthesis. -/
inductive Opening where
  /-- Flags that stay in force up to the end of the group around them. -/
  | flags (mode : PatternMode)
  /-- A group with the mode inside it. -/
  | group (isKept : Bool) (mode : PatternMode)

namespace Scan

/-! ### Groups -/

/-- What a flag letter turns on or off. -/
def setFlag? (mode : PatternMode) (flag : Char) (value : Bool) : Option PatternMode :=
  match flag with
  | 'i' => some { mode with ignoresCase := value }
  | 'm' => some { mode with multiline := value }
  | 's' => some { mode with dotMatchesAll := value }
  | 'R' => some { mode with returnEndsLine := value }
  | 'u' => some { mode with unicode := value }
  | 'x' => some { mode with ignoresBlanks := value }
  | 'U' => some mode
  | _ => none

/-- Flags up to a colon or a closing parenthesis, which stays. Those behind a dash are turned off.
None may be there twice, and the dash may not be the last. -/
def flags : Nat → List Char → PatternMode → Scan (List Char × PatternMode)
  | 0, _, _ => failure
  | fuel + 1, before, mode => do
    match ← next? with
    | none => failure
    | some c =>
      if c = ':' ∨ c = ')' then
        if before.getLast? = some '-' then failure else return (before, mode)
      else if before.contains c then failure
      else
        skip 1
        let mode? := if c = '-' then some mode else setFlag? mode c (!before.contains '-')
        match mode? with
        | some mode => flags fuel (before ++ [c]) mode
        | none => failure

def isNameStart (c : Char) : Bool := c == '_' || Unicode.isAlphabetic c

def isNamePart (c : Char) : Bool :=
  c == '_' || c == '.' || c == '[' || c == ']' || Unicode.isAlphanumeric c

/-- The name of a group, up to the angle bracket behind it. No two groups share a name. -/
def groupName : Scan Unit := do
  let scanner ← get
  let name := scanner.rest.takeWhile (· != '>')
  set { scanner with
    rest := scanner.rest.drop name.length
    groupNames := name :: scanner.groupNames }
  expect '>'
  let isName := name.head?.any isNameStart && (name.drop 1).all isNamePart
  if !isName || scanner.groupNames.contains name then failure

/-- What opens with a parenthesis; it comes next. There is no looking ahead or behind. -/
def opening : Scan Opening := do
  step
  let mode ← mode
  let following := (← get).rest
  if ["?=", "?!", "?<=", "?<!"].any fun word => word.toList.isPrefixOf following then failure
  else if ← skipWord "?P<" <||> skipWord "?<" then
    groupName
    return .group true mode
  else if ← skipWord "?" then
    let (letters, inner) ← flags ((← get).rest.length + 1) [] mode
    if (← next?) = some ')' then
      skip 1
      if letters.isEmpty then failure else return .flags inner
    else
      skip 1
      return .group false inner
  else return .group true mode

/-! ### Repetitions -/

/-- A mark that asks for short matches first does not change which names match. -/
def skipLazyMark : Scan Unit := do
  if (← next?) = some '?' then skip 1

/-- Counts in braces; the opening one comes next. -/
def counts : Scan (Nat × Option Nat) := do
  step
  let least ← count
  let most ←
    if (← next?) = some ',' then do
      step
      if (← next?) = some '\x7d' then pure none else some <$> count
    else pure (some least)
  if (← next?) ≠ some '\x7d' then failure
  step
  skipLazyMark
  if most.any (· < least) then failure else return (least, most)

/-- What repeats the piece before it, if it comes next. -/
def repetition? : Scan (Option (Nat × Option Nat)) := do
  let plain (least : Nat) (most : Option Nat) : Scan (Option (Nat × Option Nat)) := do
    skip 1
    skipLazyMark
    return some (least, most)
  match ← next? with
  | some '?' => plain 0 (some 1)
  | some '*' => plain 0 none
  | some '+' => plain 1 none
  | some '\x7b' => return some (← counts)
  | _ => return none

/-! ### Pieces -/

/-- A dot, a boundary, a character, or what a backslash introduces. -/
def simplePiece : Scan Piece := do
  let mode ← mode
  match ← next? with
  | none => failure
  | some '\\' =>
    match ← escape with
    | .literal c => return ⟨mode.literal c, 0, true⟩
    | .set set => return ⟨.chars set, 0, true⟩
    | .look look => return ⟨mode.look look, 0, true⟩
  | some c =>
    skip 1
    match c with
    | '.' =>
      match mode.dot? with
      | some set => return ⟨.chars set, 0, true⟩
      | none => failure
    | '^' => return ⟨mode.look mode.startOfLine, 0, true⟩
    | '$' => return ⟨mode.look mode.endOfLine, 0, true⟩
    | _ => return ⟨mode.literal c, 0, true⟩

/-- Alternatives up to a closing parenthesis, which stays, or to the end. `choices` are the
alternatives so far and `pieces` is the one being read, the last one first in both. -/
def alternatives : Nat → List Piece → List Piece → Scan Piece
  | 0, _, _ => failure
  | fuel + 1, choices, pieces => do
    skipBlanks
    match ← next? with
    | none | some ')' => return .inChoice (.inSequence pieces :: choices)
    | some '|' =>
      skip 1
      alternatives fuel (.inSequence pieces :: choices) []
    | some '(' =>
      let outer ← mode
      match ← opening with
      | .flags mode =>
        setMode mode
        alternatives fuel choices (⟨.empty, 0, false⟩ :: pieces)
      | .group isKept mode =>
        setMode mode
        let inner ← alternatives fuel [] []
        expect ')'
        setMode outer
        let expr := if isKept then .group inner.expr else inner.expr
        alternatives fuel choices (⟨expr, inner.depth + 1, true⟩ :: pieces)
    | some '[' =>
      let part ← bracketed
      alternatives fuel choices (⟨.chars part.set, part.depth, true⟩ :: pieces)
    | some _ =>
      match ← repetition?, pieces with
      | some (least, most), piece :: before =>
        if piece.repeats then alternatives fuel choices (piece.times least most :: before)
        else failure
      | some _, [] => failure
      | none, _ =>
        let piece ← simplePiece
        alternatives fuel choices (piece :: pieces)

end Scan

end DebugOutline
