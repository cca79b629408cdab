import DebugOutline.Pattern.Expr
import DebugOutline.Pattern.Scanner

/-! What a backslash introduces: characters, classes and boundaries. -/
namespace DebugOutline

open Unicode (CharSet)

/-- A single item of a pattern. -/
inductive PatternItem where
  | literal (c : Char)
  | set (set : CharSet)
  | look (condition : Look)
  deriving Inhabited

namespace PatternMode

/-- The letters, digits and connectors of ASCII. -/
def asciiWordChars : CharSet := .ofChars [('0', '9'), ('A', 'Z'), ('_', '_'), ('a', 'z')]

def wordChars (mode : PatternMode) : CharSet :=
  if mode.unicode then Unicode.wordChars else asciiWordChars

def digits (mode : PatternMode) : CharSet :=
  if mode.unicode then Unicode.digits else .ofChars [('0', '9')]

def whiteSpace (mode : PatternMode) : CharSet :=
  if mode.unicode then Unicode.whiteSpace else .ofText "\t\n\x0b\x0c\r "

/-- A set with everything that differs in case only, if case is to be ignored. -/
def fold (mode : PatternMode) (set : CharSet) : CharSet :=
  if !mode.ignoresCase then set
  else if mode.unicode then Unicode.foldCase set
  else Unicode.foldAsciiCase set

/-- Everything outside a set. A pattern that is confined to ASCII cannot say it, because what is
outside would not be whole characters. -/
def negate? (mode : PatternMode) (set : CharSet) : Option CharSet :=
  if mode.unicode then some set.complement else none

/-- The expression for a single character. -/
def literal (mode : PatternMode) (c : Char) : Expr := .chars (mode.fold (.singleton c.toNat))

/-- The expression for a boundary. -/
def look (mode : PatternMode) (condition : Look) : Expr := .look condition mode.wordChars

/-- The line start, or the start of the text if lines do not matter. -/
def startOfLine (mode : PatternMode) : Look :=
  if !mode.multiline then .textStart
  else if mode.returnEndsLine then .returnLineStart else .lineStart

def endOfLine (mode : PatternMode) : Look :=
  if !mode.multiline then .textEnd
  else if mode.returnEndsLine then .returnLineEnd else .lineEnd

/-- What a dot matches: any character, line ends only if asked for. -/
def dot? (mode : PatternMode) : Option CharSet :=
  if mode.dotMatchesAll then mode.negate? .empty
  else if mode.returnEndsLine then mode.negate? (.ofText "\r\n")
  else mode.negate? (.ofText "\n")

end PatternMode

namespace Scan

/-- Characters that stand for themselves only behind a backslash, here or in a class. -/
def isMeta (c : Char) : Bool := "\\.+*?()|[]\x7b\x7d^$#&-~".toList.contains c

/-- Other characters that a backslash leaves as they are: those of ASCII without a meaning, except
letters, digits and angle brackets. -/
def isPlain (c : Char) : Bool :=
  c.toNat < 0x80 && !c.isAlphanum && c != '<' && c != '>'

/-- Control characters by the letter behind the backslash. -/
def controlCode? : Char → Option Char
  | 'a' => some '\x07'
  | 'f' => some '\x0c'
  | 't' => some '\t'
  | 'n' => some '\n'
  | 'r' => some '\r'
  | 'v' => some '\x0b'
  | _ => none

/-- A character by its code in base sixteen; the marking letter comes next. Two digits alone give a
byte, which confines it to ASCII where the pattern is. -/
def charCode (width : Nat) : Scan Char := do
  step
  let isBraced := (← next?) == some '\x7b'
  let digits ← if isBraced then braced else hexDigits width
  skipBlanks
  match hexValue? digits with
  | some code =>
    if !code.isValidChar then failure
    else if !isBraced && width == 2 && !(← mode).unicode && 0x80 ≤ code then failure
    else return Char.ofNat code
  | none => failure

/-- Split at the first colon or equals sign; an exclamation mark right in front of an equals sign
belongs to the sign, and such a sign wins wherever it stands. -/
def splitName (name : List Char) : Option (List Char × List Char) :=
  match (List.range name.length).find? fun index =>
      name[index]? == some '!' && name[index + 1]? == some '=' with
  | some index => some (name.take index, name.drop (index + 2))
  | none =>
    let separator := if name.contains ':' then ':' else '='
    if name.contains separator then
      let index := name.idxOf separator
      some (name.take index, name.drop (index + 1))
    else none

/-- A class by the name of a property; the marking letter comes next. -/
def namedSet (isNegated : Bool) : Scan CharSet := do
  step
  let set? ← match ← next? with
    | some '\x7b' => do
      let name ← braced
      match splitName name with
      | some (property, value) => pure (Unicode.setOf? property value)
      | none => pure (Unicode.setNamed? name)
    | some '\\' | none => failure
    | some c => do
      step
      pure (Unicode.setNamed? [c])
  let mode ← mode
  match set? with
  | some set =>
    if !mode.unicode then failure
    else if isNegated then return (mode.fold set).complement
    else return mode.fold set
  | none => failure

/-- A class with a letter of its own; the capital letter is for everything outside it. -/
def shortSet (c : Char) : Scan CharSet := do
  let mode ← mode
  let set := match c.toLower with
    | 'd' => mode.digits
    | 's' => mode.whiteSpace
    | _ => mode.wordChars
  if c.isUpper then
    match mode.negate? set with
    | some set => return set
    | none => failure
  else return set

def isBoundaryLetter (c : Char) : Bool := c.isAlpha || c == '-'

/-- The letters of the name of a boundary. -/
def boundaryName : Nat → Scan (List Char)
  | 0 => failure
  | fuel + 1 => do
    match ← next? with
    | none => failure
    | some c =>
      if isBoundaryLetter c then
        step
        return c :: (← boundaryName fuel)
      else return []

/-- A word boundary. It may have a name in braces; any other brace is left for what comes next. -/
def boundary : Scan Look := do
  if (← next?) ≠ some '\x7b' then return .wordBoundary
  let before ← get
  step
  match ← next? with
  | none => failure
  | some c =>
    if !isBoundaryLetter c then
      set before
      return .wordBoundary
    let name ← boundaryName ((← get).rest.length + 1)
    expect '\x7d'
    match String.ofList name with
    | "start" => return .wordStart
    | "end" => return .wordEnd
    | "start-half" => return .wordStartHalf
    | "end-half" => return .wordEndHalf
    | _ => failure

/-- What a backslash introduces; it comes next. -/
def escape : Scan PatternItem := do
  skip 1
  match ← next? with
  | none => failure
  | some c =>
    match c with
    | 'x' => return .literal (← charCode 2)
    | 'u' => return .literal (← charCode 4)
    | 'U' => return .literal (← charCode 8)
    | 'p' => return .set (← namedSet false)
    | 'P' => return .set (← namedSet true)
    | _ =>
      skip 1
      match c with
      | 'd' | 's' | 'w' | 'D' | 'S' | 'W' => return .set (← shortSet c)
      | 'A' => return .look .textStart
      | 'z' => return .look .textEnd
      | 'b' => return .look (← boundary)
      | 'B' => return .look .notWordBoundary
      | '<' => return .look .wordStart
      | '>' => return .look .wordEnd
      | _ =>
        match controlCode? c with
        | some code => return .literal code
        | none => if isMeta c || isPlain c then return .literal c else failure

end Scan

end DebugOutline
