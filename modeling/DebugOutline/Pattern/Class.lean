import DebugOutline.Pattern.Escape

/-! Classes in brackets: characters, spans, nested classes, and operations between them. -/
namespace DebugOutline

open Unicode (CharSet)

/-- Operations between the parts of a class. They apply from left to right. -/
inductive SetOperation where
  | intersection | difference | symmetricDifference
  deriving DecidableEq, Inhabited, Repr

def SetOperation.apply : SetOperation → CharSet → CharSet → CharSet
  | .intersection => .inter
  | .difference => .diff
  | .symmetricDifference => .symmDiff

/-- The doubled character that writes the operation. -/
def SetOperation.ofChar? : Char → Option SetOperation
  | '&' => some .intersection
  | '-' => some .difference
  | '~' => some .symmetricDifference
  | _ => none

/-- A part of a class, with the depth of nesting in it. -/
structure ClassPart where
  set : CharSet
  depth : Nat := 0
  deriving Inhabited

namespace ClassPart

/-- Parts side by side. -/
def join : List ClassPart → ClassPart
  | [] => ⟨.empty, 0⟩
  | [part] => part
  | parts => ⟨.unions (parts.map set), 1 + (parts.map depth).foldl max 0⟩

/-- What stands left of an operation, if there is one, with what stands right of it. -/
def combine (mode : PatternMode) (left : Option (SetOperation × ClassPart)) (right : ClassPart) :
    ClassPart :=
  match left with
  | none => right
  | some (operation, left) =>
    ⟨operation.apply (mode.fold left.set) (mode.fold right.set), 1 + max left.depth right.depth⟩

end ClassPart

namespace Scan

def asciiClasses : List (String × CharSet) :=
  [("alnum", .ofChars [('0', '9'), ('A', 'Z'), ('a', 'z')]),
    ("alpha", .ofChars [('A', 'Z'), ('a', 'z')]), ("ascii", .ofSpan 0 0x7f),
    ("blank", .ofText "\t "), ("cntrl", .ofSpans [⟨0, 0x1f⟩, ⟨0x7f, 0x7f⟩]),
    ("digit", .ofChars [('0', '9')]), ("graph", .ofChars [('!', '~')]),
    ("lower", .ofChars [('a', 'z')]), ("print", .ofChars [(' ', '~')]),
    ("punct", .ofChars [('!', '/'), (':', '@'), ('[', '\x60'), ('\x7b', '~')]),
    ("space", .ofText "\t\n\x0b\x0c\r "), ("upper", .ofChars [('A', 'Z')]),
    ("word", PatternMode.asciiWordChars),
    ("xdigit", .ofChars [('0', '9'), ('A', 'F'), ('a', 'f')])]

/-- Split `[:name:]` off a text; a caret negates the class. -/
def asciiClassAhead? (text : List Char) : Option (Bool × CharSet × List Char) :=
  match text with
  | '[' :: ':' :: rest =>
    let isNegated := rest.head? == some '^'
    let rest := if isNegated then rest.drop 1 else rest
    let name := rest.takeWhile (· != ':')
    match rest.dropWhile (· != ':'), asciiClasses.lookup (String.ofList name) with
    | ':' :: ']' :: rest, some set => some (isNegated, set, rest)
    | _, _ => none
  | _ => none

/-- A class of ASCII by its name, if one comes next. -/
def asciiClass? : Scan (Option CharSet) := do
  match asciiClassAhead? (← get).rest with
  | none => return none
  | some (isNegated, found, rest) =>
    modify fun scanner => { scanner with rest }
    let mode ← mode
    if isNegated then
      match mode.negate? (mode.fold found) with
      | some negated => return some negated
      | none => failure
    else return some (mode.fold found)

/-- A character of a class. Classes confined to ASCII have no others. -/
def classLiteral (c : Char) : Scan Nat := do
  if !(← mode).unicode && 0x80 ≤ c.toNat then failure else return c.toNat

/-- A character as it stands, or what a backslash introduces. -/
def classItem : Scan PatternItem := do
  match ← next? with
  | none => failure
  | some '\\' => escape
  | some c =>
    skip 1
    return .literal c

/-- The character behind the next one that is no blank where blanks do not count. A comment is not
gone over, only its mark is. -/
def afterNext? : Scan (Option Char) := do
  let following := (← get).rest.drop 1
  if (← mode).ignoresBlanks then
    match following.dropWhile Unicode.isBlank with
    | '#' :: comment => return (comment.dropWhile Unicode.isBlank).head?
    | text => return text.head?
  else return following.head?

/-- A character, a span of characters, or a class without brackets. A dash in front of a closing
bracket or of another dash starts no span. -/
def classSpan : Scan CharSet := do
  let first ← classItem
  skipBlanks
  let next ← next?
  if next.isNone then failure
  let after ← afterNext?
  if next ≠ some '-' ∨ after = some ']' ∨ after = some '-' then
    match first with
    | .literal c => return .singleton (← classLiteral c)
    | .set set => return set
    | .look _ => failure
  else
    step
    match first, ← classItem with
    | .literal first, .literal last =>
      let first ← classLiteral first
      let last ← classLiteral last
      if first ≤ last then return .ofSpan first last else failure
    | _, _ => failure

/-- Dashes that stand for themselves, at the start of a class. -/
def leadingDashes : Nat → Scan (List ClassPart)
  | 0 => failure
  | fuel + 1 => do
    match ← next? with
    | none => failure
    | some '-' =>
      step
      return ⟨.singleton '-'.toNat, 0⟩ :: (← leadingDashes fuel)
    | some _ => return []

/-- What opens a class: whether it is negated, and what stands for itself only there. -/
def classOpening : Scan (Bool × List ClassPart) := do
  step
  let isNegated := (← next?) == some '^'
  if isNegated then step
  let dashes ← leadingDashes ((← get).rest.length + 1)
  if dashes.isEmpty ∧ (← next?) = some ']' then
    step
    return (isNegated, [⟨.singleton ']'.toNat, 0⟩])
  else return (isNegated, dashes)

/-- A class as a whole, once its closing bracket was met. -/
def closeClass (isNegated : Bool) (inner : ClassPart) : Scan ClassPart := do
  let mode ← mode
  let folded := mode.fold inner.set
  if isNegated then
    match mode.negate? folded with
    | some set => return ⟨set, inner.depth + 1⟩
    | none => failure
  else return ⟨folded, inner.depth + 1⟩

/-- The parts of a class up to its closing bracket. -/
def classParts : Nat → Option (SetOperation × ClassPart) → List ClassPart → Scan ClassPart
  | 0, _, _ => failure
  | fuel + 1, left, parts => do
    skipBlanks
    let mode ← mode
    match ← next? with
    | none => failure
    | some ']' =>
      skip 1
      return .combine mode left (.join parts)
    | some '[' =>
      match ← asciiClass? with
      | some set => classParts fuel left (parts ++ [⟨set, 0⟩])
      | none =>
        let (isNegated, first) ← classOpening
        let nested ← closeClass isNegated (← classParts fuel none first)
        classParts fuel left (parts ++ [nested])
    | some c =>
      match SetOperation.ofChar? c, (← second?) == some c with
      | some operation, true =>
        skip 2
        classParts fuel (some (operation, .combine mode left (.join parts))) []
      | _, _ =>
        let set ← classSpan
        classParts fuel left (parts ++ [⟨set, 0⟩])

/-- A class in brackets; the opening one comes next. -/
def bracketed : Scan ClassPart := do
  let fuel := (← get).rest.length + 1
  let (isNegated, first) ← classOpening
  closeClass isNegated (← classParts fuel none first)

end Scan

end DebugOutline
