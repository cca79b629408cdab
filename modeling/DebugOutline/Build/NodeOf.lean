import DebugOutline.Build.Reading
import DebugOutline.Outline.Node

/-! The object that an entry describes, before anything is known about other entries. -/
namespace DebugOutline

open Dwarf (Attr Entry Tag UnitRecord Value)

/-- The file with that number in the table of a unit. Number zero may be missing from a table and
then means "no file". -/
def SourceFile.ofNumber (unit : UnitRecord) (number : UInt64) : SourceFile :=
  match unit.files[number.toNat]? with
  | some (some recorded) => .path (Path.unify recorded)
  | some .none => .none
  | .none => if number = 0 then .none else .invalid

namespace Reading

def access (entry : Entry) : Reading Access := do
  return match ← unsigned entry .accessibility with
    | some code => .ofCode code
    | none => .unspecified

/-- A constant as it is printed. -/
def constant (entry : Entry) : Reading (Option String) :=
  accepted entry .constValue Value.integerText?

/-- The codes of functions that were declared inline, inlined or not. -/
def isInlineCode (code : UInt64) : Bool := code == 3 || code == 2

/-- A member function defined elsewhere is as visible as its declaration says. -/
def function (entry : Entry) : Reading FunctionInfo := do
  let inlineCode ← unsigned entry .inlineCode
  let isDeclaration ← flag entry .declaration
  let isVisible ← if entry.has .specification then pure true else flag entry .external
  return {
    isDeclaration
    isStatic := !isVisible
    isInline := inlineCode.any isInlineCode
    isInlined := entry.tag == .inlinedSubroutine }

def templateArgument (entry : Entry) : Reading TemplateArgument :=
  match entry.tag with
  | .templateValueParameter => do return .value (← constant entry)
  | .templateTemplateParameter => do return .template (← string entry .gnuTemplateName)
  | .templateParameterPack => pure .pack
  | _ => pure .type

def blockForm : Tag → BlockForm
  | .tryBlock => .tryBlock
  | .catchBlock => .catchBlock
  | _ => .lexical

/-- Add without passing the largest word. -/
def saturatingAdd (a b : UInt64) : UInt64 := if a.toNat + b.toNat < UInt64.size then a + b else -1

/-- A bound that is known only at run time is accepted, but has no value. -/
def bound? : Value → Option (Option UInt64)
  | .unsigned value => some (some value)
  | .exprloc | .reference _ => some none
  | _ => none

/-- The extent of one array dimension: a count, or the bounds when the first index is not zero. -/
def bounds (entry : Entry) : Reading String := do
  let lower := (← unsigned entry .lowerBound).getD 0
  let count ← unsigned entry .count
  let upper ← accepted entry .upperBound bound?
  return match count, upper with
    | some count, _ => "[" ++ Text.decimal (saturatingAdd lower count).toNat ++ "]"
    | none, some (some upper) =>
      if lower ≠ 0 then
        "[" ++ Text.decimal lower.toNat ++ ".." ++ Text.decimal upper.toNat ++ "]"
      else "[" ++ Text.decimal (saturatingAdd upper 1).toNat ++ "]"
    | none, _ => "[?]"

/-- What only objects of that kind have. A variable of an aggregate is a static member of it. -/
def detail (entry : Entry) (kind : Kind) (inAggregate : Bool) : Reading Detail :=
  match kind with
  | .function => do return .function (← function entry)
  | .enumType => do return .enumType (← flag entry .enumClass)
  | .member => do
    let access ← access entry
    let isStatic ← if inAggregate then flag entry .external else pure false
    return .member access isStatic
  | .variable =>
    if inAggregate then do return .member (← access entry) true else pure .none
  | .parameter => pure (if entry.tag = .unspecifiedParameters then .variadic else .none)
  | .templateParameter => do return .templateParameter (← templateArgument entry)
  | .usingEntry => pure (.usingEntry (entry.tag == .importedModule))
  | .block => pure (.block (blockForm entry.tag))
  | .primitiveType => do return .primitiveType ((← unsigned entry .byteSize).getD 0)
  | _ => pure .none

/-- The name that an entry gives itself. Nothing is reported about a name of another class. -/
def ownName (entry : Entry) (kind : Kind) : String :=
  match entry.attribute? .name with
  | some ⟨_, _, .string name⟩ => if kind = .compileUnit then Path.unify name else name
  | _ => ""

/-- The object described by `entry` in the part that it plays. -/
def node (unit : UnitRecord) (unitIndex : Nat) (entry : Entry) (role : Role)
    (inAggregate : Bool) : Reading Node := do
  let line ← unsigned entry .declLine
  let file ← unsigned entry .declFile
  let isGenerated ← flag entry .artificial
  let typeOffset ← firstReference entry [.type, .importEntry]
  let referenceOffset ← firstReference entry [.specification, .abstractOrigin, .extension]
  let described : Node := {
    kind := role.kind
    offset := entry.offset
    tag := some entry.tag
    name := ownName entry role.kind
    line := line.getD 0
    file := match file with
      | some number => .ofNumber unit number
      | none => .none
    typeOffset, referenceOffset, isGenerated
    isTemplate := entry.tag == .templateAlias
    unit := unitIndex }
  match role with
  | .object kind => do return { described with detail := ← detail entry kind inAggregate }
  | .auxiliary .subrange => do
    return { described with name := ← bounds entry, detail := .auxiliary .subrange }
  | .auxiliary .enumerator => do
    return { described with detail := .enumerator ((← constant entry).getD "") }
  | .auxiliary .inheritance => do
    return { described with detail := .inheritance (← access entry) }
  | .auxiliary form => return { described with detail := .auxiliary form }

end Reading

/-- The object of a line table row. -/
def Node.ofRow (unit : UnitRecord) (unitIndex : Nat) (row : Dwarf.LineRow) : Node where
  kind := .codeLine
  offset := row.address
  line := row.line
  file := .ofNumber unit row.file
  unit := unitIndex
  detail := .codeLine {
    address := row.address
    discriminator := row.discriminator
    newStatement := row.isStatement
    prologueEnd := row.prologueEnd
    endSequence := row.endSequence
    basicBlock := row.basicBlock
    epilogueBegin := row.epilogueBegin }

end DebugOutline
