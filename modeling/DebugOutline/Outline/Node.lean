import DebugOutline.Outline.Kind
import DebugOutline.Text.Layout
import DebugOutline.Text.Path

/-! The objects of an outline. -/
namespace DebugOutline

/-- The position of an object in its outline. -/
abbrev NodeId := Nat

/-- Where an object says it was declared. -/
inductive SourceFile where
  | none
  | invalid
  | path (text : String)
  deriving DecidableEq, Inhabited, Repr

namespace SourceFile

/-- The last component of the path; `?` for a file number that names nothing. -/
def displayName? : SourceFile → Option String
  | .none => .none
  | .invalid => some "?"
  | .path text =>
    let base := (Path.baseName? text).getD text
    some (if base = "" then "?" else base)

/-- The file as an attribute shows it, `?` when there is none. -/
def shown (file : SourceFile) : String := file.displayName?.getD "?"

end SourceFile

inductive Access where
  | unspecified | publicAccess | protectedAccess | privateAccess
  deriving DecidableEq, Inhabited, Repr

namespace Access

/-- Decode the accessibility code. -/
def ofCode (code : UInt64) : Access :=
  match code with
  | 1 => .publicAccess
  | 2 => .protectedAccess
  | 3 => .privateAccess
  | _ => .unspecified

/-- Members of a class are private unless they say otherwise; those of other types are public. -/
def effective (access : Access) (inClass : Bool) : String :=
  match access with
  | .publicAccess => "public"
  | .protectedAccess => "protected"
  | .privateAccess => "private"
  | .unspecified => if inClass then "private" else "public"

end Access

structure FunctionInfo where
  isDeclaration : Bool := false
  isStatic : Bool := false
  isInline : Bool := false
  isInlined : Bool := false
  deriving DecidableEq, Inhabited, Repr

/-- What a template parameter stands for. -/
inductive TemplateArgument where
  | type
  | value (literal : Option String)
  | template (name : Option String)
  | pack
  deriving DecidableEq, Inhabited, Repr

inductive BlockForm where
  | lexical | tryBlock | catchBlock
  deriving DecidableEq, Inhabited, Repr

/-- What a line table row says beside file and line. -/
structure LineInfo where
  address : UInt64 := 0
  discriminator : UInt64 := 0
  newStatement : Bool := false
  prologueEnd : Bool := false
  endSequence : Bool := false
  basicBlock : Bool := false
  epilogueBegin : Bool := false
  deriving DecidableEq, Inhabited, Repr

/-- What only some objects have. -/
inductive Detail where
  | none
  | function (info : FunctionInfo)
  | enumType (isClass : Bool)
  | member (access : Access) (isStatic : Bool)
  | variadic
  | templateParameter (argument : TemplateArgument)
  | usingEntry (ofModule : Bool)
  | block (form : BlockForm)
  | codeLine (info : LineInfo)
  | primitiveType (byteSize : UInt64)
  | auxiliary (form : AuxiliaryForm)
  | enumerator (value : String)
  | inheritance (access : Access)
  deriving DecidableEq, Inhabited, Repr

/-- An object with its place in the outline. Offsets that name other entries are kept beside the
objects they were resolved to. -/
structure Node where
  kind : Kind
  offset : UInt64
  tag : Option Dwarf.Tag := none
  parent : Option NodeId := none
  children : Array NodeId := #[]
  lines : Array NodeId := #[]
  name : String := ""
  qualifier : String := ""
  line : UInt64 := 0
  file : SourceFile := .none
  typeOffset : Option UInt64 := none
  typeId : Option NodeId := none
  referenceOffset : Option UInt64 := none
  referenceId : Option NodeId := none
  isGenerated : Bool := false
  isGlobal : Bool := false
  isTemplate : Bool := false
  level : Nat := 0
  unit : Nat := 0
  detail : Detail := .none
  deriving DecidableEq, Inhabited, Repr

namespace Node

def isAuxiliary (node : Node) : Bool := node.kind == .auxiliary

def auxiliaryForm? (node : Node) : Option AuxiliaryForm :=
  match node.detail with
  | .auxiliary form => some form
  | .enumerator _ => some .enumerator
  | .inheritance _ => some .inheritance
  | _ => none

def function? (node : Node) : Option FunctionInfo :=
  match node.detail with
  | .function info => some info
  | _ => none

def templateArgument? (node : Node) : Option TemplateArgument :=
  match node.detail with
  | .templateParameter argument => some argument
  | _ => none

def isPack (node : Node) : Bool := node.templateArgument? == some .pack

def isVariadic (node : Node) : Bool := node.detail == .variadic

def isStatic (node : Node) : Bool :=
  match node.detail with
  | .function info => info.isStatic
  | .member _ isStatic => isStatic
  | _ => false

def access (node : Node) : Access :=
  match node.detail with
  | .member access _ => access
  | .inheritance access => access
  | _ => .unspecified

def qualifiedName (node : Node) : String := node.qualifier ++ node.name

end Node

end DebugOutline
