import DebugOutline.Dwarf.Tag

/-! What an object of the outline is, and which tags describe which kind. -/
namespace DebugOutline

open Dwarf (Tag)

/-- The kinds of objects. An `auxiliary` object is never listed: it spells a type or lists a part
of its owner. -/
inductive Kind where
  | inputFile | compileUnit | namespaceScope | classType | structType | unionType | enumType
  | alias | function | parameter | variable | member | templateParameter | block | codeLine
  | primitiveType | usingEntry | auxiliary
  deriving DecidableEq, Inhabited, Repr

namespace Kind

def name : Kind → String
  | .inputFile => "InputFile"
  | .compileUnit => "CompileUnit"
  | .namespaceScope => "Namespace"
  | .classType => "Class"
  | .structType => "Struct"
  | .unionType => "Union"
  | .enumType => "Enum"
  | .alias => "Alias"
  | .function => "Function"
  | .parameter => "Parameter"
  | .variable => "Variable"
  | .member => "Member"
  | .templateParameter => "TemplateParameter"
  | .block => "Block"
  | .codeLine => "CodeLine"
  | .primitiveType => "PrimitiveType"
  | .usingEntry => "Using"
  | .auxiliary => "Auxiliary"

/-- Every kind once. -/
def all : List Kind :=
  [.inputFile, .compileUnit, .namespaceScope, .classType, .structType, .unionType, .enumType,
    .alias, .function, .parameter, .variable, .member, .templateParameter, .block, .codeLine,
    .primitiveType, .usingEntry, .auxiliary]

/-- The kinds that a tally counts, by name. -/
def tallied : List Kind :=
  [.alias, .block, .classType, .codeLine, .compileUnit, .enumType, .function, .member,
    .namespaceScope, .parameter, .primitiveType, .structType, .templateParameter, .unionType,
    .usingEntry, .variable]

def isAggregate : Kind → Bool
  | .classType | .structType | .unionType => true
  | _ => false

/-- Kinds whose name takes template arguments. -/
def takesArguments : Kind → Bool
  | .classType | .structType | .unionType | .function | .alias => true
  | _ => false

def isSymbol : Kind → Bool
  | .parameter | .variable | .member => true
  | _ => false

/-- Kinds whose objects are qualified by the scopes around them. -/
def isQualified (kind : Kind) : Bool :=
  !kind.isSymbol && match kind with
    | .codeLine | .inputFile | .compileUnit => false
    | _ => true

/-- Scopes end at a unit or at the file. -/
def endsScopes : Kind → Bool
  | .compileUnit | .inputFile => true
  | _ => false

end Kind

/-- What an auxiliary object stands for. -/
inductive AuxiliaryForm where
  | const | volatile | restrict | pointer | reference | rvalueReference | pointerToMember
  | unspecified | array | subrange | subroutine | subroutineParameter | enumerator | inheritance
  deriving DecidableEq, Inhabited, Repr

/-- The part that an entry plays in the outline. -/
inductive Role where
  | object (kind : Kind)
  | auxiliary (form : AuxiliaryForm)
  deriving DecidableEq, Inhabited, Repr

namespace Role

/-- The kind of the objects that play this part. -/
def kind : Role → Kind
  | .object kind => kind
  | .auxiliary _ => .auxiliary

/-- The part that a tag stands for; entries with any other tag are left out. -/
def ofTag? : Tag → Option Role
  | .baseType => some (.object .primitiveType)
  | .classType => some (.object .classType)
  | .structureType => some (.object .structType)
  | .unionType => some (.object .unionType)
  | .enumerationType => some (.object .enumType)
  | .typedef | .templateAlias => some (.object .alias)
  | .subprogram | .inlinedSubroutine | .entryPoint | .label => some (.object .function)
  | .formalParameter | .unspecifiedParameters => some (.object .parameter)
  | .variableEntry => some (.object .variable)
  | .memberEntry => some (.object .member)
  | .templateTypeParameter | .templateValueParameter | .templateTemplateParameter
  | .templateParameterPack => some (.object .templateParameter)
  | .lexicalBlock | .tryBlock | .catchBlock => some (.object .block)
  | .importedModule | .importedDeclaration => some (.object .usingEntry)
  | .namespaceEntry => some (.object .namespaceScope)
  | .compileUnit => some (.object .compileUnit)
  | .constType => some (.auxiliary .const)
  | .volatileType => some (.auxiliary .volatile)
  | .restrictType => some (.auxiliary .restrict)
  | .pointerType => some (.auxiliary .pointer)
  | .referenceType => some (.auxiliary .reference)
  | .rvalueReferenceType => some (.auxiliary .rvalueReference)
  | .pointerToMemberType => some (.auxiliary .pointerToMember)
  | .unspecifiedType => some (.auxiliary .unspecified)
  | .arrayType => some (.auxiliary .array)
  | .subrangeType => some (.auxiliary .subrange)
  | .subroutineType => some (.auxiliary .subroutine)
  | .enumerator => some (.auxiliary .enumerator)
  | .inheritance => some (.auxiliary .inheritance)
  | _ => none

end Role

end DebugOutline
