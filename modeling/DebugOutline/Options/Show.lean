/-! The switches that say what is shown, and the instructions that turn them. -/
namespace DebugOutline

/-- What can be shown or hidden. -/
inductive ShowOption where
  | alias | block | blockAttributes | classType | codeLine | codeLineAttributes | combined
  | dwarfOffset | dwarfParent | dwarfTag | enumType | function | generated | global | indent
  | level | member | namespaceScope | onlyGlobals | onlyLocals | parameter | primitiveType
  | qualified | structType | template | underlying | unionType | usingEntry | variable | void
  | zero
  deriving DecidableEq, Inhabited, Repr

namespace ShowOption

/-- Every option once, by name. -/
def all : List ShowOption :=
  [.alias, .block, .blockAttributes, .classType, .codeLine, .codeLineAttributes, .combined,
    .dwarfOffset, .dwarfParent, .dwarfTag, .enumType, .function, .generated, .global, .indent,
    .level, .member, .namespaceScope, .onlyGlobals, .onlyLocals, .parameter, .primitiveType,
    .qualified, .structType, .template, .underlying, .unionType, .usingEntry, .variable, .void,
    .zero]

/-- The word after `--show-` on the command line. -/
def word : ShowOption → String
  | .alias => "alias"
  | .block => "block"
  | .blockAttributes => "block-attributes"
  | .classType => "class"
  | .codeLine => "codeline"
  | .codeLineAttributes => "codeline-attributes"
  | .combined => "combined"
  | .dwarfOffset => "DWARF-offset"
  | .dwarfParent => "DWARF-parent"
  | .dwarfTag => "DWARF-tag"
  | .enumType => "enum"
  | .function => "function"
  | .generated => "generated"
  | .global => "global"
  | .indent => "indent"
  | .level => "level"
  | .member => "member"
  | .namespaceScope => "namespace"
  | .onlyGlobals => "only-globals"
  | .onlyLocals => "only-locals"
  | .parameter => "parameter"
  | .primitiveType => "primitivetype"
  | .qualified => "qualified"
  | .structType => "struct"
  | .template => "template"
  | .underlying => "underlying"
  | .unionType => "union"
  | .usingEntry => "using"
  | .variable => "variable"
  | .void => "void"
  | .zero => "zero"

def ofWord? (word : String) : Option ShowOption := all.find? fun option => option.word == word

/-- Options for a kind of object; only these are turned by the instructions for whole groups. -/
def isKind : ShowOption → Bool
  | .alias | .block | .blockAttributes | .classType | .enumType | .function | .member
  | .namespaceScope | .parameter | .primitiveType | .structType | .template | .unionType
  | .usingEntry | .variable => true
  | _ => false

/-- The kinds in the brief view. -/
def isBrief : ShowOption → Bool
  | .blockAttributes | .primitiveType => false
  | _ => true

end ShowOption

/-- What is shown: one switch for every option. -/
structure ShowFlags where
  on : ShowOption → Bool

namespace ShowFlags

/-- The brief view, indented, with `void` spelled out. -/
def initial : ShowFlags where
  on option := if option.isKind then option.isBrief else option == .indent || option == .void

instance : Inhabited ShowFlags := ⟨initial⟩

def set (flags : ShowFlags) (option : ShowOption) (value : Bool) : ShowFlags where
  on other := if other = option then value else flags.on other

/-- Turn every kind option as `value` says. -/
def setKinds (flags : ShowFlags) (value : ShowOption → Bool) : ShowFlags where
  on option := if option.isKind then value option else flags.on option

/-- The options that are on. -/
def enabled (flags : ShowFlags) : List ShowOption := ShowOption.all.filter flags.on

end ShowFlags

/-- An instruction for the switches. -/
inductive ShowAction where
  | all
  | brief
  | hideKinds
  | set (option : ShowOption) (value : Bool)
  deriving DecidableEq, Inhabited, Repr

/-- Later instructions override earlier ones where they touch the same switch. -/
def ShowFlags.apply (flags : ShowFlags) : ShowAction → ShowFlags
  | .all => flags.setKinds fun _ => true
  | .brief => flags.setKinds ShowOption.isBrief
  | .hideKinds => flags.setKinds fun _ => false
  | .set option value => flags.set option value

end DebugOutline
