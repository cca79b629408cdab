import DebugOutline.Outline.Basic

/-! Names that entries do not give: types built from other types are spelled out, and templates get
their arguments. A name is spelled after the names it is built from, except around a cycle, where
the name that is there is taken. -/
namespace DebugOutline

/-- A piece of a spelled name. -/
inductive NamePart where
  | literal (text : String)
  /-- The name of an object. -/
  | nameOf (id : NodeId)
  /-- The name of an object with the scopes that qualify it. -/
  | qualifiedNameOf (id : NodeId)
  deriving DecidableEq, Inhabited, Repr

namespace NamePart

/-- The object that has to be named first. -/
def target? : NamePart → Option NodeId
  | .literal _ => none
  | .nameOf id => some id
  | .qualifiedNameOf id => some id

/-- The text of a piece in an outline. -/
def text (outline : Outline) : NamePart → String
  | .literal text => text
  | .nameOf id => (outline.node id).name
  | .qualifiedNameOf id =>
    let node := outline.node id
    (if node.kind.isQualified then outline.qualifierUnder node.parent else "") ++ node.name

end NamePart

/-- How a name is spelled: its pieces, and how their texts are put together. -/
structure Spelling where
  parts : List NamePart
  compose : List String → String

namespace Spelling

/-- The words of a text, as blanks separate them. -/
def words (text : String) : List String :=
  ((text.toList.splitOn ' ').map String.ofList).filter (· != "")

/-- The words of all texts, with one blank between any two. -/
def joinWords (texts : List String) : String :=
  String.intercalate " " (texts.flatMap words)

/-- Words spelled one after the other. -/
def ofWords (parts : List NamePart) : Spelling := ⟨parts, joinWords⟩

/-- The type of an object as a piece, or `missing` when it has none. -/
def typePart (outline : Outline) (id : NodeId) (missing : String) : NamePart :=
  match (outline.node id).typeId with
  | some target => .nameOf target
  | none => .literal missing

/-- Element type, a blank, then the extents of all dimensions. -/
def array (outline : Outline) (id : NodeId) : Spelling :=
  let extents := (outline.auxiliaryChildren id .subrange).map fun dimension =>
    (outline.node dimension).name
  ⟨[typePart outline id "?"], fun texts => String.join texts ++ " " ++ String.join extents⟩

/-- The named parameters of a subroutine type. -/
def formalParameters (outline : Outline) (id : NodeId) : List NodeId :=
  (outline.auxiliaryChildren id .subroutineParameter).filter fun parameter =>
    (outline.node parameter).tag == some .formalParameter

/-- Result type, then the types of the parameters between parentheses. -/
def subroutine (outline : Outline) (id : NodeId) (void : String) : Spelling where
  parts := typePart outline id void ::
    (formalParameters outline id).map fun parameter => typePart outline parameter ""
  compose
    | [] => ""
    | result :: parameters =>
      result ++ " (*)(" ++ String.intercalate "," parameters ++ ")"

/-- The spelling of an auxiliary object that stands for a type; the others keep their names. -/
def auxiliary? (outline : Outline) (id : NodeId) (form : AuxiliaryForm) (void : String) :
    Option Spelling :=
  let own := NamePart.literal (outline.node id).name
  let type := typePart outline id
  match form with
  | .const => some (ofWords [.literal "const", own, type ""])
  | .volatile => some (ofWords [.literal "volatile", own, type ""])
  | .restrict => some (ofWords [.literal "restrict", own, type ""])
  | .pointer => some (ofWords [own, type void, .literal "*"])
  | .pointerToMember => some (ofWords [own, type "", .literal "*"])
  | .reference => some (ofWords [own, type "", .literal "&"])
  | .rvalueReference => some (ofWords [own, type "", .literal "&&"])
  | .unspecified => some (ofWords [own, type ""])
  | .array => some (array outline id)
  | .subroutine => some (subroutine outline id void)
  | .subrange | .subroutineParameter | .enumerator | .inheritance => none

/-- What a template parameter stands for; a pack stands for nothing itself. -/
def argument? (outline : Outline) (parameter : NodeId) : Option NamePart :=
  match (outline.node parameter).templateArgument? with
  | some .type =>
    match (outline.node parameter).typeId with
    | some target => some (.qualifiedNameOf target)
    | none => some (.literal "void")
  | some (.value literal) => some (.literal (literal.getD ""))
  | some (.template name) => some (.literal (name.getD ""))
  | some .pack | none => none

/-- The arguments of a template in order, with packs opened in place. -/
def arguments (outline : Outline) (id : NodeId) : List NamePart :=
  let parameters := (outline.node id).children.toList.filter fun child =>
    (outline.node child).kind == .templateParameter
  (parameters.flatMap fun parameter =>
    if (outline.node parameter).isPack then (outline.node parameter).children.toList
    else [parameter]).filterMap (argument? outline)

/-- The name, then the arguments between angle brackets. -/
def template (outline : Outline) (id : NodeId) : Spelling :=
  let own := (outline.node id).name
  ⟨arguments outline id, fun texts => own ++ "<" ++ String.intercalate ", " texts ++ ">"⟩

/-- Templates whose name is there but says nothing of arguments. -/
def lacksArguments (node : Node) : Bool :=
  node.isTemplate && node.kind.takesArguments && node.name != "" && !node.name.toList.contains '<'

/-- How the name of an object is spelled, unless it keeps the one it has. `void` stands for a type
that is not there. -/
def of? (outline : Outline) (void : String) (id : NodeId) : Option Spelling :=
  let node := outline.node id
  match node.auxiliaryForm? with
  | some form => auxiliary? outline id form void
  | none => if lacksArguments node then some (template outline id) else none

end Spelling

/-- An outline while its names are spelled, and the objects that have been started. -/
structure Naming where
  outline : Outline
  started : Array Bool

namespace Naming

def hasStarted (naming : Naming) (id : NodeId) : Bool := naming.started.getD id true

/-- Name what the pieces need, one after the other, reading each piece when its turn has come. -/
def gather (resolve : Naming → NodeId → Naming) : List NamePart → Naming → List String × Naming
  | [], naming => ([], naming)
  | part :: rest, naming =>
    let naming := match part.target? with
      | some target => resolve naming target
      | none => naming
    let text := part.text naming.outline
    let (texts, naming) := gather resolve rest naming
    (text :: texts, naming)

/-- Name an object that has not been started, after everything its name is built from. Every level
of nesting starts one more object, so there are at most as many levels as objects. -/
def resolve (void : String) : Nat → Naming → NodeId → Naming
  | 0, naming, _ => naming
  | depth + 1, naming, id =>
    if naming.hasStarted id then naming
    else
      let naming := { naming with started := naming.started.setIfInBounds id true }
      match Spelling.of? naming.outline void id with
      | none => naming
      | some spelling =>
        let (texts, naming) := gather (resolve void depth) spelling.parts naming
        { naming with outline := naming.outline.modify id fun node =>
          { node with name := spelling.compose texts } }

end Naming

/-- Spell every name. -/
def Outline.spellNames (outline : Outline) (void : String) : Outline :=
  let start : Naming := ⟨outline, Array.replicate outline.size false⟩
  (outline.ids.foldl (Naming.resolve void outline.size) start).outline

end DebugOutline
