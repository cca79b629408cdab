import DebugOutline.Outline.Basic
import DebugOutline.Render.Scalar
import DebugOutline.Render.Using
import DebugOutline.Render.Text

/-! The document of the whole outline. Every listed object has the same keys in the same order:
object, name, type, source, dwarf, attributes, children. No option leaves anything out. -/
namespace DebugOutline.Outline

namespace Document

/-- The version of the keys. -/
def version : String := "0.1"

def header (outline : Outline) : List String :=
  ["input_file: " ++ Scalar.quote outline.inputFile, "output_version: " ++ Scalar.quote version,
    "objects:"]

/-- A number that is missing when it is zero. -/
def numberOrNull (value : UInt64) : String :=
  if value = 0 then "null" else Text.decimal value.toNat

def source (line file : String) : List String := ["source:", "  line: " ++ line, "  file: " ++ file]

def sourceOf (node : Node) : List String :=
  source (numberOrNull node.line) (Scalar.ofOption node.file.displayName?)

def dwarfOf (node : Node) : List String :=
  ["dwarf:", "  offset: 0x" ++ Text.hex node.offset.toNat,
    "  tag: " ++ Scalar.ofOption (node.tag.map (·.display))]

/-- A list under a key. -/
def listOf (key : String) (items : List String) : List String :=
  if items.isEmpty then [key ++ " []"] else key :: items

def functionAttributes (outline : Outline) (id : NodeId) (info : FunctionInfo) : List String :=
  let declaration := outline.declaringFunction? id
  ["  declaration:",
    "    file: " ++ Scalar.ofOption (declaration.map (·.file.shown)),
    "    line: " ++ ((declaration.map fun node => numberOrNull node.line).getD "null"),
    "  is_template: " ++ Scalar.bool (outline.node id).isTemplate,
    "  static: " ++ Scalar.bool info.isStatic,
    "  inline: " ++ Scalar.bool info.isInline,
    "  is_inlined: " ++ Scalar.bool info.isInlined,
    "  is_declaration: " ++ Scalar.bool info.isDeclaration]

def classAttributes (outline : Outline) (id : NodeId) : List String :=
  let node := outline.node id
  let bases := (outline.auxiliaryChildren id .inheritance).flatMap fun base =>
    let type := match outline.type? base with
      | some type => type.qualifiedName
      | none => "void"
    let access := (outline.node base).access.effective (node.kind == .classType)
    ["    - parent: " ++ Scalar.quote type, "      access_specifier: \"" ++ access ++ "\""]
  ("  is_template: " ++ Scalar.bool node.isTemplate) :: listOf "  inherits_from:" bases

def enumAttributes (outline : Outline) (id : NodeId) (isClass : Bool) : List String :=
  let enumerators := (outline.auxiliaryChildren id .enumerator).flatMap fun enumerator =>
    let item := outline.node enumerator
    ["    - enumerator: " ++ Scalar.quote item.name,
      "      value: " ++ Layout.enumeratorValue item]
  ("  class: " ++ Scalar.bool isClass) :: listOf "  enumerators:" enumerators

/-- What a template parameter stands for. -/
def argument? (outline : Outline) (id : NodeId) : Option String :=
  match (outline.node id).templateArgument? with
  | some .type =>
    some (match outline.type? id with
      | some type => Scalar.orNull type.qualifiedName
      | none => Scalar.quote "void")
  | some (.value literal) => some (literal.getD "null")
  | some (.template name) => some ((name.map Scalar.orNull).getD "null")
  | some .pack | none => none

def templateAttributes (outline : Outline) (id : NodeId) (argument : TemplateArgument) :
    List String :=
  let items :=
    if argument = .pack then (outline.node id).children.toList.filterMap (argument? outline)
    else (argument? outline id).toList
  listOf "  types:" (items.map ("    - " ++ ·))

def lineAttributes (info : LineInfo) : List String :=
  (Layout.lineWords info).map fun word => "  " ++ word.1 ++ ": " ++ Scalar.bool word.2

/-- What only objects of its kind have. -/
def attributes (outline : Outline) (id : NodeId) : List String :=
  let node := outline.node id
  match node.kind, node.detail with
  | .function, .function info => functionAttributes outline id info
  | .classType, _ | .structType, _ => classAttributes outline id
  | .unionType, _ => ["  is_template: " ++ Scalar.bool node.isTemplate]
  | .enumType, .enumType isClass => enumAttributes outline id isClass
  | .member, .member access _ =>
    ["  access_specifier: \"" ++ access.effective (Layout.isInClass outline node) ++ "\""]
  | .block, .block form =>
    ["  try: " ++ Scalar.bool (form == .tryBlock), "  catch: " ++ Scalar.bool (form == .catchBlock)]
  | .codeLine, .codeLine info => lineAttributes info
  | .templateParameter, .templateParameter argument => templateAttributes outline id argument
  | _, _ => []

def attributesField (items : List String) : List String :=
  if items.isEmpty then ["attributes: \x7b\x7d"] else "attributes:" :: items

/-- The fields of a primitive type, which has no place and is known as a type. -/
def primitiveFields (node : Node) : List String :=
  let size := match node.detail with
    | .primitiveType byteSize => byteSize
    | _ => 0
  ["object: \"PrimitiveType\"", "name: null", "type: " ++ Scalar.orNull node.name] ++
    source "null" "null" ++ dwarfOf node ++ ["attributes:", "  size: " ++ Text.decimal size.toNat]

def usingFields (outline : Outline) (id : NodeId) : List String :=
  let node := outline.node id
  let word := match outline.usingWord? id with
    | some word => "\"" ++ word ++ "\""
    | none => "null"
  ["object: \"Using\"", "name: " ++ Scalar.orNull (outline.usingName id), "type: null"] ++
    sourceOf node ++ dwarfOf node ++ ["attributes:", "  using_type: " ++ word]

/-- The type field; functions without a type give none, template parameters are types. -/
def typeField (outline : Outline) (id : NodeId) : String :=
  let node := outline.node id
  match outline.type? id with
  | some type =>
    if node.kind = .templateParameter then "null" else Scalar.orNull type.qualifiedName
  | none => if node.kind = .function then Scalar.quote "void" else "null"

def commonFields (outline : Outline) (id : NodeId) : List String :=
  let node := outline.node id
  let name := if node.isVariadic then node.qualifier ++ "..." else node.qualifiedName
  ["object: \"" ++ node.kind.name ++ "\"", "name: " ++ Scalar.orNull name,
      "type: " ++ typeField outline id] ++
    sourceOf node ++ dwarfOf node ++ attributesField (attributes outline id)

/-- The fields of an object before its children. -/
def fields (outline : Outline) (id : NodeId) : List String :=
  let node := outline.node id
  match node.kind with
  | .primitiveType => primitiveFields node
  | .usingEntry => usingFields outline id
  | _ => commonFields outline id

/-- The blanks in front of an item at a nesting level, counted from one. -/
def indentAt (level : Nat) : String := Text.blanks ((level * 2 - 1) * 2)

/-- Mark the first line of an item. -/
def itemLines (indent : String) : List String → List String
  | [] => []
  | first :: rest => (indent ++ "- " ++ first) :: rest.map fun line => indent ++ "  " ++ line

/-- An object with everything below it as an item of a list. A name may bring line ends of its
own. Children are younger than their parents, so no nesting is deeper than the outline. -/
def item (outline : Outline) : Nat → NodeId → Nat → List String
  | 0, _, _ => []
  | limit + 1, id, level =>
    let indent := indentAt level
    let children := outline.below id
    itemLines indent (Text.lines (String.intercalate "\n" (fields outline id))) ++
      if children.isEmpty then [indent ++ "  children: []"]
      else (indent ++ "  children:") ::
        children.flatMap fun child => item outline limit child (level + 1)

end Document

/-- One object and what is below it, as an item at a level. -/
def yamlItem (outline : Outline) (id : NodeId) (level : Nat) : String :=
  Text.unlines (Document.item outline outline.size id level)

/-- The start of every document about an input file. -/
def yamlHeader (outline : Outline) : String := Text.unlines (Document.header outline)

/-- The document of the whole outline. -/
def yaml (outline : Outline) : String :=
  outline.yamlHeader ++
    String.join ((outline.children root).map fun id => outline.yamlItem id 1)

end DebugOutline.Outline
