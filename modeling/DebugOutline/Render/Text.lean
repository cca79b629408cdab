import DebugOutline.Selection
import DebugOutline.Render.Using

/-! Indented text. A line has the columns of the entry, a flag for global objects, the line number,
the indent of the tree, and what the object is. What belongs to an object follows on lines of its
own, indented past the columns. Columns are as wide as the whole outline needs. -/
namespace DebugOutline

/-- The outline with what fixes its layout. -/
structure Layout where
  outline : Outline
  options : Options
  lineWidth : Nat
  levelWidth : Nat
  tagWidth : Nat

namespace Layout

/-- Blanks for each level of the tree. -/
def indentStep : Nat := 2

/-- Levels take at least three digits. -/
def minLevelWidth : Nat := 3

def tagName (node : Node) : String := (node.tag.map (·.display)).getD ""

/-- Measure the columns over the whole outline. -/
def of (outline : Outline) (options : Options) : Layout where
  outline := outline
  options := options
  lineWidth := (Text.decimal (outline.nodes.foldl (fun most node => max most node.line.toNat) 0)).length
  levelWidth := max minLevelWidth
    (Text.decimal (outline.nodes.foldl (fun most node => max most node.level) 0)).length
  tagWidth := outline.nodes.foldl (fun most node => max most (tagName node).length) 0

def shows (layout : Layout) (option : ShowOption) : Bool := layout.options.shows option

/-- An entry offset between brackets, with at least eight digits. -/
def offsetMark (offset : UInt64) : String :=
  "[0x" ++ Text.zeroFill 8 (Text.hex offset.toNat) ++ "]"

def offsetColumn (layout : Layout) (node : Node) : String :=
  if layout.shows .dwarfOffset then offsetMark node.offset else ""

def parentColumn (layout : Layout) (node : Node) : String :=
  if layout.shows .dwarfParent then
    match node.parent with
    | some parent => offsetMark (layout.outline.node parent).offset
    | none => "[" ++ Text.blanks 10 ++ "]"
  else ""

def levelColumn (layout : Layout) (node : Node) : String :=
  if layout.shows .level then
    Text.zeroFill layout.levelWidth (Text.decimal node.level) ++ " "
  else ""

def tagColumn (layout : Layout) (node : Node) : String :=
  if layout.shows .dwarfTag then
    Text.alignLeft (layout.tagWidth + 2) ("[" ++ tagName node ++ "]")
  else ""

/-- The columns about the entry, set off by two blanks if there are any. -/
def entryColumns (layout : Layout) (node : Node) : String :=
  let columns := layout.offsetColumn node ++ layout.parentColumn node ++
    layout.levelColumn node ++ layout.tagColumn node
  if columns = "" then "" else columns ++ "  "

def flagColumn (layout : Layout) (node : Node) : String :=
  if layout.shows .global then if node.isGlobal then "X " else "  " else ""

/-- Everything left of the line number. -/
def leftColumns (layout : Layout) (node : Node) : String :=
  layout.entryColumns node ++ layout.flagColumn node

/-- The width of the columns left of the line number, as the input file fills them. -/
def leftWidth (layout : Layout) : Nat :=
  (layout.leftColumns (layout.outline.node Outline.root)).length

/-! ### Objects -/

/-- A line about an object below its first one. -/
def note (text : String) : String := "    - " ++ text

/-- The word for a missing type. -/
def void (layout : Layout) : String := if layout.shows .void then "void" else ""

/-- The offset of a type, where offsets are shown; a missing type is at zero. -/
def typeMark (layout : Layout) (type : Option NodeId) : String :=
  if layout.shows .dwarfOffset then
    offsetMark (match type with
      | some type => (layout.outline.node type).offset
      | none => 0)
  else ""

/-- Follow aliases to the end, at most so many of them. -/
def followAliases (outline : Outline) : Nat → NodeId → NodeId
  | 0, type => type
  | limit + 1, type =>
    let node := outline.node type
    match node.typeId with
    | some next => if node.kind = .alias then followAliases outline limit next else type
    | none => type

/-- The type of an object, or what is behind its aliases if that is asked for. There are no more
aliases on the way than objects, unless they go round in a circle. -/
def resolvedType (layout : Layout) (id : NodeId) : Option NodeId :=
  let type := (layout.outline.node id).typeId
  if layout.shows .underlying then
    type.map (followAliases layout.outline layout.outline.size)
  else type

/-- The type of an object between quotes, qualified or not. -/
def typed (layout : Layout) (id : NodeId) (qualified : Bool) (missing : String) : String :=
  let type := layout.resolvedType id
  let name := match type.map layout.outline.node with
    | some node => if qualified then node.qualifiedName else node.name
    | none => missing
  layout.typeMark type ++ Text.quote name

/-- The type where `void` stands for a missing one. -/
def valueType (layout : Layout) (id : NodeId) : String := layout.typed id true layout.void

def namespaceLine (layout : Layout) (id : NodeId) : String :=
  let path := layout.outline.scopePath id
  Text.braced "Namespace" ++ if path = "" then "" else " " ++ Text.quote path

/-- An aggregate with its bases. -/
def aggregateLines (layout : Layout) (id : NodeId) : List String :=
  let node := layout.outline.node id
  let bases := (layout.outline.auxiliaryChildren id .inheritance).map fun base =>
    let access := (layout.outline.node base).access.effective (node.kind == .classType)
    let type := match layout.outline.type? base with
      | some type => type.name
      | none => "void"
    note (access ++ " " ++ Text.quote type)
  (Text.braced node.kind.name ++ " " ++ Text.quote node.name) ::
    ((if node.isTemplate then [note "Template"] else []) ++ bases)

/-- The value of an enumerator. -/
def enumeratorValue (node : Node) : String :=
  match node.detail with
  | .enumerator value => value
  | _ => ""

/-- An enumeration with its enumerators. Its type is shown unless it has the same name. -/
def enumLines (layout : Layout) (id : NodeId) : List String :=
  let node := layout.outline.node id
  let type := match layout.outline.type? id with
    | some type =>
      if type.name = node.name then ""
      else " -> " ++ layout.typeMark node.typeId ++ Text.quote type.name
    | none => ""
  let enumerators := (layout.outline.auxiliaryChildren id .enumerator).map fun enumerator =>
    let item := layout.outline.node enumerator
    note (Text.quote item.name ++ " = " ++ enumeratorValue item ++
      if layout.shows .dwarfOffset then " " ++ offsetMark item.offset else "")
  (Text.braced "Enum" ++ (if node.detail = .enumType true then " class" else "") ++ " " ++
    Text.quote node.name ++ type) :: enumerators

def aliasLine (layout : Layout) (id : NodeId) : String :=
  let node := layout.outline.node id
  let type :=
    if node.tag = some .templateAlias then layout.valueType id else layout.typed id false ""
  Text.braced "Alias" ++ " " ++ Text.quote node.name ++ " -> " ++ type

end Layout

/-- The function that an object is declared by. -/
def Outline.declaringFunction? (outline : Outline) (id : NodeId) : Option Node :=
  ((outline.node id).referenceId.map outline.node).filter fun node => node.kind == .function

namespace Layout

/-- A function with where it is declared. -/
def functionLines (layout : Layout) (id : NodeId) : List String :=
  let node := layout.outline.node id
  let info := node.function?.getD {}
  let declared := match layout.outline.declaringFunction? id with
    | some declaration =>
      [note ("Declaration @ " ++ declaration.file.shown ++ "," ++
        Text.decimal declaration.line.toNat)]
    | none => if info.isDeclaration then [] else [note "No declaration"]
  (Text.braced "Function" ++ (if info.isStatic then " static" else "") ++
    (if info.isInline then " inline" else "") ++ " " ++
    Text.quote (layout.outline.scopePath id) ++ " -> " ++ layout.valueType id) ::
    (declared ++ (if node.isTemplate then [note "Template"] else []) ++
      (if info.isInlined then [note "Inlined"] else []) ++
      (if info.isDeclaration then [note "Is declaration"] else []))

/-- A symbol under its qualified name; where that is asked for, one without a qualifier gets the
scopes around it. -/
def symbolName (layout : Layout) (node : Node) : String :=
  let path := match node.parent with
    | some parent => layout.outline.scopePath parent
    | none => ""
  if node.qualifier = "" ∧ layout.shows .qualified ∧ path ≠ "" then path ++ "::" ++ node.name
  else node.qualifiedName

/-- Whether an object is directly in a class. -/
def isInClass (outline : Outline) (node : Node) : Bool :=
  node.parent.any fun parent => (outline.node parent).kind == .classType

def symbolLine (layout : Layout) (id : NodeId) : String :=
  let node := layout.outline.node id
  let access :=
    if node.kind = .member then " " ++ node.access.effective (isInClass layout.outline node) else ""
  let start := Text.braced node.kind.name ++ access ++ if node.isStatic then " static" else ""
  if node.isVariadic then start ++ " " ++ Text.quote "..."
  else
    start ++ " " ++ Text.quote (layout.symbolName node) ++
      (if layout.outline.parentIsTemplate id then " <- " else " -> ") ++ layout.valueType id

/-- What a template parameter stands for. -/
def argument? (layout : Layout) (id : NodeId) : Option String :=
  let node := layout.outline.node id
  match node.templateArgument? with
  | some .type => some (layout.valueType id)
  | some (.value literal) => some (layout.typeMark node.typeId ++ literal.getD "")
  | some (.template name) => some (layout.typeMark node.typeId ++ Text.quote (name.getD ""))
  | some .pack | none => none

/-- A template parameter with its argument; a pack has each of its arguments on a line. -/
def templateParameterLines (layout : Layout) (id : NodeId) : List String :=
  let node := layout.outline.node id
  let name := Text.braced "TemplateParameter" ++ " " ++ Text.quote node.qualifiedName
  if node.isPack then
    name :: (node.children.toList.filterMap layout.argument?).map ("    <- " ++ ·)
  else match layout.argument? id with
    | some argument => [name ++ " <- " ++ argument]
    | none => [name]

def usingLine (layout : Layout) (id : NodeId) : String :=
  let word := match layout.outline.usingWord? id with
    | some word => " " ++ word
    | none => ""
  Text.braced "Using" ++ layout.typeMark (layout.outline.node id).typeId ++ word ++ " " ++
    Text.quote (layout.outline.usingName id)

def blockLines (layout : Layout) (node : Node) : List String :=
  Text.braced "Block" ::
    if layout.shows .blockAttributes then
      match node.detail with
      | .block .tryBlock => [note "try"]
      | .block .catchBlock => [note "catch"]
      | _ => []
    else []

/-- The words for what a line row says, each with whether it is said. -/
def lineWords (info : LineInfo) : List (String × Bool) :=
  [("NewStatement", info.newStatement), ("PrologueEnd", info.prologueEnd),
    ("EndSequence", info.endSequence), ("BasicBlock", info.basicBlock),
    ("Discriminator", info.discriminator != 0), ("EpilogueBegin", info.epilogueBegin)]

def codeLines (layout : Layout) (node : Node) : List String :=
  Text.braced "CodeLine" ::
    match node.detail with
    | .codeLine info =>
      if layout.shows .codeLineAttributes then
        ((lineWords info).filter (·.2)).map fun word => note word.1
      else []
    | _ => []

def primitiveLines (node : Node) : List String :=
  (Text.braced "PrimitiveType" ++ " -> " ++ Text.quote node.name) ::
    match node.detail with
    | .primitiveType byteSize =>
      if byteSize = 0 then [] else [note (Text.decimal byteSize.toNat ++ " bytes")]
    | _ => []

/-- An object without its columns: the first line, then what belongs to it. -/
def objectLines (layout : Layout) (id : NodeId) : List String :=
  let node := layout.outline.node id
  let own := match node.kind with
    | .inputFile | .compileUnit => [Text.braced node.kind.name ++ " " ++ Text.quote node.name]
    | .namespaceScope => [layout.namespaceLine id]
    | .classType | .structType | .unionType => layout.aggregateLines id
    | .enumType => layout.enumLines id
    | .alias => [layout.aliasLine id]
    | .function => layout.functionLines id
    | .parameter | .variable | .member => [layout.symbolLine id]
    | .templateParameter => layout.templateParameterLines id
    | .usingEntry => [layout.usingLine id]
    | .block => layout.blockLines node
    | .primitiveType => primitiveLines node
    | .codeLine => layout.codeLines node
    | .auxiliary => [""]
  own ++ if node.isGenerated && layout.shows .generated then [note "Generated"] else []

/-! ### Pages -/

/-- The line number, blank where there is none. -/
def lineNumber (layout : Layout) (node : Node) : String :=
  if node.line = 0 && !layout.shows .zero then " " else Text.decimal node.line.toNat

/-- The indent of the tree at a depth. -/
def treeIndent (layout : Layout) (depth : Nat) : Nat :=
  indentStep * if layout.shows .indent then depth else 1

/-- A shown object with its columns. -/
def shownLines (layout : Layout) (shown : Shown) : List String :=
  let node := layout.outline.node shown.id
  let indent := layout.treeIndent shown.depth
  match layout.objectLines shown.id with
  | [] => []
  | first :: rest =>
    (layout.leftColumns node ++ Text.alignRight layout.lineWidth (layout.lineNumber node) ++
      Text.blanks indent ++ first) ::
      rest.map fun line => Text.blanks (layout.leftWidth + layout.lineWidth + indent) ++ line

/-- The first line of a page. -/
def header (layout : Layout) : String :=
  Text.blanks layout.leftWidth ++ Text.braced "InputFile" ++ " " ++
    Text.quote layout.outline.inputFile

end Layout

/-- A page while it is written: its lines and the file announced last. -/
structure Page where
  lines : Array String := #[]
  file : Option String := none
  deriving Inhabited

namespace Page

/-- Announce the file of an object, unless it is the one announced last. -/
def announce (layout : Layout) (page : Page) (file : SourceFile) : Page :=
  match file with
  | .path path =>
    if page.file = some path then page
    else {
      lines := page.lines ++ ["", Text.blanks layout.leftWidth ++ Text.braced "Source" ++ " " ++
        Text.quote (file.displayName?.getD "")]
      file := some path }
  | _ => page

/-- Write a shown object under the announcement of its file. -/
def write (layout : Layout) (page : Page) (shown : Shown) : Page :=
  let page := page.announce layout (layout.outline.node shown.id).file
  { page with lines := page.lines ++ layout.shownLines shown }

/-- Write a selection. -/
def writeAll (layout : Layout) (page : Page) (selection : List Shown) : Page :=
  selection.foldl (write layout) page

def text (page : Page) : String := Text.unlines page.lines.toList

end Page

/-- A selection as a page of its own. -/
def Layout.render (layout : Layout) (selection : List Shown) : String :=
  (Page.writeAll layout { lines := #[layout.header] } selection).text

end DebugOutline
