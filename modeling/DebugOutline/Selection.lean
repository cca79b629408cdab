import DebugOutline.Outline.Basic
import DebugOutline.Options.Basic
import Std.Data.HashSet

/-! Which objects the text shows, in order, and how deep each is nested. Depth counts the objects
around, shown or not. With filters, a name that a tree filter accepts shows its whole subtree and
everything around it; any other object is shown only if a plain filter accepts its name. -/
namespace DebugOutline

/-- A shown object. -/
structure Shown where
  id : NodeId
  depth : Nat
  deriving DecidableEq, Inhabited, Repr

namespace Node

/-- The option that shows objects of a kind; auxiliary objects are never shown. -/
def showOption? (node : Node) : Option ShowOption :=
  match node.kind with
  | .codeLine => some .codeLine
  | .block => some .block
  | .classType => some .classType
  | .structType => some .structType
  | .unionType => some .unionType
  | .alias => some .alias
  | .enumType => some .enumType
  | .function => some .function
  | .namespaceScope => some .namespaceScope
  | .templateParameter => some .template
  | .member => some .member
  | .parameter => some .parameter
  | .variable => some .variable
  | .primitiveType => some .primitiveType
  | .usingEntry => some .usingEntry
  | .inputFile | .compileUnit | .auxiliary => none

/-- Whether the options show an object. Units always are; templates have an option of their own. -/
def isChosen (node : Node) (options : Options) : Bool :=
  if node.kind.endsScopes then true
  else if options.shows .onlyGlobals && !node.isGlobal ||
      options.shows .onlyLocals && node.isGlobal then false
  else if node.isTemplate then options.shows .template
  else node.showOption?.any options.shows

end Node

namespace Outline

/-! ### Definitions next to their declarations -/

/-- The sibling of a function that holds its declaration, in the same unit. -/
def declaringSibling? (outline : Outline) (siblings : List NodeId) (id : NodeId) : Option NodeId :=
  let node := outline.node id
  if node.kind ≠ .function then none
  else node.referenceId.bind fun declaration =>
    if (outline.node declaration).unit ≠ node.unit then none
    else siblings.find? fun sibling => sibling != id && outline.isWithin declaration sibling

/-- Put an object at the end, and right behind it what it declares, unless it is there already.
Each level of nesting puts one more object down. -/
def place (declared : NodeId → List NodeId) : Nat → List NodeId → NodeId → List NodeId
  | 0, placed, _ => placed
  | depth + 1, placed, id =>
    if placed.contains id then placed
    else (declared id).foldl (place declared depth) (placed ++ [id])

/-- Siblings with every definition moved behind the sibling that holds its declaration. Where such
siblings form a cycle, the first of them starts it. -/
def combine (outline : Outline) (siblings : List NodeId) : List NodeId :=
  let declaring := siblings.map fun id => (id, outline.declaringSibling? siblings id)
  if declaring.all fun pair => pair.2.isNone then siblings
  else
    let declared (sibling : NodeId) : List NodeId :=
      (declaring.filter fun pair => pair.2 == some sibling).map (·.1)
    let staying := (declaring.filter fun pair => pair.2.isNone).map (·.1)
    (staying ++ siblings).foldl (place declared siblings.length) []

/-- What is visited below an object, in order: listed children, then line rows. -/
def visited (outline : Outline) (options : Options) (id : NodeId) : List NodeId :=
  let children := outline.children id
  (if options.shows .combined then outline.combine children else children) ++
    (outline.node id).lines.toList

/-! ### Context of tree filters -/

/-- Walk down from an object, stopping at names that a tree filter accepts. The answer says whether
there is one, and lists the objects on the way to one. Children are younger than their parents, so
no walk is longer than the outline. -/
def contextBelow (outline : Outline) (filters : Filters) : Nat → NodeId → Bool × List NodeId
  | 0, _ => (false, [])
  | depth + 1, id =>
    if id ≠ root ∧ filters.acceptsTree (outline.node id).name then (true, [])
    else
      let answers := (outline.below id).map (outline.contextBelow filters depth)
      let found := answers.any (·.1)
      let inner := answers.flatMap (·.2)
      (found, if found then id :: inner else inner)

/-- Everything around a name that a tree filter accepts. -/
def context (outline : Outline) (filters : Filters) : Std.HashSet NodeId :=
  if filters.hasTree then .ofList (outline.contextBelow filters outline.size root).2 else ∅

/-! ### The selection -/

/-- Whether an object inside an accepted subtree is shown; line rows stay behind their option. -/
def isForced (outline : Outline) (options : Options) (id : NodeId) : Bool :=
  (outline.node id).kind ≠ .codeLine || options.shows .codeLine

/-- Shown objects from `id` down. `forced` says that a tree filter accepted something around. -/
def visit (outline : Outline) (options : Options) (context : Std.HashSet NodeId) :
    Nat → NodeId → Nat → Bool → List Shown
  | 0, _, _, _ => []
  | limit + 1, id, depth, forced =>
    let node := outline.node id
    let filters := options.filters
    let inside (forced : Bool) : List Shown :=
      (outline.visited options id).flatMap fun child =>
        outline.visit options context limit child (depth + 1) forced
    if forced && outline.isForced options id then ⟨id, depth⟩ :: inside true
    else if filters.isActive && context.contains id then ⟨id, depth⟩ :: inside false
    else if filters.isActive && filters.acceptsTree node.name then ⟨id, depth⟩ :: inside true
    else if !forced && node.isChosen options &&
        (!filters.isActive || filters.accepts node.name) then ⟨id, depth⟩ :: inside forced
    else inside forced

/-- What is shown of an object and everything in it. The input file itself is not shown. -/
def selectFrom (outline : Outline) (options : Options) (start : NodeId) : List Shown :=
  let context := outline.context options.filters
  if start = root then
    (outline.visited options root).flatMap fun child =>
      outline.visit options context outline.size child 1 false
  else outline.visit options context outline.size start 1 false

/-- What is shown of the whole outline. -/
def select (outline : Outline) (options : Options) : List Shown := outline.selectFrom options root

end Outline

end DebugOutline
