import DebugOutline.Outline.Node
import Std.Data.HashMap

/-! The outline: objects in the order they were added, each under its parent, and an index from
entry offsets to objects. Object 0 is the input file. -/
namespace DebugOutline

structure Outline where
  nodes : Array Node
  index : Std.HashMap UInt64 NodeId

namespace Outline

/-- The object of the input file. -/
def root : NodeId := 0

/-- An outline that holds nothing but the input file. -/
def empty (input : String) : Outline where
  nodes := #[{ kind := .inputFile, offset := 0, name := input }]
  index := ∅

instance : Inhabited Outline := ⟨empty ""⟩

def size (outline : Outline) : Nat := outline.nodes.size

/-- Nothing has been added to the input file. -/
def isEmpty (outline : Outline) : Bool := outline.size ≤ 1

/-- Every object, in the order of addition. -/
def ids (outline : Outline) : List NodeId := List.range outline.size

def node (outline : Outline) (id : NodeId) : Node := outline.nodes.getD id default

/-- The name of the input file. -/
def inputFile (outline : Outline) : String := (outline.node root).name

/-- Change one object. -/
def modify (outline : Outline) (id : NodeId) (change : Node → Node) : Outline :=
  { outline with nodes := outline.nodes.modify id change }

/-- The object added last among those with this offset; line rows and the file have none. -/
def find? (outline : Outline) (offset : UInt64) : Option NodeId := outline.index[offset]?

/-- The nesting level of an object of this kind under `parent`. -/
def levelUnder (outline : Outline) (parent : NodeId) (kind : Kind) : Nat :=
  if parent = root ∨ kind = .compileUnit then 0 else (outline.node parent).level + 1

/-- Add an object under `parent`. Line rows are listed apart from other children. -/
def insert (outline : Outline) (node : Node) (parent : NodeId) : NodeId × Outline :=
  let id := outline.size
  let placed := { node with parent := some parent, level := outline.levelUnder parent node.kind }
  if node.kind = .codeLine then
    (id, { outline with
      nodes := (outline.nodes.push placed).modify parent fun owner =>
        { owner with lines := owner.lines.push id } })
  else
    (id, {
      nodes := (outline.nodes.push placed).modify parent fun owner =>
        { owner with children := owner.children.push id }
      index := outline.index.insert node.offset id })

/-- The units directly under the input file, in order. -/
def compileUnits (outline : Outline) : List NodeId :=
  (outline.node root).children.toList.filter fun id => (outline.node id).kind == .compileUnit

/-- Auxiliary objects are never listed, nor are the members of a parameter pack. -/
def isListed (outline : Outline) (id : NodeId) : Bool :=
  let node := outline.node id
  !node.isAuxiliary &&
    !(node.kind == .templateParameter && node.parent.any fun parent => (outline.node parent).isPack)

/-- The children that are listed. -/
def children (outline : Outline) (id : NodeId) : List NodeId :=
  (outline.node id).children.toList.filter outline.isListed

/-- The children of one auxiliary form. -/
def auxiliaryChildren (outline : Outline) (id : NodeId) (form : AuxiliaryForm) : List NodeId :=
  (outline.node id).children.toList.filter fun child =>
    (outline.node child).auxiliaryForm? == some form

/-- Everything that stands below an object when the outline is walked: listed children, then line
rows. -/
def below (outline : Outline) (id : NodeId) : List NodeId :=
  outline.children id ++ (outline.node id).lines.toList

def type? (outline : Outline) (id : NodeId) : Option Node :=
  (outline.node id).typeId.map outline.node

def parentIsTemplate (outline : Outline) (id : NodeId) : Bool :=
  (outline.node id).parent.any fun parent => (outline.node parent).isTemplate

/-- An object and what it is nested in, from the inside out, at most `limit` of them. -/
def chain (outline : Outline) : Nat → Option NodeId → List NodeId
  | 0, _ => []
  | _, none => []
  | limit + 1, some id => id :: outline.chain limit (outline.node id).parent

/-- An object and everything it is nested in. Parents are older than their children, so there are
no more of them than objects. -/
def ancestry (outline : Outline) (id : NodeId) : List NodeId :=
  outline.chain outline.size (some id)

/-- Whether `id` is `ancestor` or nested in it. -/
def isWithin (outline : Outline) (id ancestor : NodeId) : Bool :=
  (outline.ancestry id).contains ancestor

/-- The names of the scopes around and including an object, from the inside out, up to its unit.
Scopes without a name are passed over. -/
def scopeNames (outline : Outline) (id : NodeId) : List String :=
  let scopes := (outline.ancestry id).takeWhile fun scope => !(outline.node scope).kind.endsScopes
  (scopes.map fun scope => (outline.node scope).name).filter (· != "")

/-- The scopes of an object and its own name, joined by `::`. -/
def scopePath (outline : Outline) (id : NodeId) : String :=
  String.intercalate "::" (outline.scopeNames id).reverse

/-- What qualifies a name declared under `parent`. Names local to a function are not qualified by
it, but a scope inside a function is. -/
def qualifierUnder (outline : Outline) (parent : Option NodeId) : String :=
  match parent with
  | none => ""
  | some scope =>
    if (outline.node scope).kind = .function then ""
    else (outline.scopeNames scope).foldl (fun path name => name ++ ("::" ++ path)) ""

/-- How many objects are of this kind. -/
def count (outline : Outline) (kind : Kind) : Nat :=
  outline.nodes.countP fun node => node.kind == kind

end Outline

end DebugOutline
