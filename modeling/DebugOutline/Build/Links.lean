import DebugOutline.Outline.Basic

/-! Linking: offsets that name other entries become objects. An object that another unit refers to
is global, and so is everything nested in it. -/
namespace DebugOutline

/-- What a declaration may link to: scopes link to scopes, symbols to symbols. -/
inductive LinkClass where
  | scope | symbol
  deriving DecidableEq, Inhabited, Repr

def Node.linkClass? (node : Node) : Option LinkClass :=
  match node.kind with
  | .parameter | .variable | .member => some .symbol
  | .function | .classType | .structType | .unionType | .enumType | .namespaceScope | .block
  | .compileUnit => some .scope
  | .alias => if node.tag = some .templateAlias then some .scope else none
  | .templateParameter => if node.isPack then some .scope else none
  | .auxiliary =>
    match node.detail with
    | .auxiliary .array | .auxiliary .subroutine => some .scope
    | .auxiliary .subroutineParameter => some .symbol
    | _ => none
  | _ => none

/-- Whether two objects may be linked as declaration and definition. -/
def Node.linksTo (node target : Node) : Bool :=
  node.linkClass?.isSome && node.linkClass? == target.linkClass?

namespace Outline

/-- Mark an object that another unit than its own refers to. -/
def markForeign (outline : Outline) (target unit : Nat) : Outline :=
  if (outline.node target).unit = unit then outline
  else outline.modify target fun node => { node with isGlobal := true }

/-- Resolve the type of an object. -/
def linkType (outline : Outline) (id : NodeId) : Outline :=
  match (outline.node id).typeOffset.bind outline.find? with
  | none => outline
  | some target =>
    let unit := (outline.node id).unit
    (outline.modify id fun node => { node with typeId := some target }).markForeign target unit

/-- Resolve the declaration of an object, if the two go together. -/
def linkDeclaration (outline : Outline) (id : NodeId) : Outline :=
  match (outline.node id).referenceOffset.bind outline.find? with
  | none => outline
  | some target =>
    if (outline.node id).linksTo (outline.node target) then
      let unit := (outline.node id).unit
      (outline.modify id fun node => { node with referenceId := some target }).markForeign
        target unit
    else outline

/-- Resolve every offset. -/
def link (outline : Outline) : Outline :=
  outline.ids.foldl (fun outline id => (outline.linkType id).linkDeclaration id) outline

/-- Pass the global mark on to a child. -/
def inheritGlobal (outline : Outline) (id : NodeId) : Outline :=
  if (outline.node id).parent.any fun parent => (outline.node parent).isGlobal then
    outline.modify id fun node => { node with isGlobal := true }
  else outline

/-- Whatever is nested in a global object is global. Parents come before their children. -/
def spreadGlobals (outline : Outline) : Outline := outline.ids.foldl inheritGlobal outline

end Outline

end DebugOutline
