import DebugOutline.Outline.Basic
import DebugOutline.Options.Basic

/-! The order of siblings. Line rows keep the order of their table. -/
namespace DebugOutline

namespace Node

def compareLine (a b : Node) : Ordering := compare a.line b.line

/-- Names in the order of their characters, which is also the order of their bytes. -/
def compareName (a b : Node) : Ordering := compareOfLessAndEq a.name b.name

def compareKind (a b : Node) : Ordering := compareOfLessAndEq a.kind.name b.kind.name

def compareOffset (a b : Node) : Ordering := compare a.offset b.offset

/-- Compare two objects by a key. The offset breaks every tie. -/
def compareBy (key : SortKey) (a b : Node) : Ordering :=
  match key with
  | .line =>
    (((a.compareLine b).then (a.compareName b)).then (a.compareKind b)).then (a.compareOffset b)
  | .name =>
    (((a.compareName b).then (a.compareLine b)).then (a.compareKind b)).then (a.compareOffset b)
  | .offset => a.compareOffset b

end Node

namespace Outline

/-- Whether `a` may stand before `b`. -/
def ordered (outline : Outline) (key : SortKey) (a b : NodeId) : Bool :=
  ((outline.node a).compareBy key (outline.node b)).isLE

/-- Sort the children of every object; those that compare equal stay as they stood. -/
def sort (outline : Outline) (key : SortKey) : Outline :=
  { outline with nodes := outline.nodes.map fun node =>
    { node with
      children := (node.children.toList.mergeSort (outline.ordered key)).toArray } }

end Outline

end DebugOutline
