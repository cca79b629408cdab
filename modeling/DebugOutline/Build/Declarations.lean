import DebugOutline.Outline.Basic

/-! Qualifying names, and completing definitions from the declarations they refer to. -/
namespace DebugOutline

namespace Outline

/-- Qualify the name of an object by the scopes around it. -/
def qualify (outline : Outline) (id : NodeId) : Outline :=
  let node := outline.node id
  if node.kind.isQualified then
    let qualifier := outline.qualifierUnder node.parent
    outline.modify id fun node => { node with qualifier := qualifier }
  else outline

/-- Qualify every name that takes it. -/
def qualifyNames (outline : Outline) : Outline := outline.ids.foldl qualify outline

end Outline

/-- Take over what a declaration says: name, place and, if it has one, the type. A function that
was declared static is static. -/
def Node.complete (node declaration : Node) : Node :=
  let node := { node with
    name := declaration.name, line := declaration.line, file := declaration.file }
  let node := match declaration.typeId with
    | some target => { node with typeId := some target, typeOffset := declaration.typeOffset }
    | none => node
  match node.detail, declaration.function? with
  | .function info, some declared =>
    if declared.isStatic then { node with detail := .function { info with isStatic := true } }
    else node
  | _, _ => node

namespace Outline

/-- Complete an object from its declaration. A symbol is qualified like the symbol that declares
it. -/
def completeFrom (outline : Outline) (id reference : NodeId) : Outline :=
  let declaration := outline.node reference
  let qualifier :=
    if declaration.kind.isSymbol && (outline.node id).kind.isSymbol then
      outline.qualifierUnder declaration.parent
    else ""
  outline.modify id fun node =>
    let node := node.complete declaration
    if qualifier = "" then node else { node with qualifier := qualifier }

end Outline

/-- An outline while definitions are completed, and the objects that have been started. -/
structure Completion where
  outline : Outline
  started : Array Bool

namespace Completion

def hasStarted (completion : Completion) (id : NodeId) : Bool := completion.started.getD id true

/-- Complete an object after its declaration, which may be completed from another one itself. Every
level of nesting starts one more object, so there are at most as many levels as objects. -/
def complete : Nat → Completion → NodeId → Completion
  | 0, completion, _ => completion
  | depth + 1, completion, id =>
    if completion.hasStarted id then completion
    else
      let completion := { completion with started := completion.started.setIfInBounds id true }
      match (completion.outline.node id).referenceId with
      | none => completion
      | some reference =>
        let completion := complete depth completion reference
        { completion with outline := completion.outline.completeFrom id reference }

end Completion

/-- Complete every definition. -/
def Outline.completeDefinitions (outline : Outline) : Outline :=
  let start : Completion := ⟨outline, Array.replicate outline.size false⟩
  (outline.ids.foldl (Completion.complete outline.size) start).outline

end DebugOutline
