import DebugOutline.Outline.Basic

/-! What using directives and declarations import. -/
namespace DebugOutline.Outline

/-- The word for what is imported; a declaration that names nothing known has none. -/
def usingWord? (outline : Outline) (id : NodeId) : Option String :=
  let node := outline.node id
  if node.detail = .usingEntry true then some "namespace"
  else (outline.type? id).map fun target =>
    match target.kind with
    | .namespaceScope => "namespace"
    | .function => "function"
    | .variable | .member | .parameter => "variable"
    | _ => "type"

/-- The imported name with its scopes, or the name of the entry itself when it names nothing
known. -/
def usingName (outline : Outline) (id : NodeId) : String :=
  match outline.type? id with
  | none => (outline.node id).name
  | some target =>
    match target.parent with
    | none => target.name
    | some parent =>
      let path := if (outline.node parent).kind.endsScopes then "" else outline.scopePath parent
      if path = "" then target.name else path ++ "::" ++ target.name

end DebugOutline.Outline
