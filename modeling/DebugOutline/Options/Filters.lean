import DebugOutline.Pattern
import DebugOutline.Failure

/-! Filters pick objects by name: by a pattern for the whole name, or by a part of it. -/
namespace DebugOutline

structure Filters where
  exact : List Pattern := []
  any : List String := []
  treeExact : List Pattern := []
  treeAny : List String := []
  deriving Inhabited

namespace Filters

/-- The pattern that has to match a name from its first to its last character. -/
def wholeName (text : String) : Except Failure Pattern :=
  match Pattern.compile? ("^(?:" ++ text ++ ")$") with
  | some pattern => .ok pattern
  | none => .error (.invalidPattern text)

def addFilter (filters : Filters) (text : String) : Except Failure Filters := do
  let pattern ← wholeName text
  return { filters with exact := filters.exact ++ [pattern] }

def addFilterAny (filters : Filters) (part : String) : Filters :=
  { filters with any := filters.any ++ [part] }

def addTree (filters : Filters) (text : String) : Except Failure Filters := do
  let pattern ← wholeName text
  return { filters with treeExact := filters.treeExact ++ [pattern] }

def addTreeAny (filters : Filters) (part : String) : Filters :=
  { filters with treeAny := filters.treeAny ++ [part] }

/-- Whether some filter picks whole subtrees. -/
def hasTree (filters : Filters) : Bool := !(filters.treeExact.isEmpty && filters.treeAny.isEmpty)

def isActive (filters : Filters) : Bool :=
  !(filters.exact.isEmpty && filters.any.isEmpty) || filters.hasTree

/-- Whether `part` stands somewhere in a list of characters. -/
def occursIn (part : List Char) : List Char → Bool
  | [] => part.isEmpty
  | c :: rest => part.isPrefixOf (c :: rest) || occursIn part rest

/-- Whether `part` stands somewhere in `name`. -/
def contains (name part : String) : Bool := occursIn part.toList name.toList

def accepts (filters : Filters) (name : String) : Bool :=
  filters.exact.any (·.isMatch name) || filters.any.any (contains name ·)

def acceptsTree (filters : Filters) (name : String) : Bool :=
  filters.treeExact.any (·.isMatch name) || filters.treeAny.any (contains name ·)

end Filters

end DebugOutline
