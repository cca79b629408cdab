import DebugOutline.Pattern.Size
import DebugOutline.Pattern.Syntax

/-! Patterns for names: regular expressions of bounded depth and size. -/
namespace DebugOutline

structure Pattern where
  expr : Expr
  deriving Inhabited

namespace Pattern

/-- How deep groups, repetitions, classes and sequences may nest. -/
def depthLimit : Nat := 250

/-- Read a pattern. A parenthesis that closes nothing stops the reading early. -/
def parse? (text : String) : Option Piece := do
  let characters := text.toList
  let (piece, scanner) ←
    (Scan.alternatives (characters.length + 1) [] []).run { rest := characters }
  if scanner.rest.isEmpty then some piece else none

/-- The pattern that a text writes, if it is valid, nests no deeper and takes no more memory than is
allowed. -/
def compile? (text : String) : Option Pattern := do
  let piece ← parse? text
  if piece.depth ≤ depthLimit ∧ piece.expr.size ≤ Expr.sizeLimit then some ⟨piece.expr⟩ else none

/-- Whether the pattern matches some part of a name. -/
def isMatch (pattern : Pattern) (name : String) : Bool := pattern.expr.isMatch name

end Pattern

end DebugOutline
