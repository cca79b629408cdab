import DebugOutline.Disk.Basic

/-! What a program has around it: files, its two outputs, and the environment. -/
namespace DebugOutline

/-- Why output could not be written. -/
inductive OutputError where
  /-- Nobody reads it any more. -/
  | closed
  | failed (reason : String)
  deriving DecidableEq, Inhabited, Repr

structure Console (m : Type → Type) where
  disk : Disk m
  /-- Write to standard output; the answer is the problem, if there was one. -/
  print : String → m (Option OutputError)
  /-- Write to standard error. -/
  printError : String → m Unit
  /-- The variables of the environment. -/
  valueOf : String → Option String

end DebugOutline
