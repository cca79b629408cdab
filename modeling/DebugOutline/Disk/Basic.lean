/-! What a run does to files. -/
namespace DebugOutline

/-- Why a file could not be read. -/
inductive ReadError where
  | notFound
  | unreadable
  deriving DecidableEq, Inhabited, Repr

/-- Files and directories as a run sees them. All but reading say whether they succeeded. -/
structure Disk (m : Type → Type) where
  read : String → m (Except ReadError ByteArray)
  makeDirectories : String → m Bool
  write : String → String → m Bool
  /-- Open a file to add to it; an empty one is made if there is none. -/
  openEnd : String → m Bool

end DebugOutline
