/-! What ends a run. -/
namespace DebugOutline

/-- Every failure names the pattern, file or directory it is about. -/
inductive Failure where
  | invalidPattern (pattern : String)
  | readFailed (path : String)
  | invalidDwarf (path : String)
  | makeDirectory (path : String)
  | openSplitFile (path : String)
  | fileNotFound (path : String)
  | invalidFile (path : String)
  deriving DecidableEq, Inhabited, Repr

namespace Failure

/-- The stable code of the failure. -/
def code : Failure → String
  | .invalidPattern _ => "ERR_CMD_INVALID_REGEX"
  | .readFailed _ => "ERR_READ_FAILED"
  | .invalidDwarf _ => "ERR_INVALID_DWARF"
  | .makeDirectory _ => "ERR_FILEIO_MAKE_DIR_FAILURE"
  | .openSplitFile _ => "ERR_SPLIT_UNABLE_TO_OPEN_FILE"
  | .fileNotFound _ => "ERR_FILE_NOT_FOUND"
  | .invalidFile _ => "ERR_INVALID_FILE"

/-- The sentence for the user. -/
def explanation : Failure → String
  | .invalidPattern pattern => "Invalid Regular Expression '" ++ pattern ++ "'."
  | .readFailed path => "Failed to read '" ++ path ++ "'."
  | .invalidDwarf path => "Failed to read DWARF from '" ++ path ++ "'"
  | .makeDirectory path => "Unable to create directory '" ++ path ++ "'."
  | .openSplitFile path => "Unable to open file '" ++ path ++ "' for Logical View Split."
  | .fileNotFound path => "Unable to open file '" ++ path ++ "'."
  | .invalidFile path =>
    "Invalid input file '" ++ path ++ "', please provide a file in a supported format."

/-- Code and sentence, as they are printed. -/
def message (failure : Failure) : String := failure.code ++ ": " ++ failure.explanation

end Failure

end DebugOutline
