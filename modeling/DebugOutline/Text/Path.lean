/-! Paths as debug information and command lines spell them: text with `/` between components. -/
namespace DebugOutline.Path

/-- The components that name something; empty ones and `.` name the directory reached so far. -/
def components (path : String) : List String :=
  ((path.toList.splitOn '/').map String.ofList).filter fun part => part != "" && part != "."

/-- The last component, unless there is none or it climbs to a parent. -/
def baseName? (path : String) : Option String :=
  (components path).getLast?.filter (· != "..")

/-- The directory that the last component is in; the current one if there is no other. -/
def parent (path : String) : String :=
  let before := (components path).dropLast
  if path.toList.head? = some '/' then "/" ++ String.intercalate "/" before
  else if before.isEmpty then "."
  else String.intercalate "/" before

/-- Use `/` as the only separator. -/
def unify (path : String) : String := path.map fun c => if c = '\\' then '/' else c

/-- Replace separators and dots, so that the whole path can serve as one file name. -/
def flatten (path : String) : String :=
  path.map fun c => if c = '.' ∨ c = '/' ∨ c = '\\' then '_' else c

/-- Put a file name under a directory; the empty directory stands for the current one. -/
def under (directory name : String) : String :=
  if directory = "" then name
  else if directory.toList.getLast? = some '/' then directory ++ name
  else directory ++ "/" ++ name

end DebugOutline.Path
