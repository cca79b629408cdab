import DebugOutline.Program

/-! The program on the files and streams of the system. -/
namespace DebugOutline

/-- Whether an action succeeds. -/
def succeeds (action : IO Unit) : IO Bool := do
  try
    action
    return true
  catch _ => return false

def systemDisk : Disk IO where
  read path := do
    try
      return .ok (← IO.FS.readBinFile path)
    catch
      | .noFileOrDirectory .. => return .error .notFound
      | _ => return .error .unreadable
  makeDirectories path := if path = "" then return true else succeeds (IO.FS.createDirAll path)
  write path content := succeeds (IO.FS.writeFile path content)
  openEnd path := succeeds do let _ ← IO.FS.Handle.mk path .append

def systemConsole (valueOf : String → Option String) : Console IO where
  disk := systemDisk
  print text := do
    try
      let output ← IO.getStdout
      output.putStr text
      output.flush
      return none
    catch
      | .resourceVanished .. => return some .closed
      | error => return some (.failed (toString error))
  printError text := IO.eprint text
  valueOf := valueOf

end DebugOutline

open DebugOutline in
def main (arguments : List String) : IO UInt32 := do
  let environment ← [Logging.formatVariable, Logging.fileVariable].mapM fun name => do
    return (name, ← IO.getEnv name)
  Program.run (systemConsole fun name => (environment.lookup name).join) arguments
