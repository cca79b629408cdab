import DebugOutline.Console.Basic
import DebugOutline.Disk.Memory

/-! A console in memory, which keeps everything that is written. -/
namespace DebugOutline

structure Recorder where
  files : FileSystem
  output : String := ""
  errors : String := ""
  /-- Nothing more can be written to the output. -/
  isFull : Bool := false
  deriving Inhabited

namespace Recorder

/-- What a full device answers. -/
def noSpace : OutputError := .failed "No space left on device (os error 28)"

/-- Writing nothing always succeeds. -/
def print (text : String) : StateM Recorder (Option OutputError) := fun recorder =>
  if recorder.isFull && text != "" then (some noSpace, recorder)
  else (none, { recorder with output := recorder.output ++ text })

/-- Let something happen to the files. -/
def onFiles (action : StateM FileSystem α) : StateM Recorder α := fun recorder =>
  let (answer, files) := action recorder.files
  (answer, { recorder with files })

def console (valueOf : String → Option String) : Console (StateM Recorder) where
  disk := {
    read := fun path => onFiles (FileSystem.disk.read path)
    makeDirectories := fun path => onFiles (FileSystem.disk.makeDirectories path)
    write := fun path content => onFiles (FileSystem.disk.write path content)
    openEnd := fun path => onFiles (FileSystem.disk.openEnd path) }
  print := print
  printError text := modify fun recorder => { recorder with errors := recorder.errors ++ text }
  valueOf := valueOf

end Recorder

end DebugOutline
