import DebugOutline.Disk.Basic

/-! A file system in memory: directories and files by their place under the root. -/
namespace DebugOutline

/-- The names from the root to a file or directory. -/
abbrev Place := List String

inductive FileEntry where
  | directory
  | file (content : ByteArray)
  deriving Inhabited

structure FileSystem where
  entries : List (Place × FileEntry)
  /-- Where relative paths start. -/
  workingDirectory : Place
  deriving Inhabited

namespace FileSystem

/-- A file system with an empty working directory under the root. -/
def empty (name : String) : FileSystem where
  entries := [([name], .directory)]
  workingDirectory := [name]

def lookup? (files : FileSystem) (place : Place) : Option FileEntry :=
  if place = [] then some .directory else files.entries.lookup place

/-- Replace what is at a place, or add it. -/
def put (files : FileSystem) (place : Place) (entry : FileEntry) : FileSystem :=
  { files with entries := (files.entries.filter fun item => item.1 != place) ++ [(place, entry)] }

/-- The longest name, in bytes. -/
def nameLimit : Nat := 255

/-- The longest path, in bytes. -/
def pathLimit : Nat := 4095

/-- Paths that no file can have. -/
def isRefused (path : String) : Bool := path.toList.contains '\x00' || pathLimit < path.utf8ByteSize

/-- Where a path starts. -/
def start (files : FileSystem) (path : String) : Place :=
  if path.toList.head? = some '/' then [] else files.workingDirectory

/-- The steps of a path, with empty ones at doubled and outer separators. -/
def steps (path : String) : List String := (path.toList.splitOn '/').map String.ofList

/-- One step from a directory. It may lead to what is not there, but not through it. -/
def step (files : FileSystem) (place : Place) (name : String) : Except ReadError Place :=
  match files.lookup? place with
  | none => .error .notFound
  | some (.file _) => .error .unreadable
  | some .directory =>
    if nameLimit < name.utf8ByteSize then .error .unreadable
    else if name = "" ∨ name = "." then .ok place
    else if name = ".." then .ok place.dropLast
    else .ok (place ++ [name])

/-- The place that a path leads to. -/
def resolve (files : FileSystem) (path : String) : Except ReadError Place :=
  if isRefused path then .error .unreadable
  else if path = "" then .error .notFound
  else (steps path).foldlM files.step (files.start path)

def read (files : FileSystem) (path : String) : Except ReadError ByteArray := do
  match files.lookup? (← files.resolve path) with
  | some (.file content) => return content
  | some .directory => throw .unreadable
  | none => throw .notFound

/-- Walk along a path, making a directory of whatever is not there. -/
def makeAlong (files : FileSystem) (place : Place) : List String → Bool × FileSystem
  | [] => (true, files)
  | name :: rest =>
    match files.step place name with
    | .error _ => (false, files)
    | .ok next =>
      match files.lookup? next with
      | some .directory => files.makeAlong next rest
      | some (.file _) => (false, files)
      | none => (files.put next .directory).makeAlong next rest

/-- Make a directory with everything around it that is missing. -/
def makeDirectories (files : FileSystem) (path : String) : Bool × FileSystem :=
  if isRefused path then (false, files)
  else if path = "" then (true, files)
  else files.makeAlong (files.start path) (steps path)

/-- Make a file, or replace its content. -/
def write (files : FileSystem) (path : String) (content : ByteArray) : Bool × FileSystem :=
  match files.resolve path with
  | .error _ => (false, files)
  | .ok place =>
    match files.lookup? place with
    | some .directory => (false, files)
    | _ => (true, files.put place (.file content))

/-- Make an empty file where there is none. -/
def openEnd (files : FileSystem) (path : String) : Bool × FileSystem :=
  match files.resolve path with
  | .error _ => (false, files)
  | .ok place =>
    match files.lookup? place with
    | some .directory => (false, files)
    | some (.file _) => (true, files)
    | none => (true, files.put place (.file .empty))

/-- What lies under the working directory, by path. -/
def listing (files : FileSystem) : List (String × FileEntry) :=
  let under := files.entries.filterMap fun item =>
    if files.workingDirectory.isPrefixOf item.1 ∧ item.1 ≠ files.workingDirectory then
      some (String.intercalate "/" (item.1.drop files.workingDirectory.length), item.2)
    else none
  under.mergeSort fun a b => a.1 ≤ b.1

/-- The files in memory as a disk. -/
def disk : Disk (StateM FileSystem) where
  read path := fun files => (files.read path, files)
  makeDirectories path := fun files => files.makeDirectories path
  write path content := fun files => files.write path content.toUTF8
  openEnd path := fun files => files.openEnd path

end FileSystem

end DebugOutline
