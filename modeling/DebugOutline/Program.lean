import DebugOutline.CommandLine.Scan
import DebugOutline.Console.Basic
import DebugOutline.Report

/-! The whole program: from its arguments to its exit status. -/
namespace DebugOutline

namespace Program

variable {m : Type → Type} [Monad m]

/-- The name and version of the program. -/
def versionLine : String := "dwarfview 0.0.0\n"

/-- The arguments in short. -/
def usage : String :=
  "Usage: dwarfview [OPTIONS] <INPUT_FILE>...\n" ++ Text.unlines
    (Argument.longNames.map fun option => "      --" ++ option.1)

/-- Say why nothing is run. -/
def explain (console : Console m) (stop : UsageStop) : m Unit := do
  match stop with
  | .version => let _ ← console.print versionLine
  | .help => let _ ← console.print usage
  | _ => console.printError ("error: " ++ usage)

/-- Open the file for diagnostic records, with the directory around it if that is missing. The
answer is the problem, if there is one. -/
def openLog (disk : Disk m) (logging : Logging) : m (Option String) := do
  match logging.file.bind fun path => (Path.baseName? path).map (Path.parent path, ·) with
  | none => return none
  | some (directory, name) =>
    let path := Path.under directory name
    if ← disk.openEnd path then return none
    else if !(← disk.makeDirectories directory) then return some "failed to create log directory"
    else if ← disk.openEnd path then return none
    else return some "failed to create initial log file"

/-- End with a failure. -/
def fail (console : Console m) (text : String) : m UInt32 := do
  console.printError text
  return 1

/-- Report on one input file after another. The first failure ends the program; what was written
before it stays. -/
def reportAll (console : Console m) (options : Options) : List String → m UInt32
  | [] => return 0
  | input :: rest => do
    match ← Report.ofFile console.disk input options with
    | .error failure => fail console ("\n" ++ failure.message ++ "\n")
    | .ok report =>
      report.warnings.forM fun warning =>
        console.printError ("\nWarning: " ++ warning.message ++ "\n")
      match ← console.print report.output with
      | none => reportAll console options rest
      | some .closed => return 0
      | some (.failed reason) => fail console ("\nFailed to write output: " ++ reason ++ "\n")

/-- Run the program; the answer is its exit status. -/
def run (console : Console m) (arguments : List String) : m UInt32 := do
  match Invocation.parse arguments with
  | .error stop =>
    explain console stop
    return stop.exitCode
  | .ok invocation =>
    let logging := (Logging.ofEnvironment console.valueOf).withLevel invocation.logLevel
    match ← openLog console.disk logging with
    | some problem =>
      fail console ("Failed to initialize logging: File logging error: " ++ problem ++ "\n")
    | none =>
      match invocation.options with
      | .error failure => fail console ("\n" ++ failure.message ++ "\n")
      | .ok options => reportAll console options invocation.inputs

end Program

end DebugOutline
