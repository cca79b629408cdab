import DebugOutline.Logging
import DebugOutline.Options.Basic

/-! The options of the command line by name, and why a command line ends a run at once. -/
namespace DebugOutline

/-- Why nothing is run. Asking for help or for the version is no mistake. -/
inductive UsageStop where
  | missingInput
  | unknownArgument
  /-- No value, or an empty one, where one is needed. -/
  | missingValue
  | invalidValue
  | repeatedArgument
  | unneededValue
  | help
  | version
  deriving DecidableEq, Inhabited, Repr

/-- The status that the program ends with. -/
def UsageStop.exitCode : UsageStop → UInt32
  | .help | .version => 0
  | _ => 2

/-- Options without a value. -/
inductive Switch where
  | quiet | summary | help | version
  | shows (action : ShowAction)
  deriving DecidableEq, Inhabited, Repr

/-- Options with a value. Only the output directory can do without. -/
inductive Setting where
  | outputDirectory | output | sort | filter | filterAny | tree | treeAny | logLevel
  deriving DecidableEq, Inhabited, Repr

inductive Argument where
  | ofSwitch (option : Switch)
  | ofSetting (option : Setting)
  deriving DecidableEq, Inhabited, Repr

namespace Argument

/-- The options that show and hide single kinds. -/
def showArguments : List (String × Argument) :=
  ShowOption.all.flatMap fun option =>
    [("show-" ++ option.word, .ofSwitch (.shows (.set option true))),
      ("no-show-" ++ option.word, .ofSwitch (.shows (.set option false)))]

/-- Every option by its long name. -/
def longNames : List (String × Argument) :=
  [("quiet", .ofSwitch .quiet), ("show-summary", .ofSwitch .summary),
    ("output-dir", .ofSetting .outputDirectory), ("output", .ofSetting .output),
    ("sort", .ofSetting .sort), ("filter", .ofSetting .filter),
    ("filter-any", .ofSetting .filterAny), ("tree", .ofSetting .tree),
    ("tree-any", .ofSetting .treeAny), ("log-level", .ofSetting .logLevel),
    ("show-all", .ofSwitch (.shows .all)), ("show-brief", .ofSwitch (.shows .brief)),
    ("show-none", .ofSwitch (.shows .hideKinds)), ("help", .ofSwitch .help),
    ("version", .ofSwitch .version)] ++ showArguments

def ofLong? (name : String) : Option Argument := longNames.lookup name

/-- The options with a letter. -/
def ofLetter? : Char → Option Argument
  | 'q' => some (.ofSwitch .quiet)
  | 't' => some (.ofSwitch .summary)
  | 'd' => some (.ofSetting .outputDirectory)
  | 'a' => some (.ofSwitch (.shows .all))
  | 'b' => some (.ofSwitch (.shows .brief))
  | 'h' => some (.ofSwitch .help)
  | 'v' => some (.ofSwitch .version)
  | _ => none

end Argument

end DebugOutline
