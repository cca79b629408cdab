import DebugOutline.Options.Show
import DebugOutline.Options.Filters

/-! Everything that can be chosen for a run. -/
namespace DebugOutline

/-- What siblings are ordered by. -/
inductive SortKey where
  | line | name | offset
  deriving DecidableEq, Inhabited, Repr

namespace SortKey

def word : SortKey → String
  | .line => "line"
  | .name => "name"
  | .offset => "offset"

def parse (text : String) : Except String SortKey :=
  match [SortKey.line, .name, .offset].find? fun key => key.word == text with
  | some key => .ok key
  | none => .error ("unknown sort key '" ++ text ++ "' (expected line, name or offset)")

end SortKey

inductive OutputFormat where
  | text | yaml
  deriving DecidableEq, Inhabited, Repr

namespace OutputFormat

def word : OutputFormat → String
  | .text => "text"
  | .yaml => "yaml"

/-- The ending of the names of split files. -/
def extension : OutputFormat → String
  | .text => "txt"
  | .yaml => "yaml"

def parse (text : String) : Except String OutputFormat :=
  match [OutputFormat.text, .yaml].find? fun format => format.word == text with
  | some format => .ok format
  | none => .error ("unknown output format '" ++ text ++ "' (expected text or yaml)")

end OutputFormat

structure Options where
  flags : ShowFlags := .initial
  sort : SortKey := .line
  filters : Filters := {}
  outputs : List OutputFormat := [.text]
  /-- One file for each unit instead of one stream. -/
  split : Bool := false
  /-- Where split files go; a directory named after the input when there is none. -/
  outputDirectory : Option String := none
  quiet : Bool := false
  summary : Bool := false
  deriving Inhabited

namespace Options

def shows (options : Options) (option : ShowOption) : Bool := options.flags.on option

def wants (options : Options) (format : OutputFormat) : Bool := options.outputs.contains format

def apply (options : Options) (action : ShowAction) : Options :=
  { options with flags := options.flags.apply action }

end Options

end DebugOutline
