/-! What is chosen about diagnostic records: how detailed, in which format, and to which file. -/
namespace DebugOutline

inductive LogFormat where
  | pretty | json
  deriving DecidableEq, Inhabited, Repr

/-- From the least to the most detailed. -/
inductive LogLevel where
  | error | warn | info | debug | trace
  deriving DecidableEq, Inhabited, Repr

/-- Look a word up without regard to case. No letter outside ASCII has a letter of such a word as
its lower case, so the case of ASCII is enough. -/
def lookupWord (words : List (List String × α)) (text : String) : Option α :=
  let lower := text.map Char.toLower
  (words.find? fun item => item.1.contains lower).map (·.2)

namespace LogFormat

def words : List (List String × LogFormat) :=
  [(["pretty", "dev", "development"], .pretty), (["json", "prod", "production"], .json)]

def parse (text : String) : Except String LogFormat :=
  match lookupWord words text with
  | some format => .ok format
  | none => .error ("Invalid log format: " ++ text ++ ". Use 'pretty' or 'json'")

end LogFormat

namespace LogLevel

def words : List (List String × LogLevel) :=
  [(["error", "err"], .error), (["warn", "warning"], .warn), (["info"], .info),
    (["debug", "dbg"], .debug), (["trace"], .trace)]

def parse (text : String) : Except String LogLevel :=
  match lookupWord words text with
  | some level => .ok level
  | none => .error ("Invalid log level: " ++ text ++
      ". Use 'error', 'warn', 'info', 'debug', or 'trace'")

end LogLevel

/-- Everything chosen about diagnostic records. -/
structure Logging where
  /-- Nothing chosen leaves the level to the surroundings. -/
  level : Option LogLevel := none
  format : LogFormat := .pretty
  file : Option String := none
  deriving DecidableEq, Inhabited, Repr

namespace Logging

/-- The variable that names the format. -/
def formatVariable : String := "DWARFVIEW_LOG_FORMAT"

/-- The variable that names the file. -/
def fileVariable : String := "DWARFVIEW_LOG_FILE"

/-- What the environment chooses. A format that is no format chooses nothing, an empty file name
neither. -/
def ofEnvironment (valueOf : String → Option String) : Logging where
  format := ((valueOf formatVariable).bind fun text => (LogFormat.parse text).toOption).getD .pretty
  file := (valueOf fileVariable).filter (· != "")

/-- A level from elsewhere overrides the one chosen before. -/
def withLevel (logging : Logging) (level : Option LogLevel) : Logging :=
  { logging with level := level.or logging.level }

end Logging

end DebugOutline
