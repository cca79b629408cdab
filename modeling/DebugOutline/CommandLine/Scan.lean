import DebugOutline.CommandLine.Invocation

/-! Reading a command line. An argument that may be followed by more of its kind, or by its value,
is pending: it is judged when the next option comes or the line ends, and not at all if that option
is itself a mistake. -/
namespace DebugOutline

/-- What is still to be judged. -/
inductive Pending where
  | nothing
  /-- Input files in a row. -/
  | inputs (names : List String)
  /-- An option whose value is the next argument, unless it is there already. -/
  | setting (option : Setting) (value : Option String)
  deriving Inhabited

structure ArgumentScanner where
  invocation : Invocation := {}
  pending : Pending := .nothing
  /-- Behind `--` everything is an input file. -/
  onlyInputs : Bool := false
  deriving Inhabited

namespace ArgumentScanner

/-- Take a value in. Options that hold one value may not be given twice, and this is found first. -/
def accept (invocation : Invocation) (option : Setting) (value : Option String) :
    Except UsageStop Invocation :=
  match option, value with
  | .outputDirectory, _ =>
    if invocation.outputDirectory.isSome then throw .repeatedArgument
    else if value = some "" then throw .missingValue
    else return { invocation with outputDirectory := some value }
  | _, none => throw .missingValue
  | .sort, some text =>
    if invocation.sort.isSome then throw .repeatedArgument
    else match SortKey.parse text with
      | .ok key => return { invocation with sort := some key }
      | .error _ => throw .invalidValue
  | .logLevel, some text =>
    if invocation.logLevel.isSome then throw .repeatedArgument
    else match LogLevel.parse text with
      | .ok level => return { invocation with logLevel := some level }
      | .error _ => throw .invalidValue
  | .output, some text =>
    match (text.toList.splitOn ',').mapM fun word => OutputFormat.parse (String.ofList word) with
    | .ok formats => return { invocation with outputs := invocation.outputs ++ formats }
    | .error _ => throw .invalidValue
  | .filter, some text => return { invocation with filters := invocation.filters ++ [text] }
  | .filterAny, some text =>
    return { invocation with partFilters := invocation.partFilters ++ [text] }
  | .tree, some text => return { invocation with trees := invocation.trees ++ [text] }
  | .treeAny, some text => return { invocation with partTrees := invocation.partTrees ++ [text] }

/-- Judge what is pending. Input files have names. -/
def resolve (scanner : ArgumentScanner) : Except UsageStop ArgumentScanner :=
  match scanner.pending with
  | .nothing => return scanner
  | .inputs names =>
    if names.contains "" then throw .missingValue
    else
      let invocation := scanner.invocation
      return { scanner with
        invocation := { invocation with inputs := invocation.inputs ++ names }
        pending := .nothing }
  | .setting option value => do
    let invocation ←
      if value.isNone then throw .missingValue else accept scanner.invocation option value
    return { scanner with invocation, pending := .nothing }

/-- An option without a value. Only instructions for what is shown may be repeated. -/
def turn (scanner : ArgumentScanner) (option : Switch) : Except UsageStop ArgumentScanner := do
  let scanner ← scanner.resolve
  let invocation := scanner.invocation
  match option with
  | .help => throw .help
  | .version => throw .version
  | .quiet =>
    if invocation.quiet then throw .repeatedArgument
    else return { scanner with invocation := { invocation with quiet := true } }
  | .summary =>
    if invocation.summary then throw .repeatedArgument
    else return { scanner with invocation := { invocation with summary := true } }
  | .shows action =>
    return { scanner with invocation := { invocation with shows := invocation.shows ++ [action] } }

/-- An option with its value, or the output directory without. -/
def assign (scanner : ArgumentScanner) (option : Setting) (value : Option String) :
    Except UsageStop ArgumentScanner := do
  let scanner ← scanner.resolve
  return { scanner with invocation := ← accept scanner.invocation option value }

/-- An option by its long name. -/
def long (scanner : ArgumentScanner) (name : String) (value : Option String) :
    Except UsageStop ArgumentScanner :=
  match Argument.ofLong? name, value with
  | none, _ => throw .unknownArgument
  | some (.ofSwitch _), some _ => throw .unneededValue
  | some (.ofSwitch option), none => scanner.turn option
  | some (.ofSetting option), some value => scanner.assign option (some value)
  | some (.ofSetting .outputDirectory), none => scanner.assign .outputDirectory none
  | some (.ofSetting option), none => do
    let scanner ← scanner.resolve
    return { scanner with pending := .setting option none }

/-- Options by their letters. A value needs an equals sign; it is the rest of the argument. -/
def letters (scanner : ArgumentScanner) : List Char → Except UsageStop ArgumentScanner
  | [] => return scanner
  | letter :: rest =>
    match Argument.ofLetter? letter, rest with
    | none, _ => throw .unknownArgument
    | some (.ofSwitch option), _ => do (← scanner.turn option).letters rest
    | some (.ofSetting option), '=' :: value => scanner.assign option (some (String.ofList value))
    | some (.ofSetting option), _ => do (← scanner.assign option none).letters rest

/-- An argument that is no option: a value that is waited for, or an input file. -/
def plain (scanner : ArgumentScanner) (text : String) : Except UsageStop ArgumentScanner :=
  match scanner.pending with
  | .setting option none =>
    if scanner.onlyInputs then throw .missingValue
    else return { scanner with pending := .setting option (some text) }
  | .inputs names => return { scanner with pending := .inputs (names ++ [text]) }
  | _ => do
    let scanner ← scanner.resolve
    return { scanner with pending := .inputs [text] }

/-- Split a long option at its first equals sign. -/
def splitValue (text : List Char) : String × Option String :=
  let name := text.takeWhile (· != '=')
  (String.ofList name,
    if text.contains '=' then some (String.ofList (text.drop (name.length + 1))) else none)

/-- One argument. A dash alone is no option. -/
def step (scanner : ArgumentScanner) (text : String) : Except UsageStop ArgumentScanner :=
  if scanner.onlyInputs then scanner.plain text
  else match text.toList with
    | ['-', '-'] => return { scanner with onlyInputs := true }
    | '-' :: '-' :: rest =>
      let (name, value) := splitValue rest
      scanner.long name value
    | '-' :: letter :: rest => scanner.letters (letter :: rest)
    | _ => scanner.plain text

end ArgumentScanner

/-- What a command line asks for; it has to name an input file. -/
def Invocation.parse (arguments : List String) : Except UsageStop Invocation := do
  let scanner ← arguments.foldlM ArgumentScanner.step {}
  let scanner ← scanner.resolve
  if scanner.invocation.inputs.isEmpty then throw .missingInput else return scanner.invocation

end DebugOutline
