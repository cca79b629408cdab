import DebugOutline.Unicode.CharSet
import DebugOutline.Unicode.CaseFold
import DebugOutline.Unicode.Category
import DebugOutline.Unicode.Property
import DebugOutline.Unicode.Script

/-! Sets of characters by the names of the properties they share. -/
namespace DebugOutline.Unicode

/-! ### Names -/

/-- Drop an `is` in front, in either case. -/
def dropIs : List Char → Bool × List Char
  | i :: s :: rest =>
    if (i = 'i' ∨ i = 'I') ∧ (s = 's' ∨ s = 'S') then (true, rest) else (false, i :: s :: rest)
  | short => (false, short)

/-- Names are compared without case, separators, characters outside ASCII and an `is` in front;
only `isc` keeps it. -/
def plainName (name : List Char) : String :=
  let (isPart, rest) := dropIs name
  let plain := rest.filter fun c => c ≠ ' ' && c ≠ '_' && c ≠ '-' && c.toNat < 0x80
  let plain := plain.map Char.toLower
  if isPart && plain = ['c'] then "isc" else String.ofList plain

/-! ### Sets -/

def category? (name : String) : Option CharSet := (categoryRuns.lookup name).map .ofRuns

def property? (name : String) : Option CharSet :=
  (propertyRuns.find? fun item => item.1.contains name).map fun item => .ofRuns item.2

def script? (name : String) : Option Script := scripts.find? fun script => script.names.contains name

/-- The characters of a script. -/
def Script.own (script : Script) : CharSet := .ofRuns script.runs

/-- The characters of other scripts, or of none, in use with a script. -/
def Script.shared (script : Script) : CharSet :=
  .ofRuns script.sharedRuns

/-- The characters in use with a script. Characters common to all scripts, or inheriting theirs, are
left out of those two groups when they are in use with particular scripts. -/
def Script.extended (script : Script) : CharSet :=
  if script.names.contains "common" || script.names.contains "inherited" then
    script.own.diff (.unions (scripts.map Script.shared))
  else script.own.union script.shared

/-- Groups of categories: their names, and the categories in them. Surrogates are no characters. -/
def categoryGroups : List (List String × List String) :=
  [(["lc", "casedletter"], ["lu", "ll", "lt"]),
    (["l", "letter"], ["lu", "ll", "lt", "lm", "lo"]),
    (["m", "mark", "combiningmark"], ["mn", "mc", "me"]),
    (["n", "number"], ["nd", "nl", "no"]),
    (["p", "punctuation", "punct"], ["pc", "pd", "ps", "pe", "pi", "pf", "po"]),
    (["s", "symbol"], ["sm", "sc", "sk", "so"]),
    (["z", "separator"], ["zs", "zl", "zp"]),
    (["lu", "uppercaseletter"], ["lu"]), (["ll", "lowercaseletter"], ["ll"]),
    (["lt", "titlecaseletter"], ["lt"]), (["lm", "modifierletter"], ["lm"]),
    (["lo", "otherletter"], ["lo"]), (["mn", "nonspacingmark"], ["mn"]),
    (["mc", "spacingmark"], ["mc"]), (["me", "enclosingmark"], ["me"]),
    (["nd", "decimalnumber", "digit"], ["nd"]), (["nl", "letternumber"], ["nl"]),
    (["no", "othernumber"], ["no"]), (["pc", "connectorpunctuation"], ["pc"]),
    (["pd", "dashpunctuation"], ["pd"]), (["ps", "openpunctuation"], ["ps"]),
    (["pe", "closepunctuation"], ["pe"]), (["pi", "initialpunctuation"], ["pi"]),
    (["pf", "finalpunctuation"], ["pf"]), (["po", "otherpunctuation"], ["po"]),
    (["sm", "mathsymbol"], ["sm"]), (["sc", "currencysymbol"], ["sc"]),
    (["sk", "modifiersymbol"], ["sk"]), (["so", "othersymbol"], ["so"]),
    (["zs", "spaceseparator"], ["zs"]), (["zl", "lineseparator"], ["zl"]),
    (["zp", "paragraphseparator"], ["zp"]), (["cc", "control", "cntrl"], ["cc"]),
    (["cf", "format"], ["cf"]), (["co", "privateuse"], ["co"])]

/-- The characters in some of the categories. -/
def inCategories (names : List String) : CharSet := .unions (names.filterMap category?)

def assigned : CharSet :=
  (inCategories (categoryRuns.map (·.1))).union (.ofSpan 0xd800 0xdfff)

/-- A category, a group of categories, or one of the sets that are named along with them. -/
def categoryNamed? (name : String) : Option CharSet :=
  match name with
  | "any" => some .all
  | "ascii" => some (.ofSpan 0 0x7f)
  | "assigned" => some assigned
  | "cn" | "unassigned" => some assigned.complement
  | "c" | "other" =>
    some (assigned.complement.union (inCategories ["cc", "cf", "co"]))
  | _ => (categoryGroups.find? fun group => group.1.contains name).map fun group =>
    inCategories group.2

/-- The set with a name alone: a property, a category or a script, in this order. Three short names
of categories are also short names of properties of other kinds. -/
def setNamed? (name : List Char) : Option CharSet :=
  let name := plainName name
  (property? name).or ((categoryNamed? name).or ((script? name).map Script.own))

/-- The set with a value of a property. -/
def setOf? (property value : List Char) : Option CharSet :=
  let value := plainName value
  match plainName property with
  | "gc" | "generalcategory" => categoryNamed? value
  | "sc" | "script" => (script? value).map Script.own
  | "scx" | "scriptextensions" => (script? value).map Script.extended
  | _ => none

/-! ### Sets that have a short form in patterns -/

def whiteSpace : CharSet := (property? "whitespace").getD .empty

def alphabetic : CharSet := (property? "alphabetic").getD .empty

def digits : CharSet := inCategories ["nd"]

/-- Letters, marks, decimal digits, connectors, and the joiners between letters. -/
def wordChars : CharSet :=
  .unions [alphabetic, inCategories ["mn", "mc", "me", "nd", "pc"],
    (property? "joincontrol").getD .empty]

def isBlank (c : Char) : Bool := whiteSpace.contains c

def isAlphabetic (c : Char) : Bool := alphabetic.contains c

def isAlphanumeric (c : Char) : Bool :=
  isAlphabetic c || (inCategories ["nd", "nl", "no"]).contains c

/-! ### Case -/

/-- A set with everything that differs from a member in case only. -/
def foldCase (set : CharSet) : CharSet :=
  set.union (.ofCodes (caseOrbits.filter fun orbit => orbit.any set.containsCode).flatten)

/-- The same for the letters of ASCII. -/
def foldAsciiCase (set : CharSet) : CharSet :=
  let orbits := (List.range 26).map fun index => [0x41 + index, 0x61 + index]
  set.union (.ofCodes (orbits.filter fun orbit => orbit.any set.containsCode).flatten)

end DebugOutline.Unicode
