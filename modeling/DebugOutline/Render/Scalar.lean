/-! Quoted scalars: between double quotes, a quote and a backslash have a backslash in front. -/
namespace DebugOutline.Scalar

/-- A character as it stands between quotes. -/
def escapeChar (c : Char) : List Char := if c = '\\' ∨ c = '"' then ['\\', c] else [c]

def escape (text : String) : String := String.ofList (text.toList.flatMap escapeChar)

/-- A text between quotes. -/
def quote (text : String) : String := "\"" ++ escape text ++ "\""

/-- A text between quotes; an empty one is missing. -/
def orNull (text : String) : String := if text = "" then "null" else quote text

/-- A text that may be missing. -/
def ofOption (text : Option String) : String := (text.map quote).getD "null"

def bool (value : Bool) : String := if value then "true" else "false"

end DebugOutline.Scalar
