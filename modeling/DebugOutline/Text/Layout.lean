/-! Column layout: runs of blanks, padding to a width, numbers in base ten and sixteen. -/
namespace DebugOutline.Text

/-- A run of `count` blanks. -/
def blanks (count : Nat) : String := String.ofList (List.replicate count ' ')

/-- Pad on the right; a text that is already wider is kept whole. -/
def alignLeft (width : Nat) (text : String) : String := text ++ blanks (width - text.length)

/-- Pad on the left; a text that is already wider is kept whole. -/
def alignRight (width : Nat) (text : String) : String := blanks (width - text.length) ++ text

/-- Put zeros in front up to `width` characters. -/
def zeroFill (width : Nat) (text : String) : String :=
  String.ofList (List.replicate (width - text.length) '0') ++ text

/-- Lower-case base sixteen, without a mark and without leading zeros. -/
def hex (value : Nat) : String := String.ofList (Nat.toDigits 16 value)

/-- Base ten, without leading zeros. -/
def decimal (value : Nat) : String := String.ofList (Nat.toDigits 10 value)

/-- Base ten, with a minus sign below zero. -/
def signedDecimal (value : Int) : String :=
  if value < 0 then "-" ++ decimal value.natAbs else decimal value.natAbs

/-- Every line followed by a line feed. -/
def unlines (lines : List String) : String := String.join (lines.map (· ++ "\n"))

/-- Text between double quotes, taken as it stands. -/
def quote (text : String) : String := "\"" ++ text ++ "\""

/-- A word between braces. -/
def braced (word : String) : String := "\x7b" ++ word ++ "\x7d"

/-- Drop one carriage return at the end of a line. -/
def dropReturn (line : List Char) : List Char :=
  if line.getLast? = some '\r' then line.dropLast else line

/-- The lines of a text. A line feed ends a line, and takes a carriage return right before it
along; what follows the last line feed is a line of its own unless it is empty. -/
def lineList : List Char → List Char → List (List Char)
  | [], [] => []
  | [], pending => [pending.reverse]
  | '\n' :: rest, pending => dropReturn pending.reverse :: lineList rest []
  | c :: rest, pending => lineList rest (c :: pending)

/-- The lines of `text` as strings. -/
def lines (text : String) : List String := (lineList text.toList []).map String.ofList

end DebugOutline.Text
