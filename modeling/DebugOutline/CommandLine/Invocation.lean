import DebugOutline.CommandLine.Argument

/-! What a command line asks for. -/
namespace DebugOutline

structure Invocation where
  inputs : List String := []
  quiet : Bool := false
  summary : Bool := false
  /-- Split output, perhaps into a given directory. -/
  outputDirectory : Option (Option String) := none
  outputs : List OutputFormat := []
  sort : Option SortKey := none
  filters : List String := []
  partFilters : List String := []
  trees : List String := []
  partTrees : List String := []
  logLevel : Option LogLevel := none
  /-- Instructions for the switches, as often as they were given. -/
  shows : List ShowAction := []
  deriving Inhabited

namespace Invocation

/-- The last occurrence of everything in a list. -/
def lastOccurrences [BEq α] : List α → List α
  | [] => []
  | item :: rest => if rest.contains item then lastOccurrences rest else item :: lastOccurrences rest

/-- The instructions for the switches in order. An instruction that is given again counts where it
is given last. -/
def actions (invocation : Invocation) : List ShowAction := lastOccurrences invocation.shows

/-- Everything that was chosen. The first pattern that is no regular expression is reported. -/
def options (invocation : Invocation) : Except Failure Options := do
  let filters ← invocation.filters.foldlM Filters.addFilter {}
  let filters := invocation.partFilters.foldl Filters.addFilterAny filters
  let filters ← invocation.trees.foldlM Filters.addTree filters
  let filters := invocation.partTrees.foldl Filters.addTreeAny filters
  return {
    flags := invocation.actions.foldl ShowFlags.apply .initial
    sort := invocation.sort.getD .line
    filters
    outputs := if invocation.outputs.isEmpty then [.text] else invocation.outputs.eraseDups
    split := invocation.outputDirectory.isSome
    outputDirectory := invocation.outputDirectory.join
    quiet := invocation.quiet
    summary := invocation.summary }

end Invocation

end DebugOutline
