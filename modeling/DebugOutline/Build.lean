import DebugOutline.Build.Tree
import DebugOutline.Build.Links
import DebugOutline.Build.Names
import DebugOutline.Build.Declarations

/-! From the entries of all units to the finished outline. -/
namespace DebugOutline

/-- Everything that needs the whole outline, in order: links, spelled names, qualifiers, what
definitions take from declarations, and what is global. -/
def Outline.finish (outline : Outline) (void : String) : Outline :=
  ((((outline.link).spellNames void).qualifyNames).completeDefinitions).spreadGlobals

/-- The outline of one input file, with what was odd about it. `void` is how a missing type is
spelled inside other names. -/
def Outline.build (input : String) (units : List Dwarf.UnitRecord) (void : String) :
    Outline × Warnings :=
  let draft := Draft.ofUnits input units
  (draft.outline.finish void, draft.warnings)

end DebugOutline
