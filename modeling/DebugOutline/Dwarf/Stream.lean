import DebugOutline.Dwarf.Abbreviation
import DebugOutline.Dwarf.Interpretation

/-! The entries of a unit as they follow each other, depth first, and the tree that they form. -/
namespace DebugOutline.Dwarf

/-- An entry in the stream. `step` is how much deeper it is than the entry before it. -/
structure StreamEntry (α : Type) where
  step : Int
  offset : UInt64
  tag : Tag
  /-- The forms that the abbreviation gives, in order. -/
  forms : List Form
  values : List (Attr × α)
  deriving Inhabited

/-- Give every value the form at its place. -/
def pairForms : List Form → List (Attr × Value) → List Attribute
  | _, [] => []
  | [], (name, value) :: rest => ⟨name, ⟨0⟩, value⟩ :: pairForms [] rest
  | form :: forms, (name, value) :: rest => ⟨name, form, value⟩ :: pairForms forms rest

/-- Turn a stream into entries with their parents. `around` are the entries around the place, the
outermost first; an entry that is `depth` deep is in the first `depth` of them. -/
def nest : Int → List UInt64 → List (StreamEntry Value) → List Entry
  | _, _, [] => []
  | depth, around, item :: rest =>
    let depth := depth + item.step
    let kept := around.take depth.toNat
    ⟨item.offset, item.tag, kept.getLast?, pairForms item.forms item.values⟩ ::
      nest depth (kept ++ [item.offset]) rest

/-- The values of an entry of a known shape. -/
def readValues (encoding : Encoding) (abbreviation : Abbreviation) :
    Decode (List (Attr × Encoded)) :=
  abbreviation.attributes.mapM fun shape => do
    let fuel := (← get).remaining + 1
    return (shape.name, ← Encoded.read encoding shape.name shape.constant fuel shape.form)

/-- The stream up to the end of the unit. An entry that may have children starts a level, a null
entry ends one. -/
def readStream (encoding : Encoding) (abbreviations : Abbreviations) :
    Nat → Int → Decode (List (StreamEntry Encoded))
  | 0, _ => failure
  | fuel + 1, step => do
    if ← Decode.isAtEnd then return []
    let offset := (← get).place.toUInt64
    let number ← Decode.uleb128
    if number = 0 then readStream encoding abbreviations fuel (step - 1)
    else
      match abbreviations[number]? with
      | none => failure
      | some abbreviation =>
        let values ← readValues encoding abbreviation
        let item : StreamEntry Encoded :=
          ⟨step, offset, abbreviation.tag, abbreviation.attributes.map (·.form), values⟩
        let next : Int := if abbreviation.hasChildren then 1 else 0
        return item :: (← readStream encoding abbreviations fuel next)

/-- An entry with the meaning of its values. -/
def StreamEntry.interpret? (sections : TextSections) (unit : UnitPlace)
    (item : StreamEntry Encoded) : Option (StreamEntry Value) := do
  let values ← item.values.mapM fun (name, value) => do
    return (name, ← Dwarf.interpret? sections unit name value)
  return { item with values }

end DebugOutline.Dwarf
