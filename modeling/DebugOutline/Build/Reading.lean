import DebugOutline.Dwarf.Entry
import DebugOutline.Warning

/-! Reading attributes: the value that was looked for, with a warning for each attribute that was
there in another form. -/
namespace DebugOutline

open Dwarf (Attr Entry Value)

/-- A value and the warnings met on the way to it. -/
structure Reading (α : Type) where
  value : α
  warnings : List Warning := []
  deriving Inhabited

namespace Reading

protected def pure (value : α) : Reading α := ⟨value, []⟩

protected def bind (reading : Reading α) (next : α → Reading β) : Reading β :=
  ⟨(next reading.value).value, reading.warnings ++ (next reading.value).warnings⟩

instance : Monad Reading where
  pure := Reading.pure
  bind := Reading.bind

@[simp] theorem value_pure (value : α) : (pure value : Reading α).value = value := rfl

@[simp] theorem warnings_pure (value : α) : (pure value : Reading α).warnings = [] := rfl

@[simp] theorem value_bind (reading : Reading α) (next : α → Reading β) :
    (reading >>= next).value = (next reading.value).value := rfl

@[simp] theorem warnings_bind (reading : Reading α) (next : α → Reading β) :
    (reading >>= next).warnings = reading.warnings ++ (next reading.value).warnings := rfl

/-- Take the first attribute of that name if its value is accepted. Any other value is as good as
none, but is worth a warning. -/
def accepted (entry : Entry) (name : Attr) (accept : Value → Option α) : Reading (Option α) :=
  match entry.attribute? name with
  | none => ⟨none, []⟩
  | some found =>
    match accept found.value with
    | some value => ⟨some value, []⟩
    | none => ⟨none, [.unexpectedForm name found.form]⟩

def string (entry : Entry) (name : Attr) : Reading (Option String) :=
  accepted entry name Value.string?

def unsigned (entry : Entry) (name : Attr) : Reading (Option UInt64) :=
  accepted entry name Value.unsigned?

def reference (entry : Entry) (name : Attr) : Reading (Option UInt64) :=
  accepted entry name Value.reference?

/-- A flag that is there and set. -/
def flag (entry : Entry) (name : Attr) : Reading Bool := do
  return (← accepted entry name Value.flag?) == some true

/-- The first reference among several attributes; later ones are not looked at. -/
def firstReference (entry : Entry) : List Attr → Reading (Option UInt64)
  | [] => pure none
  | name :: rest => do
    match ← reference entry name with
    | some offset => pure (some offset)
    | none => firstReference entry rest

end Reading

end DebugOutline
