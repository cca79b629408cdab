import DebugOutline.Proofs.Origin

/-! Entries moved to other offsets. An entry says the same wherever it stands, but for where it and
the entries that it names stand. -/
namespace DebugOutline

open Dwarf (Attr Attribute Entry LineRow UnitRecord Value)

namespace Dwarf

/-- A value whose reference leads to where the entry was moved. -/
def Value.move (f : UInt64 → UInt64) : Value → Value
  | .reference offset => .reference (f offset)
  | value => value

def Attribute.move (f : UInt64 → UInt64) (item : Attribute) : Attribute :=
  { item with value := item.value.move f }

/-- An entry that was moved together with the entries that it names. -/
def Entry.move (f : UInt64 → UInt64) (entry : Entry) : Entry where
  offset := f entry.offset
  tag := entry.tag
  parent := entry.parent.map f
  attributes := entry.attributes.map (Attribute.move f)

def UnitRecord.move (f : UInt64 → UInt64) (unit : UnitRecord) : UnitRecord :=
  { unit with entries := unit.entries.map (Entry.move f) }

/-- The offsets that an entry names: its own, that of its parent, and its references. -/
def Entry.offsets (entry : Entry) : List UInt64 :=
  entry.offset :: (entry.parent.toList ++ entry.attributes.filterMap (·.value.reference?))

/-- The offsets that the entries of all units name. -/
def offsets (units : List UnitRecord) : List UInt64 := (entries units).flatMap Entry.offsets

/-- Moving keeps the order of all offsets that are named. -/
def Increasing (f : UInt64 → UInt64) (named : List UInt64) : Prop :=
  ∀ a ∈ named, ∀ b ∈ named, a < b → f a < f b

/-- Only the offsets that are named are compared. -/
instance (f : UInt64 → UInt64) (named : List UInt64) : Decidable (Increasing f named) :=
  decidable_of_iff (named.all fun a => named.all fun b => !decide (a < b) || decide (f a < f b))
    (by simp [Increasing, imp_iff_not_or])

namespace Increasing

variable {f : UInt64 → UInt64} {named : List UInt64} {a b : UInt64}

private theorem lt_or_eq_or_gt (a b : UInt64) : a < b ∨ a = b ∨ b < a := by
  simp only [UInt64.lt_iff_toNat_lt, ← UInt64.toNat_inj]
  omega

theorem lt_iff (increasing : Increasing f named) (first : a ∈ named) (second : b ∈ named) :
    f a < f b ↔ a < b := by
  refine ⟨fun less => ?_, increasing a first b second⟩
  rcases lt_or_eq_or_gt a b with smaller | same | larger
  · exact smaller
  · exact absurd (same ▸ less) (UInt64.lt_irrefl _)
  · exact absurd (UInt64.lt_trans less (increasing b second a first larger)) (UInt64.lt_irrefl _)

theorem inj (increasing : Increasing f named) (first : a ∈ named) (second : b ∈ named) :
    f a = f b ↔ a = b := by
  refine ⟨fun same => ?_, congrArg f⟩
  rcases lt_or_eq_or_gt a b with smaller | equal | larger
  · exact absurd (same ▸ increasing a first b second smaller) (UInt64.lt_irrefl _)
  · exact equal
  · exact absurd (same ▸ increasing b second a first larger) (UInt64.lt_irrefl _)

theorem compare_eq (increasing : Increasing f named) (first : a ∈ named) (second : b ∈ named) :
    compare (f a) (f b) = compare a b := by
  show compareOfLessAndEq _ _ = compareOfLessAndEq _ _
  simp only [compareOfLessAndEq, increasing.lt_iff first second, increasing.inj first second]

end Increasing

theorem Entry.attribute?_move (f : UInt64 → UInt64) (entry : Entry) (name : Attr) :
    (entry.move f).attribute? name = (entry.attribute? name).map (Attribute.move f) := by
  simp only [attribute?, move, List.find?_map]
  rfl

theorem Entry.has_move (f : UInt64 → UInt64) (entry : Entry) (name : Attr) :
    (entry.move f).has name = entry.has name := by
  simp [has, attribute?_move]

end Dwarf

/-! ### Reading an entry -/

namespace Reading

variable (f : UInt64 → UInt64) (entry : Entry)

theorem accepted_move {accept : Value → Option α} (name : Attr)
    (same : ∀ value : Value, accept (value.move f) = accept value) :
    accepted (entry.move f) name accept = accepted entry name accept := by
  unfold accepted
  rw [Entry.attribute?_move]
  cases entry.attribute? name with
  | none => rfl
  | some found =>
    simp only [Option.map_some, Attribute.move, same]

theorem string_move (name : Attr) : string (entry.move f) name = string entry name :=
  accepted_move f entry name fun value => by cases value <;> rfl

theorem unsigned_move (name : Attr) : unsigned (entry.move f) name = unsigned entry name :=
  accepted_move f entry name fun value => by cases value <;> rfl

theorem flag_move (name : Attr) : flag (entry.move f) name = flag entry name := by
  unfold flag
  rw [accepted_move f entry name fun value => by cases value <;> rfl]

theorem constant_move : constant (entry.move f) = constant entry :=
  accepted_move f entry .constValue fun value => by cases value <;> rfl

/-- A reference leads to where its target was moved. -/
theorem reference_move (name : Attr) : reference (entry.move f) name =
    ⟨(reference entry name).value.map f, (reference entry name).warnings⟩ := by
  unfold reference accepted
  rw [Entry.attribute?_move]
  cases entry.attribute? name with
  | none => rfl
  | some found =>
    obtain ⟨_, _, value⟩ := found
    cases value <;> rfl

theorem firstReference_move (names : List Attr) : firstReference (entry.move f) names =
    ⟨(firstReference entry names).value.map f, (firstReference entry names).warnings⟩ := by
  induction names with
  | nil => rfl
  | cons name rest ih =>
    unfold firstReference
    rw [reference_move]
    generalize reference entry name = own
    obtain ⟨value, warnings⟩ := own
    cases value with
    | some offset => rfl
    | none =>
      show (⟨(firstReference (entry.move f) rest).value,
        warnings ++ (firstReference (entry.move f) rest).warnings⟩ : Reading (Option UInt64)) = _
      rw [ih]
      rfl

theorem access_move : access (entry.move f) = access entry := by
  simp only [access, unsigned_move]

theorem function_move : function (entry.move f) = function entry := by
  simp only [function, unsigned_move, flag_move, Entry.has_move]
  rfl

theorem templateArgument_move : templateArgument (entry.move f) = templateArgument entry := by
  simp only [templateArgument, constant_move, string_move]
  rfl

theorem bounds_move : bounds (entry.move f) = bounds entry := by
  have upper : accepted (entry.move f) .upperBound bound? = accepted entry .upperBound bound? :=
    accepted_move f entry .upperBound fun value => by cases value <;> rfl
  simp only [bounds, unsigned_move, upper]

theorem detail_move (kind : Kind) (inAggregate : Bool) :
    detail (entry.move f) kind inAggregate = detail entry kind inAggregate := by
  simp only [detail, function_move, flag_move, access_move, templateArgument_move, unsigned_move]
  rfl

theorem ownName_move (kind : Kind) : ownName (entry.move f) kind = ownName entry kind := by
  unfold ownName
  rw [Entry.attribute?_move]
  cases entry.attribute? .name with
  | none => rfl
  | some found =>
    obtain ⟨_, _, value⟩ := found
    cases value <;> rfl

end Reading

/-- The object of an entry that was moved. The input file and line rows stand for no entry, and
have no tag. -/
def Node.move (f : UInt64 → UInt64) (node : Node) : Node :=
  { node with
    offset := if node.tag.isSome then f node.offset else node.offset
    typeOffset := node.typeOffset.map f
    referenceOffset := node.referenceOffset.map f }

section Describing

variable (f : UInt64 → UInt64) (unit : UnitRecord) (unitIndex : Nat) (entry : Entry) (role : Role)
  (inAggregate : Bool)

/-- An entry describes the same object wherever it stands. -/
theorem Reading.value_move :
    (Reading.node (unit.move f) unitIndex (entry.move f) role inAggregate).value =
      (Reading.node unit unitIndex entry role inAggregate).value.move f := by
  unfold Reading.node
  simp only [unsigned_move, flag_move, firstReference_move, detail_move, bounds_move,
    constant_move, access_move, ownName_move, Reading.value_bind]
  split <;> rfl

theorem Reading.warnings_move :
    (Reading.node (unit.move f) unitIndex (entry.move f) role inAggregate).warnings =
      (Reading.node unit unitIndex entry role inAggregate).warnings := by
  unfold Reading.node
  simp only [unsigned_move, flag_move, firstReference_move, detail_move, bounds_move,
    constant_move, access_move, ownName_move, Reading.warnings_bind]
  split <;> rfl

end Describing

end DebugOutline
