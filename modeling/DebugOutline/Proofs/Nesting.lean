import Mathlib
import DebugOutline.Dwarf.Unit

/-! Forests of entries, the depth-first stream that writes one, and how `Dwarf.nest` gives the
entries of the stream their parents back. -/
namespace DebugOutline.Dwarf

/-- An entry by itself: where it starts, and each attribute of its abbreviation with a value. -/
structure Die (α : Type) where
  offset : UInt64
  tag : Tag
  hasChildren : Bool
  attributes : List (AttributeShape × α)

namespace Die

def abbreviation (die : Die α) : Abbreviation :=
  ⟨die.tag, die.hasChildren, die.attributes.map (·.1)⟩

/-- The values with their names only. -/
def values (die : Die α) : List (Attr × α) :=
  die.attributes.map fun held => (held.1.name, held.2)

/-- The entry in a stream. -/
def item (die : Die α) (step : Int) : StreamEntry α :=
  ⟨step, die.offset, die.tag, die.abbreviation.attributes.map (·.form), die.values⟩

/-- The entry with its parent; every attribute has the form that stands at its own place of the
abbreviation. -/
def entry (die : Die Value) (parent : Option UInt64) : Entry :=
  ⟨die.offset, die.tag, parent,
    die.attributes.map fun held => ⟨held.1.name, held.1.form, held.2⟩⟩

/-- An attribute with the meaning of its value. -/
def meaning? (sections : TextSections) (unit : UnitPlace) (held : AttributeShape × Encoded) :
    Option (AttributeShape × Value) :=
  (Dwarf.interpret? sections unit held.1.name held.2).map (held.1, ·)

/-- The entry with the meaning of its values, if all of them have one. -/
def interpret? (sections : TextSections) (unit : UnitPlace) (die : Die Encoded) :
    Option (Die Value) :=
  (die.attributes.mapM (meaning? sections unit)).map fun attributes => { die with attributes }

end Die

/-- Entries side by side, each with those nested in it. -/
inductive Forest (α : Type) where
  | nil
  | cons (die : Die α) (nested rest : Forest α)

namespace Forest

/-- The entries with their depths, each one in front of those nested in it. -/
def preorder (depth : Nat) : Forest α → List (Nat × Die α)
  | nil => []
  | cons die nested rest => (depth, die) :: nested.preorder (depth + 1) ++ rest.preorder depth

/-- The entries in the same order, each with the offset of the one that it is nested in. -/
def entries (parent : Option UInt64) : Forest Value → List Entry
  | nil => []
  | cons die nested rest =>
    die.entry parent :: nested.entries (some die.offset) ++ rest.entries parent

def interpret? (sections : TextSections) (unit : UnitPlace) : Forest Encoded → Option (Forest Value)
  | nil => some nil
  | cons die nested rest => do
    let die ← die.interpret? sections unit
    let nested ← nested.interpret? sections unit
    return cons die nested (← rest.interpret? sections unit)

end Forest

/-- Entries that say how much deeper each is than the one before it; the first comes after an entry
of depth `last`. -/
def differences (last : Int) : List (Nat × Die α) → List (StreamEntry α)
  | [] => []
  | (depth, die) :: rest => die.item (depth - last) :: differences depth rest

/-- The depth of the last of some entries that come after an entry of depth `last`. -/
def lastDepth (last : Int) : List (Nat × Die α) → Int
  | [] => last
  | (depth, _) :: rest => lastDepth depth rest

/-- The stream of a forest, as it is gone through depth first. -/
def Forest.stream (forest : Forest α) : List (StreamEntry α) := differences 0 (forest.preorder 0)

theorem differences_append (last : Int) (front back : List (Nat × Die α)) :
    differences last (front ++ back) =
      differences last front ++ differences (lastDepth last front) back := by
  induction front generalizing last with
  | nil => rfl
  | cons placed front ih => simp only [List.cons_append, differences, lastDepth, ih]

theorem lastDepth_append (last : Int) (front back : List (Nat × Die α)) :
    lastDepth last (front ++ back) = lastDepth (lastDepth last front) back := by
  induction front generalizing last with
  | nil => rfl
  | cons placed front ih => exact ih placed.1

/-! ### Parents -/

/-- Where values and forms come from the same attributes, each value gets its own form. -/
theorem pairForms_attributes (attributes : List (AttributeShape × Value)) :
    pairForms (attributes.map (·.1.form)) (attributes.map fun held => (held.1.name, held.2)) =
      attributes.map fun held => ⟨held.1.name, held.1.form, held.2⟩ := by
  induction attributes with
  | nil => rfl
  | cons held rest ih => simp only [List.map_cons, pairForms, ih]

/-- One entry goes below the innermost of the entries around its depth, and is itself the innermost
one afterwards. -/
theorem nest_item (last : Int) (around : List UInt64) (depth : Nat) (die : Die Value)
    (items : List (StreamEntry Value)) :
    nest last around (die.item (depth - last) :: items) =
      die.entry (around.take depth).getLast? ::
        nest depth (around.take depth ++ [die.offset]) items := by
  have reached : last + (depth - last) = depth := by omega
  simp only [nest, Die.item, Die.entry, Die.abbreviation, Die.values, reached, Int.toNat_natCast,
    List.map_map, Function.comp_def]
  rw [pairForms_attributes]

/-- A forest whose roots are `depth` deep goes below the first `depth` entries around it. Behind it
these are still the first ones, however many levels it has opened. -/
theorem nest_preorder (forest : Forest Value) (depth : Nat) (last : Int) (around : List UInt64)
    (behind : List (Nat × Die Value)) (enough : depth ≤ around.length) :
    ∃ left : List UInt64, left.take depth = around.take depth ∧
      nest last around (differences last (forest.preorder depth ++ behind)) =
        forest.entries (around.take depth).getLast? ++
          nest (lastDepth last (forest.preorder depth)) left
            (differences (lastDepth last (forest.preorder depth)) behind) := by
  induction forest generalizing depth last around behind with
  | nil => exact ⟨around, rfl, rfl⟩
  | cons die nested rest nestedIh restIh =>
    let inside := around.take depth ++ [die.offset]
    have insideLength : inside.length = depth + 1 := by simp [inside, enough]
    obtain ⟨inner, innerTake, innerEq⟩ :=
      nestedIh (depth + 1) depth inside (rest.preorder depth ++ behind) (Nat.le_of_eq insideLength.symm)
    rw [List.take_of_length_le (Nat.le_of_eq insideLength)] at innerTake innerEq
    -- The entries around the root are still the first ones behind what is nested in it.
    have kept : inner.take depth = around.take depth := by
      have shorter : inner.take depth = (inner.take (depth + 1)).take depth := by
        rw [List.take_take, Nat.min_eq_left (Nat.le_succ depth)]
      rw [shorter, innerTake]
      exact List.take_left' (by simp [enough])
    have innerEnough : depth ≤ inner.length := by
      have := congrArg List.length kept
      simp only [List.length_take] at this
      omega
    obtain ⟨left, leftTake, leftEq⟩ :=
      restIh depth (lastDepth depth (nested.preorder (depth + 1))) inner behind innerEnough
    refine ⟨left, leftTake.trans kept, ?_⟩
    rw [kept] at leftEq
    have innermost : inside.getLast? = some die.offset := List.getLast?_concat
    simp only [Forest.preorder, Forest.entries, List.cons_append, List.append_assoc, differences,
      nest_item, lastDepth, lastDepth_append]
    rw [innerEq, leftEq, innermost]

/-- The stream of a forest gives its entries, in order and with their parents. -/
theorem nest_stream (forest : Forest Value) : nest 0 [] forest.stream = forest.entries none := by
  obtain ⟨left, -, nested⟩ := nest_preorder forest 0 0 [] [] (Nat.zero_le _)
  simpa only [Forest.stream, List.append_nil, differences, nest, List.take_zero,
    List.getLast?_nil] using nested

/-! ### Meanings -/

/-- Steps that agree element by element agree over whole lists. -/
theorem mapM_map_of_agree {source : α → Option β} {target : γ → Option δ} {before : α → γ}
    {after : β → δ} (agree : ∀ element, target (before element) = (source element).map after)
    (elements : List α) :
    (elements.map before).mapM target = (elements.mapM source).map (List.map after) := by
  induction elements with
  | nil => rfl
  | cons element rest ih =>
    simp only [List.map_cons, List.mapM_cons, agree, ih]
    cases source element with
    | none => rfl
    | some first => cases rest.mapM source <;> rfl

section
variable (sections : TextSections) (unit : UnitPlace)

/-- Values change with their meaning, the abbreviation stays. -/
theorem Die.shapes_of_meaning (attributes : List (AttributeShape × Encoded))
    (found : attributes.mapM (meaning? sections unit) = some meant) :
    meant.map (·.1) = attributes.map (·.1) := by
  induction attributes generalizing meant with
  | nil => cases found; rfl
  | cons held rest ih =>
    simp only [List.mapM_cons, meaning?, Option.bind_eq_bind, Option.bind_eq_some_iff,
      Option.map_eq_some_iff, Option.pure_def, Option.some.injEq] at found
    obtain ⟨_, ⟨value, -, rfl⟩, restMeant, restFound, rfl⟩ := found
    rw [List.map_cons, List.map_cons, ih restFound]

/-- An entry of a stream keeps its place when its values get their meaning. -/
theorem Die.interpret?_item (die : Die Encoded) (step : Int) :
    (die.item step).interpret? sections unit = (die.interpret? sections unit).map (·.item step) := by
  let named (pair : Attr × Encoded) : Option (Attr × Value) :=
    (Dwarf.interpret? sections unit pair.1 pair.2).bind fun value => some (pair.1, value)
  have agree (held : AttributeShape × Encoded) : named (held.1.name, held.2) =
      (meaning? sections unit held).map fun kept => (kept.1.name, kept.2) := by
    simp only [named, meaning?]
    cases Dwarf.interpret? sections unit held.1.name held.2 <;> rfl
  have meanings : die.values.mapM named = (die.attributes.mapM (meaning? sections unit)).map
      (List.map fun kept => (kept.1.name, kept.2)) := mapM_map_of_agree agree die.attributes
  change (die.values.mapM named).bind (fun values => some { die.item step with values }) = _
  rw [meanings, Die.interpret?]
  cases found : die.attributes.mapM (meaning? sections unit) with
  | none => rfl
  | some attributes =>
    have forms := congrArg (List.map (·.form)) (Die.shapes_of_meaning sections unit _ found)
    simp only [Option.map_some, Option.bind_some, Die.item, Die.abbreviation, Die.values, forms]

/-- An entry at a depth, with the meaning of its values. -/
def placedMeaning? (placed : Nat × Die Encoded) : Option (Nat × Die Value) :=
  (placed.2.interpret? sections unit).map (placed.1, ·)

theorem mapM_differences (last : Int) (items : List (Nat × Die Encoded)) :
    (differences last items).mapM (StreamEntry.interpret? sections unit) =
      (items.mapM (placedMeaning? sections unit)).map (differences last) := by
  induction items generalizing last with
  | nil => rfl
  | cons placed rest ih =>
    simp only [differences, List.mapM_cons, placed.2.interpret?_item, placedMeaning?, ih]
    cases placed.2.interpret? sections unit with
    | none => rfl
    | some die => cases rest.mapM (placedMeaning? sections unit) <;> rfl

theorem mapM_preorder (forest : Forest Encoded) (depth : Nat) :
    (forest.preorder depth).mapM (placedMeaning? sections unit) =
      (forest.interpret? sections unit).map (·.preorder depth) := by
  induction forest generalizing depth with
  | nil => rfl
  | cons die nested rest nestedIh restIh =>
    simp only [Forest.preorder, List.cons_append, List.mapM_cons, List.mapM_append, placedMeaning?,
      nestedIh, restIh, Forest.interpret?]
    cases die.interpret? sections unit with
    | none => rfl
    | some die =>
      cases nested.interpret? sections unit with
      | none => rfl
      | some nested => cases rest.interpret? sections unit <;> rfl

/-- The stream of a forest has a meaning exactly if the forest has one, and is the stream of it. -/
theorem mapM_stream (forest : Forest Encoded) :
    forest.stream.mapM (StreamEntry.interpret? sections unit) =
      (forest.interpret? sections unit).map Forest.stream := by
  rw [Forest.stream, mapM_differences, mapM_preorder, Option.map_map]
  rfl

end

end DebugOutline.Dwarf
