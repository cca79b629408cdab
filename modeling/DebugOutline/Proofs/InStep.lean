import DebugOutline.Proofs.Entries

/-! The entries of all units as a draft goes over them one by one, and what else goes over them
beside it. What relates the two after all units is told by what a single entry does to both. -/
namespace DebugOutline

open Dwarf (Entry UnitRecord)

theorem Item.listed {units : List UnitRecord} {unit : UnitRecord} {position : Nat}
    {done rest : List Item} {entry : Entry} (recorded : units[position]? = some unit)
    (split : ofUnits units = done ++ ⟨entry, position⟩ :: rest) : entry ∈ unit.entries.toList := by
  have member : ⟨entry, position⟩ ∈ ofUnits units := by simp [split]
  simpa [ofUnits, ofUnit, List.mem_zipIdx_iff_getElem?, recorded] using member

namespace Draft

/-- Nothing placed yet. -/
def start (input : String) : Draft := ⟨.empty input, [], ∅⟩

/-- Add the entries of units that follow each other from a position on. -/
def addUnits (draft : Draft) (units : List UnitRecord) (position : Nat) : Draft :=
  (units.zipIdx position).foldl (fun draft indexed => draft.addUnit indexed.1 indexed.2) draft

/-- A file without any objects is worth a warning. -/
def warnOfNothing (draft : Draft) : Draft :=
  if (draft.outline.node Outline.root).children.isEmpty then draft.warn [.noDebugData] else draft

theorem ofUnits_eq (input : String) (units : List UnitRecord) :
    ofUnits input units = ((start input).addUnits units 0).warnOfNothing := rfl

theorem outline_ofUnits (input : String) (units : List UnitRecord) :
    (ofUnits input units).outline = ((start input).addUnits units 0).outline := by
  rw [ofUnits_eq, warnOfNothing]
  split <;> rfl

theorem dropped_ofUnits (input : String) (units : List UnitRecord) :
    (ofUnits input units).dropped = ((start input).addUnits units 0).dropped := by
  rw [ofUnits_eq, warnOfNothing]
  split <;> rfl

theorem addUnits_append (draft : Draft) (first second : List UnitRecord) (position : Nat) :
    draft.addUnits (first ++ second) position =
      (draft.addUnits first position).addUnits second (position + first.length) := by
  unfold addUnits
  rw [List.zipIdx_append, List.foldl_append]

/-- Counting units from elsewhere is adding to their positions. -/
theorem addUnits_from (draft : Draft) (units : List UnitRecord) (offset : Nat) :
    draft.addUnits units offset = units.zipIdx.foldl
      (fun draft indexed => draft.addUnit indexed.1 (offset + indexed.2)) draft := by
  rw [addUnits, List.zipIdx_eq_map_add, List.foldl_map]

/-! ### Two runs over the same entries -/

variable {σ τ : Type} {units : List UnitRecord} {enter : τ → σ}
  {step : UnitRecord → Nat → σ → Entry → σ} {leave : σ → τ}
  {between : List Item → Draft → τ → Prop}
  {within : Nat → List Item → Draft × Option NodeId → σ → Prop}

/-- What relates a draft to something that takes its own step for every entry, where the items that
both have gone over are known: `between` wherever a unit ends, `within` the unit at a position. -/
structure InStep (units : List UnitRecord) (enter : τ → σ)
    (step : UnitRecord → Nat → σ → Entry → σ) (leave : σ → τ)
    (between : List Item → Draft → τ → Prop)
    (within : Nat → List Item → Draft × Option NodeId → σ → Prop) : Prop where
  entered {position : Nat} {done : List Item} {draft : Draft} {other : τ} :
    (∀ item ∈ done, item.unit < position) → between done draft other →
      within position done (draft, none) (enter other)
  stepped {unit : UnitRecord} {position : Nat} {done rest : List Item} {entry : Entry}
    {state : Draft × Option NodeId} {other : σ} : units[position]? = some unit →
      Item.ofUnits units = done ++ ⟨entry, position⟩ :: rest → Sound units state.1.outline →
      CurrentInside state → within position done state other →
      within position (done ++ [⟨entry, position⟩]) (addEntry unit position state entry)
        (step unit position other entry)
  left {position : Nat} {done : List Item} {state : Draft × Option NodeId} {other : σ} :
    within position done state other → between done state.1 (leave other)

namespace InStep

variable (inStep : InStep units enter step leave between within)
include inStep

theorem entries {unit : UnitRecord} {position : Nat} (recorded : units[position]? = some unit)
    (entries : List Entry) (done : List Item) {rest : List Item} {state : Draft × Option NodeId}
    {other : σ}
    (split : Item.ofUnits units = done ++ entries.map (⟨·, position⟩) ++ rest)
    (sound : Sound units state.1.outline) (current : CurrentInside state)
    (related : within position done state other) :
    Sound units (entries.foldl (addEntry unit position) state).1.outline ∧
      within position (done ++ entries.map (⟨·, position⟩))
        (entries.foldl (addEntry unit position) state)
        (entries.foldl (step unit position) other) := by
  induction entries generalizing done state other with
  | nil => exact ⟨sound, by simpa using related⟩
  | cons entry later ih =>
    obtain ⟨next, inside⟩ := sound.addEntry current recorded entry
    have both := inStep.stepped recorded (by simpa using split) sound current related
    have all := ih (done ++ [⟨entry, position⟩]) (by simpa using split) next inside both
    rwa [List.append_assoc] at all

theorem unit {unit : UnitRecord} {position : Nat} (recorded : units[position]? = some unit)
    {done rest : List Item} {draft : Draft} {other : τ}
    (earlier : ∀ item ∈ done, item.unit < position)
    (split : Item.ofUnits units = done ++ Item.ofUnit unit position ++ rest)
    (sound : Sound units draft.outline) (related : between done draft other) :
    Sound units (draft.addUnit unit position).outline ∧
      between (done ++ Item.ofUnit unit position) (draft.addUnit unit position)
        (leave (unit.entries.toList.foldl (step unit position) (enter other))) := by
  rw [addUnit, ← Array.foldl_toList]
  obtain ⟨next, both⟩ := inStep.entries recorded unit.entries.toList done split sound
    (fun _ unset => (Option.not_mem_none _ unset).elim) (inStep.entered earlier related)
  exact ⟨next, inStep.left both⟩

/-- The units from a position on. -/
theorem later {later : List UnitRecord} {position : Nat} {done : List Item} {draft : Draft}
    {other : τ} (remaining : units.drop position = later)
    (earlier : ∀ item ∈ done, item.unit < position)
    (split : Item.ofUnits units =
      done ++ (later.zipIdx position).flatMap fun indexed => Item.ofUnit indexed.1 indexed.2)
    (sound : Sound units draft.outline) (related : between done draft other) :
    Sound units (draft.addUnits later position).outline ∧
      between (Item.ofUnits units) (draft.addUnits later position)
        ((later.zipIdx position).foldl (fun other indexed => leave
          (indexed.1.entries.toList.foldl (step indexed.1 indexed.2) (enter other))) other) := by
  induction later generalizing position done draft other with
  | nil =>
    have finished : done = Item.ofUnits units := by simpa using split.symm
    exact ⟨sound, finished ▸ related⟩
  | cons unit rest ih =>
    have recorded : units[position]? = some unit := by
      rw [← List.head?_drop, remaining]
      rfl
    have behind : units.drop (position + 1) = rest := by
      rw [← List.tail_drop, remaining]
      rfl
    rw [List.zipIdx_cons, List.flatMap_cons, ← List.append_assoc] at split
    obtain ⟨next, both⟩ := inStep.unit recorded earlier split sound related
    refine ih behind ?_ split next both
    intro item member
    rcases List.mem_append.mp member with before | new
    · exact Nat.lt_succ_of_lt (earlier item before)
    · obtain ⟨entry, -, rfl⟩ := List.mem_map.mp new
      exact Nat.lt_succ_self position

/-- What holds before the first unit holds after all of them. -/
theorem run (draft : Draft) (other : τ) (sound : Sound units draft.outline)
    (related : between [] draft other) :
    Sound units (draft.addUnits units 0).outline ∧
      between (Item.ofUnits units) (draft.addUnits units 0)
        (units.zipIdx.foldl (fun other indexed => leave
          (indexed.1.entries.toList.foldl (step indexed.1 indexed.2) (enter other))) other) :=
  inStep.later rfl (by simp) rfl sound related

end InStep

/-- The outline of any units at all is sound before its passes. -/
theorem sound_addUnits (input : String) (units : List UnitRecord) :
    Sound units ((start input).addUnits units 0).outline := by
  have nothing : InStep units (id : Unit → Unit) (fun _ _ _ _ => ()) id (fun _ _ _ => True)
      (fun _ _ _ _ => True) :=
    ⟨fun _ _ => trivial, fun _ _ _ _ _ => trivial, fun _ => trivial⟩
  exact (nothing.run (start input) () (.empty units input) trivial).1

theorem sound_ofUnits (input : String) (units : List UnitRecord) :
    Sound units (ofUnits input units).outline := by
  rw [outline_ofUnits]
  exact sound_addUnits input units

/-- Two runs over the same units, one of them counting units from elsewhere, stay related if adding
an entry keeps them so. -/
theorem addUnits_related (relation : Draft × Option NodeId → Draft × Option NodeId → Prop)
    (offset : Nat)
    (again : ∀ {state other}, relation state other → relation (state.1, none) (other.1, none))
    (one : ∀ {state other unit position entry}, units[position]? = some unit →
      entry ∈ unit.entries.toList → Sound units state.1.outline → CurrentInside state →
      relation state other →
      relation (addEntry unit position state entry) (addEntry unit (offset + position) other entry))
    (draft other : Draft) (sound : Sound units draft.outline)
    (related : relation (draft, none) (other, none)) :
    Sound units (draft.addUnits units 0).outline ∧
      relation (draft.addUnits units 0, none) (other.addUnits units offset, none) := by
  have inStep : InStep units (fun other : Draft => (other, none))
      (fun unit position => addEntry unit (offset + position)) Prod.fst
      (fun _ draft other => relation (draft, none) (other, none)) (fun _ _ => relation) :=
    { entered := fun _ related => related
      stepped := fun recorded split sound current related =>
        one recorded (Item.listed recorded split) sound current related
      left := again }
  have all := inStep.run draft other sound related
  simp only [Array.foldl_toList] at all
  rwa [addUnits_from other units offset]

end Draft

end DebugOutline
