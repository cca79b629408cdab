import DebugOutline.Proofs.Visits

/-! Completing definitions, and with it all passes, over two outlines side by side: what a
definition takes from its declaration is in the same part. -/
namespace DebugOutline

/-- Completing does not see where objects stand. -/
theorem Node.complete_rename (shift : Renaming) (node declaration : Node) :
    (node.rename shift).complete (declaration.rename shift) =
      (node.complete declaration).rename shift := by
  have types : (declaration.typeId.map shift.object).or (node.typeId.map shift.object) =
      (declaration.typeId.or node.typeId).map shift.object := by
    cases declaration.typeId <;> rfl
  have offset : (if declaration.typeId.isSome then declaration.typeOffset.map shift.offset
      else node.typeOffset.map shift.offset) =
      (if declaration.typeId.isSome then declaration.typeOffset else node.typeOffset).map
        shift.offset := by
    split <;> rfl
  have function : (declaration.rename shift).function? = declaration.function? := rfl
  rw [complete_eq, complete_eq, function]
  simp only [rename, types, Option.isSome_map, offset]

namespace Outline

variable {shift other : Renaming} {part rest whole : Outline} {id reference : Nat}

/-- What an object takes from its declaration is the same in the whole. -/
theorem Embeds.completed (held : Embeds shift part whole) (inside : id < part.size)
    (declared : reference < part.size) (notRoot : reference ≠ root) (node : Node) :
    whole.completed (shift.object id) (shift.object reference) (node.rename shift) =
      (part.completed id reference node).rename shift := by
  have under := held.qualifierUnder (held.valid.parent_lt_size declared)
  unfold Outline.completed
  dsimp only
  rw [held.kind inside, held.kind declared, held.parent declared, under,
    held.object reference declared notRoot, Node.complete_rename]
  split_ifs <;> rfl

theorem Parts.completeFrom (parts : Parts shift other part rest whole) (inside : id < part.size)
    (notRoot : id ≠ root) (declared : reference < part.size) (notFile : reference ≠ root) :
    Parts shift other (part.completeFrom id reference) rest
      (whole.completeFrom (shift.object id) (shift.object reference)) :=
  parts.modify inside notRoot _ _ (part.completed_skeleton id reference)
    (fun _ => parts.own.linked.completed) (parts.own.completed inside declared notFile _)

end Outline

namespace Completion

open Outline

variable {shift other : Renaming} {part rest whole : Completion} {id : Nat}

theorem complete_of_hasStarted {completion : Completion} (started : completion.hasStarted id = true)
    (depth : Nat) : complete depth completion id = completion := by
  cases depth with
  | zero => rfl
  | succ depth => simp [complete, started]

/-- Two parts of a whole with the same definitions completed so far. -/
abbrev Parts (shift other : Renaming) (part rest whole : Completion) : Prop :=
  Visited shift other part.outline rest.outline whole.outline part.started rest.started
    whole.started

/-- Completing an object of one part, with enough depth for all that is not visited there. -/
theorem Parts.complete (parts : Parts shift other part rest whole) {depth longer : Nat}
    (enough : pending part.started ≤ depth) (plenty : pending part.started ≤ longer)
    (inside : id < part.outline.size) (notRoot : id ≠ root) :
    Parts shift other (Completion.complete depth part id) rest
      (Completion.complete longer whole (shift.object id)) := by
  induction depth generalizing longer part whole id with
  | zero =>
    have started : part.hasStarted id = true := marked_of_pending (Nat.eq_zero_of_le_zero enough)
    have also : whole.hasStarted (shift.object id) = true :=
      (parts.own id inside notRoot).trans started
    rwa [complete_of_hasStarted started, complete_of_hasStarted also]
  | succ depth ih =>
    have same : whole.hasStarted (shift.object id) = part.hasStarted id :=
      parts.own id inside notRoot
    cases started : part.hasStarted id with
    | true => rwa [complete_of_hasStarted started, complete_of_hasStarted (same.trans started)]
    | false =>
      have fewer := pending_of_unmarked started
      obtain ⟨longer, rfl⟩ := Nat.exists_eq_add_one_of_ne_zero (by omega : longer ≠ 0)
      have marked : Parts shift other
          ⟨part.outline, part.started.setIfInBounds id true⟩ rest
          ⟨whole.outline, whole.started.setIfInBounds (shift.object id) true⟩ :=
        parts.mark inside notRoot
      have references : (whole.outline.node (shift.object id)).referenceId =
          (part.outline.node id).referenceId.map shift.object := by
        rw [parts.parts.own.object id inside notRoot]
        rfl
      rw [Completion.complete, Completion.complete, same, started]
      simp only [Bool.false_eq_true, if_false]
      rw [references]
      cases refers : (part.outline.node id).referenceId with
      | none => exact marked
      | some reference =>
        obtain ⟨declared, notFile⟩ := parts.parts.own.linked.of_reference refers
        have left : pending (part.started.setIfInBounds id true) ≤ depth := by omega
        have alsoLeft : pending (part.started.setIfInBounds id true) ≤ longer := by omega
        have inner := ih marked left alsoLeft declared notFile
        have size := (keeps_complete depth
          ⟨part.outline, part.started.setIfInBounds id true⟩ reference).size
        exact inner.change
          (inner.parts.completeFrom (size ▸ inside) notRoot (size ▸ declared) notFile)
          (size_modify _ _ _) (size_modify _ _ _)

end Completion

namespace Outline

variable {shift other : Renaming} {part rest whole : Outline} {id : Nat}

/-- The input file has no declaration. -/
theorem PlainRoot.complete (plain : part.PlainRoot) (inside : 0 < part.size) :
    Completion.complete part.size ⟨part, .replicate part.size false⟩ root =
      ⟨part, (Array.replicate part.size false).setIfInBounds root true⟩ := by
  obtain ⟨limit, size⟩ := Nat.exists_eq_add_one_of_ne_zero (Nat.ne_of_gt inside)
  have unmarked : Completion.hasStarted ⟨part, .replicate part.size false⟩ root = false :=
    hasStarted_start inside
  have noReference : (part.node root).referenceId = none :=
    plain.read Node.referenceId (fun _ => rfl) fun _ => rfl
  generalize Array.replicate part.size false = marks at unmarked
  rw [size, Completion.complete, unmarked]
  simp [noReference]

namespace Parts

variable (parts : Parts shift other part rest whole)
include parts

/-- Completing every definition of the whole completes every definition of the parts. -/
theorem completeDefinitions (order : Consecutive shift other part rest whole) :
    Parts shift other part.completeDefinitions rest.completeDefinitions
      whole.completeDefinitions := by
  refine (Parts.pass Completion.Parts Completion.complete Completion.outline
    ⟨part, .replicate part.size false⟩ ⟨rest, .replicate rest.size false⟩
    ⟨whole, .replicate whole.size false⟩ parts order Visited.swap ?_ ?_ ?_).parts
  · intro limit completion id
    exact (Completion.keeps_complete limit completion id).size
  · intro shift other part rest whole id limit longer parts enough plenty inside notRoot
    have few : pending part.started ≤ part.outline.size := parts.size ▸ Array.count_le_size
    exact parts.complete (few.trans enough) (few.trans plenty) inside notRoot
  · obtain ⟨own, all⟩ := parts.own.plainRoot
    dsimp only
    rw [own.complete parts.own.valid.root_present,
      parts.beside.plainRoot.1.complete parts.beside.valid.root_present,
      all.complete (Nat.zero_lt_of_lt (parts.own.object_lt parts.own.valid.root_present))]
    exact (Visited.start parts).markRoot

end Parts

/-! ### All passes -/

theorem Consecutive.of_size (order : Consecutive shift other part rest whole)
    {part' rest' whole' : Outline} (own : part'.size = part.size) (beside : rest'.size = rest.size)
    (all : whole'.size = whole.size) : Consecutive shift other part' rest' whole' := by
  simpa only [Consecutive, ids, own, beside, all] using order

/-- What all passes make of the whole, they make of the parts. -/
theorem Indexed.finish (indexed : Indexed shift other part rest whole)
    (order : Consecutive shift other part rest whole) (void : String) :
    Parts shift other (part.finish void) (rest.finish void) (whole.finish void) := by
  have linked := (indexed.link order).parts
  have sizes (outline : Outline) := (keeps_link outline).size
  have order := order.of_size (sizes part) (sizes rest) (sizes whole)
  have spelled := linked.spellNames order void
  have sizes (outline : Outline) := (keeps_spellNames outline void).size
  have order := order.of_size (sizes part.link) (sizes rest.link) (sizes whole.link)
  have qualified := spelled.qualifyNames order
  have sizes (outline : Outline) := (keeps_qualifyNames outline).size
  have order := order.of_size (sizes _) (sizes _) (sizes _)
  have completed := qualified.completeDefinitions order
  have sizes (outline : Outline) := (keeps_completeDefinitions outline).size
  exact completed.spreadGlobals (order.of_size (sizes _) (sizes _) (sizes _))

end Outline

end DebugOutline
