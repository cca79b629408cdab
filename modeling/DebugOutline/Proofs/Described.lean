import DebugOutline.Proofs.Resolution

/-! Every object is described by an entry, by a row of a line table, or is the input file. What
holds of all descriptions holds of all objects, wherever they are placed; and but for the storage
class of functions, no pass changes the details that only some kinds of objects have. -/
namespace DebugOutline

open Dwarf (Entry LineRow UnitRecord)

/-- An object without its place in an outline. -/
def Node.withoutPlace (node : Node) : Node :=
  { node with parent := none, children := #[], lines := #[], level := 0, isTemplate := false }

/-- The details of an object without what a declaration may add to them. -/
def Detail.shape : Detail → Detail
  | .function info => .function { info with isStatic := false }
  | detail => detail

namespace Outline

variable {outline : Outline} {property : Node → Prop}

theorem withoutPlace_adopt (owner : Node) (id : Nat) (kind : Kind) :
    (owner.adopt id kind).withoutPlace = owner.withoutPlace := by
  unfold Node.adopt
  split <;> rfl

theorem withoutPlace_insert (outline : Outline) (node : Node) (parent id : Nat) :
    ((outline.insert node parent).2.node id).withoutPlace =
      (if id = outline.size then node else outline.node id).withoutPlace := by
  have last : outline.nodes.size = outline.size := rfl
  have own : (outline.placed node parent).withoutPlace = node.withoutPlace := rfl
  simp only [node_eq_getD, nodes_insert, Array.getElem?_modify, Array.getElem?_push, last]
  by_cases added : id = outline.size
  · subst added
    by_cases owner : parent = outline.size <;> simp [owner, withoutPlace_adopt, ← own]
  · by_cases owner : parent = id
    · cases outline.nodes[id]? <;> simp [added, owner, withoutPlace_adopt]
    · simp [added, owner]

/-- Every object is as `property` says, and no place makes a difference to it. -/
structure Everywhere (property : Node → Prop) (outline : Outline) : Prop where
  node : ∀ id, property (outline.node id)
  anywhere : ∀ a b : Node, a.withoutPlace = b.withoutPlace → property a → property b

namespace Everywhere

variable (everywhere : outline.Everywhere property)
include everywhere

theorem insert {node : Node} (described : property node) (parent : Nat) :
    (outline.insert node parent).2.Everywhere property where
  node id := by
    refine everywhere.anywhere _ _ (outline.withoutPlace_insert node parent id).symm ?_
    split
    · exact described
    · exact everywhere.node id
  anywhere := everywhere.anywhere

theorem modify (id : Nat) {change : Node → Node}
    (placing : ∀ node, (change node).withoutPlace = node.withoutPlace) :
    (outline.modify id change).Everywhere property where
  node other := by
    rw [node_modify]
    split
    · exact everywhere.anywhere _ _ (placing _).symm (everywhere.node other)
    · exact everywhere.node other
  anywhere := everywhere.anywhere

theorem addRows {unit : UnitRecord} {unitIndex : Nat}
    (row : ∀ row, property (.ofRow unit unitIndex row)) (owner : Nat) :
    (Draft.addRows unit unitIndex owner outline).Everywhere property := by
  rw [Draft.addRows, ← Array.foldl_toList]
  exact List.foldlRecOn unit.rows.toList _ everywhere
    fun _ placed line _ => placed.insert (row line) owner

theorem afterPlacing {unit : UnitRecord} {unitIndex : Nat}
    (row : ∀ row, property (.ofRow unit unitIndex row)) (kind : Kind) (id parent : Nat) :
    (Draft.afterPlacing unit unitIndex kind id parent outline).Everywhere property := by
  unfold Draft.afterPlacing
  split
  · exact everywhere.addRows row id
  · unfold Draft.markTemplate
    split
    · exact everywhere.modify parent fun _ => rfl
    · exact everywhere
  · exact everywhere

end Everywhere

theorem everywhere_empty (input : String)
    (anywhere : ∀ a b : Node, a.withoutPlace = b.withoutPlace → property a → property b)
    (nothing : property default)
    (file : property { kind := .inputFile, offset := 0, name := input }) :
    (empty input).Everywhere property := by
  refine ⟨fun id => ?_, anywhere⟩
  rcases node_empty_cases input id with same | same
  · rwa [same]
  · rwa [same]

end Outline

namespace Draft

theorem everywhere_addEntry {property : Node → Prop} {unit : UnitRecord} {unitIndex : Nat}
    {state : Draft × Option NodeId} {item : Entry}
    (everywhere : state.1.outline.Everywhere property)
    (row : ∀ row, property (.ofRow unit unitIndex row))
    (entry : ∀ role inAggregate,
      property (Reading.node unit unitIndex item role inAggregate).value) :
    (addEntry unit unitIndex state item).1.outline.Everywhere property := by
  unfold addEntry
  dsimp only
  split
  · exact everywhere
  · split
    · exact everywhere
    · exact (everywhere.insert (entry _ _) _).afterPlacing row _ _ _

variable (property : Node → Prop) (input : String) (units : List UnitRecord)

/-- What holds of the input file and of the description of every row and every entry of the units
holds of every object. -/
theorem everywhere_ofEntries
    (anywhere : ∀ a b : Node, a.withoutPlace = b.withoutPlace → property a → property b)
    (nothing : property default)
    (file : property { kind := .inputFile, offset := 0, name := input })
    (row : ∀ unit unitIndex row, property (.ofRow unit unitIndex row))
    (entry : ∀ unit unitIndex, units[unitIndex]? = some unit → ∀ entry ∈ unit.entries.toList,
      ∀ role inAggregate, property (Reading.node unit unitIndex entry role inAggregate).value) :
    (ofUnits input units).outline.Everywhere property := by
  rw [outline_ofUnits]
  refine (addUnits_related (fun state _ => state.1.outline.Everywhere property) 0 id ?_
    (start input) (start input) (.empty units input)
    (Outline.everywhere_empty input anywhere nothing file)).2
  intro state other unit position item recorded listed sound current everywhere
  exact everywhere_addEntry everywhere (row unit position)
    (entry unit position recorded item listed)

/-- What holds of the input file and of every description whatever holds of every object. -/
theorem everywhere_ofUnits
    (anywhere : ∀ a b : Node, a.withoutPlace = b.withoutPlace → property a → property b)
    (nothing : property default)
    (file : property { kind := .inputFile, offset := 0, name := input })
    (row : ∀ unit unitIndex row, property (.ofRow unit unitIndex row))
    (entry : ∀ unit unitIndex entry role inAggregate,
      property (Reading.node unit unitIndex entry role inAggregate).value) :
    (ofUnits input units).outline.Everywhere property :=
  everywhere_ofEntries property input units anywhere nothing file row
    fun unit unitIndex _ item _ => entry unit unitIndex item

end Draft

namespace Outline

/-! ### Details -/

/-- Completing leaves the details as they are, but for the storage class of functions. -/
theorem complete_shape (node declaration : Node) :
    (node.complete declaration).detail.shape = node.detail.shape := by
  rw [Node.complete_eq]
  cases node.detail <;> cases declaration.function?
  case function.some =>
    simp only [Detail.complete, Detail.shape]
    split <;> rfl
  all_goals rfl

theorem keeps_shape_completeDefinitions (outline : Outline) :
    Keeps (fun node => (node.kind, node.detail.shape)) outline outline.completeDefinitions := by
  refine completeDefinitions_induction ?_ _ (.refl _ _)
  intro current id reference _ kept
  rw [completeFrom_eq_modify]
  refine kept.trans (.modify current id ?_)
  have kind := congrArg (fun node : Node => node.kind)
    (current.completed_skeleton id reference (current.node id))
  have shape : (current.completed id reference (current.node id)).detail.shape =
      (current.node id).detail.shape := by
    unfold completed
    dsimp only
    split_ifs <;> exact complete_shape _ _
  exact Prod.ext kind shape

/-- All passes leave what completing and the setting of links, names, qualifiers and marks leave. -/
theorem Keeps.finish {view : Node → α} (outline : Outline) (void : String)
    (links : ∀ a b : Node, linkView a = linkView b → view a = view b)
    (names : ∀ a b : Node, a.withoutName = b.withoutName → view a = view b)
    (qualifiers : ∀ a b : Node, a.withoutQualifier = b.withoutQualifier → view a = view b)
    (completed : ∀ outline : Outline, Keeps view outline outline.completeDefinitions)
    (marks : ∀ a b : Node, a.withoutMark = b.withoutMark → view a = view b) :
    Keeps view outline (outline.finish void) :=
  ((((keeps_link outline).weaken view links).trans
    ((keeps_spellNames _ void).weaken view names)).trans
    ((keeps_qualifyNames _).weaken view qualifiers)).trans
    ((completed _).trans ((keeps_spreadGlobals _).weaken view marks))

/-- No pass changes what kind of object it is, or details but the storage class of functions. -/
theorem keeps_shape_finish (outline : Outline) (void : String) :
    Keeps (fun node => (node.kind, node.detail.shape)) outline (outline.finish void) := by
  refine .finish outline void ?_ ?_ ?_ keeps_shape_completeDefinitions ?_ <;> intro a b same
  · simp only [linkView, Node.withoutLinks, Prod.mk.injEq, Node.mk.injEq] at same
    simp [same]
  · simp only [Node.withoutName, Node.mk.injEq] at same
    simp [same]
  · simp only [Node.withoutQualifier, Node.mk.injEq] at same
    simp [same]
  · simp only [Node.withoutMark, Node.mk.injEq] at same
    simp [same]

end Outline

/-! ### Auxiliary objects -/

namespace Node

/-- What an object stands for is a matter of the shape of its details. -/
theorem auxiliaryForm?_of_shape {a b : Node} (same : a.detail.shape = b.detail.shape) :
    a.auxiliaryForm? = b.auxiliaryForm? := by
  have shaped (node : Node) : node.auxiliaryForm? =
      { node with detail := node.detail.shape }.auxiliaryForm? := by
    unfold auxiliaryForm? Detail.shape
    cases node.detail <;> rfl
  rw [shaped a, shaped b, same]
  rfl

end Node

theorem Reading.auxiliaryForm?_detail {entry : Entry} {kind : Kind} {inAggregate : Bool}
    {node : Node} (detailed : node.detail = (Reading.detail entry kind inAggregate).value) :
    node.auxiliaryForm? = none := by
  unfold Node.auxiliaryForm?
  rw [detailed]
  unfold Reading.detail
  cases kind
  case parameter =>
    dsimp only [Reading.value_pure]
    by_cases variadic : entry.tag = .unspecifiedParameters
    · rw [if_pos variadic]
    · rw [if_neg variadic]
  case «variable» => cases inAggregate <;> rfl
  case member => cases inAggregate <;> rfl
  all_goals rfl

/-- Only auxiliary objects stand for types or for parts of their owners. -/
theorem Reading.kind_of_auxiliaryForm? (unit : UnitRecord) (unitIndex : Nat) (entry : Entry)
    (role : Role) (inAggregate : Bool) :
    (Reading.node unit unitIndex entry role inAggregate).value.auxiliaryForm?.isSome →
      (Reading.node unit unitIndex entry role inAggregate).value.kind = .auxiliary := by
  rw [(Reading.node_isOf unit unitIndex entry role inAggregate).kind]
  cases role with
  | auxiliary form => exact fun _ => rfl
  | object kind =>
    have formless : (Reading.node unit unitIndex entry (.object kind)
        inAggregate).value.auxiliaryForm? = none := Reading.auxiliaryForm?_detail rfl
    rw [formless]
    exact fun none => by cases none

theorem Draft.kind_of_auxiliaryForm? (input : String) (units : List UnitRecord) (id : NodeId)
    (form : ((Draft.ofUnits input units).outline.node id).auxiliaryForm?.isSome) :
    ((Draft.ofUnits input units).outline.node id).kind = .auxiliary :=
  (Draft.everywhere_ofUnits
    (fun node => node.auxiliaryForm?.isSome → node.kind = .auxiliary) input units
    (fun a b same isAuxiliary form => by
      simp only [Node.withoutPlace, Node.mk.injEq] at same
      simpa [same] using isAuxiliary (by simpa [Node.auxiliaryForm?, same] using form))
    (fun none => by cases none) (fun none => by cases none)
    (fun _ _ _ none => by cases none) Reading.kind_of_auxiliaryForm?).node id form

theorem Outline.kind_of_auxiliaryForm? (input : String) (units : List UnitRecord) (void : String)
    (id : NodeId) (form : ((Outline.build input units void).1.node id).auxiliaryForm?.isSome) :
    ((Outline.build input units void).1.node id).kind = .auxiliary := by
  have kept := keeps_shape_finish (Draft.ofUnits input units).outline void
  obtain ⟨kind, shape⟩ := Prod.mk.inj (kept.node id)
  rw [build_fst] at form ⊢
  rw [kind]
  rw [Node.auxiliaryForm?_of_shape shape] at form
  exact Draft.kind_of_auxiliaryForm? input units id form

end DebugOutline
