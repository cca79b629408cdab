import DebugOutline.Proofs.Shape
import DebugOutline.Proofs.Tallied

/-! The table that goes with a document. It counts every object as printed, and a document lists all
of them but those at or inside something that has no entry of its own: an auxiliary object, or an
argument in a template pack. -/
namespace DebugOutline

open Dwarf (UnitRecord)

namespace Outline

variable {outline : Outline}

/-- How many entries of a kind a document has. -/
def entryCount (outline : Outline) (kind : Kind) : Nat :=
  outline.listed.countP fun shown => (outline.node shown.id).kind == kind

/-- How many objects of a kind are, or are inside, something that has no entry. -/
def unlistedCount (outline : Outline) (kind : Kind) : Nat :=
  outline.ids.countP fun id => (outline.node id).kind == kind && !outline.isVisible id

/-! ### Objects and entries -/

namespace WellFormed

variable (valid : outline.WellFormed)
include valid

/-- The file and what is listed are the visible objects, each once. -/
theorem perm_listed :
    (root :: outline.listed.map Shown.id).Perm (outline.ids.filter outline.isVisible) := by
  have enough : outline.size ≤ root + (outline.size + 1) := by simp [root]
  have reached {shown : Shown} : shown ∈ outline.walk {} (outline.size + 1) root 0 ↔
      ∃ steps, outline.Leads (fun _ => True) root shown.id steps ∧ shown.depth = 0 + steps :=
    mem_walk valid {} enough valid.root_present 0
  have whole : (outline.walk {} (outline.size + 1) root 0).map Shown.id =
      root :: outline.listed.map Shown.id := by
    rw [listed, walk, List.map_cons, List.tail_cons]
  have distinct : outline.ids.Nodup := List.nodup_range
  rw [← whole]
  refine (List.perm_ext_iff_of_nodup (walk_nodup valid {} enough valid.root_present 0)
    (distinct.filter _)).mpr fun id => ?_
  rw [List.mem_filter, mem_ids, List.mem_map]
  constructor
  · rintro ⟨shown, walked, rfl⟩
    obtain ⟨steps, leads, -⟩ := reached.mp walked
    obtain ⟨inside, visible, -, -⟩ := valid.leads_root_iff.mp leads
    exact ⟨inside, visible⟩
  · rintro ⟨inside, visible⟩
    have leads := valid.leads_root_iff.mpr ⟨inside, visible, fun _ _ => trivial, rfl⟩
    exact ⟨⟨id, _⟩, reached.mpr ⟨_, leads, rfl⟩, rfl⟩

/-- An object of a kind with a row has an entry, or it is one of those that have none. -/
theorem count_eq (first : outline.FileFirst) {kind : Kind} (counted : kind ∈ Kind.tallied) :
    outline.count kind = outline.entryCount kind + outline.unlistedCount kind := by
  have notFile : ¬ ((outline.node root).kind == kind) = true := by
    rw [(first root valid.root_present).mpr rfl, beq_iff_eq]
    exact ((Kind.mem_tallied_iff kind).mp counted).1.symm
  have entries : outline.entryCount kind =
      (outline.ids.filter outline.isVisible).countP fun id => (outline.node id).kind == kind := by
    rw [← valid.perm_listed.countP_eq, List.countP_cons, if_neg notFile, List.countP_map]
    rfl
  rw [entries, count_eq_countP_ids, List.countP_eq_countP_filter_add _ _ outline.isVisible]
  congr 1
  exact List.countP_filter

end WellFormed

/-- Nothing of a kind is without an entry if all of that kind is visible. -/
theorem unlistedCount_eq_zero_iff (kind : Kind) : outline.unlistedCount kind = 0 ↔
    ∀ id < outline.size, (outline.node id).kind = kind → outline.isVisible id = true := by
  rw [unlistedCount, List.countP_eq_zero]
  simp [mem_ids]

end Outline

/-! ### The table of a document -/

namespace Tally

open Outline Document

variable {outline : Outline}

/-- What the table of a document says about it. The document is a header and one entry for each
listed object, which starts with its kind; and where a kind is counted as printed, what is counted
are its entries and its objects without an entry. -/
structure CountsDocument (outline : Outline) : Prop where
  text : outline.yaml = Text.unlines (header outline ++ outline.listed.flatMap (entryLines outline))
  head : ∀ shown ∈ outline.listed, (entryLines outline shown).head? =
    some (indentAt shown.depth ++ "- object: \"" ++ (outline.node shown.id).kind.name ++ "\"")
  entries : outline.FeedFree → ∀ kind,
    ((Text.lines outline.yaml).filterMap entry?).countP (fun entry => entry.2 == kind) =
      outline.entryCount kind
  row : ∀ row ∈ (ofAll outline).rows,
    row.printed = outline.entryCount row.kind + outline.unlistedCount row.kind
  agrees : ofAll outline = ofSelection outline outline.listed ↔
    ∀ id < outline.size, (outline.node id).kind ∈ Kind.tallied → outline.isVisible id = true

/-- The table is the one of what is listed exactly if every object that it counts is visible. -/
theorem ofAll_eq_iff (valid : outline.WellFormed) (first : outline.FileFirst) :
    ofAll outline = ofSelection outline outline.listed ↔
      ∀ id < outline.size, (outline.node id).kind ∈ Kind.tallied → outline.isVisible id = true := by
  have same : ofAll outline = ofSelection outline outline.listed ↔
      ∀ kind ∈ Kind.tallied, outline.count kind = outline.entryCount kind := by
    simp [ofAll, ofSelection, ofCounts, entryCount, List.map_inj_left]
  rw [same]
  constructor
  · intro right id inside counted
    have none : outline.unlistedCount (outline.node id).kind = 0 := by
      have all := valid.count_eq first counted
      rw [right _ counted] at all
      omega
    exact (unlistedCount_eq_zero_iff _).mp none id inside rfl
  · intro visible kind counted
    have none : outline.unlistedCount kind = 0 :=
      (unlistedCount_eq_zero_iff kind).mpr fun id inside same => visible id inside (same ▸ counted)
    rw [valid.count_eq first counted, none, Nat.add_zero]

/-- The lines that start an entry of a kind, read back from the text of a document. -/
theorem countP_entries (shape : Shape outline) (kind : Kind) :
    ((Text.lines outline.yaml).filterMap entry?).countP (fun entry => entry.2 == kind) =
      outline.entryCount kind := by
  have front := List.filterMap_eq_nil_iff.mpr fun line member =>
    entry?_of_not_opens (shape.header line member)
  rw [shape.lines, List.filterMap_append, front, List.nil_append, List.filterMap_flatMap,
    List.flatMap_congr fun shown member => (shape.blocks shown member).entries,
    ← List.map_eq_flatMap, List.countP_map]
  rfl

theorem CountsDocument.of_wellFormed (valid : outline.WellFormed) (first : outline.FileFirst)
    (numeric : ∀ id, (outline.node id).detail.IsNumeric)
    (rowless : (outline.node root).lines = #[]) : CountsDocument outline where
  text := yaml_eq_entries rowless
  head shown _ := head?_entryLines outline shown
  entries feedFree := countP_entries (valid.shape feedFree numeric rowless)
  row row listed := by
    obtain ⟨kind, counted, rfl⟩ := List.mem_map.mp listed
    exact valid.count_eq first counted
  agrees := ofAll_eq_iff valid first

/-- Of every input and in every order, the table of a document counts as printed the entries of a
kind and what of that kind has no entry, so it is right exactly if every object has one. -/
theorem countsDocument_build (input : String) (units : List UnitRecord) (void : String) :
    let outline := (build input units void).1
    CountsDocument outline ∧ ∀ key, CountsDocument (outline.sort key) := by
  have valid := WellFormed.build input units void
  have first := FileFirst.build input units void
  have numeric := isNumeric_build input units void
  have rowless := lines_root_build input units void
  generalize (build input units void).1 = outline at valid first numeric rowless ⊢
  refine ⟨.of_wellFormed valid first numeric rowless, fun key => ?_⟩
  refine .of_wellFormed (valid.sort key) (first.sort key) (fun id => ?_) ?_
  · rw [node_sort]
    exact numeric id
  · rw [lines_sort, rowless]

/-- A structure whose arguments are a pack, and one that is declared inside a subroutine type. -/
private def packUnit : UnitRecord where
  entries := #[
    { offset := 11, tag := .compileUnit, attributes := [⟨.name, .string, .string "a.cpp"⟩] },
    { offset := 20, tag := .baseType, parent := some 11,
      attributes := [⟨.name, .string, .string "int"⟩] },
    { offset := 24, tag := .structureType, parent := some 11,
      attributes := [⟨.name, .string, .string "Tuple"⟩] },
    { offset := 28, tag := .templateParameterPack, parent := some 24,
      attributes := [⟨.name, .string, .string "Ts"⟩] },
    { offset := 32, tag := .templateTypeParameter, parent := some 28,
      attributes := [⟨.type, .ref4, .reference 20⟩] },
    { offset := 40, tag := .subroutineType, parent := some 11,
      attributes := [⟨.type, .ref4, .reference 20⟩] },
    { offset := 44, tag := .structureType, parent := some 40,
      attributes := [⟨.name, .string, .string "Local"⟩] }]

/-- The argument in the pack and the inner structure are counted as printed, and have no entry. -/
theorem printed_unlisted :
    (¬ ∀ (input : String) (units : List UnitRecord) (void : String),
      ∀ row ∈ (ofAll (build input units void).1).rows,
        row.printed = (build input units void).1.entryCount row.kind) ∧
    (ofAll (build "a.o" [packUnit] "void").1).printed = 6 ∧
    (build "a.o" [packUnit] "void").1.listed.length = 4 := by
  refine ⟨fun right => ?_, ?_, ?_⟩
  · have rows := right "a.o" [packUnit] "void"
    revert rows
    rw [build_eq_buildBySearch]
    decide +kernel
  · rw [build_eq_buildBySearch]
    decide +kernel
  · rw [build_eq_buildBySearch]
    decide +kernel

end Tally

end DebugOutline
