import DebugOutline.Proofs.Lines
import DebugOutline.Proofs.Malformed
import DebugOutline.Proofs.Searching

/-! The extent of an array dimension, from the number of its elements or from its last index. Where
the first index is zero both give the same text, and the outline is the same in every field. Where
it is not, the number of elements is added to the first index, and the text that comes out is that
of a longer dimension. -/
namespace DebugOutline

open Dwarf (Attr Entry Tag UnitRecord)

variable {lower count upper : UInt64} {byCount byLast : Entry}

namespace Dwarf.Entry

/-- The entry gives a number without a sign for an attribute. -/
def Gives (entry : Entry) (name : Attr) (number : UInt64) : Prop :=
  ∃ form, entry.attribute? name = some ⟨name, form, .unsigned number⟩

/-- The first index of a dimension; none at all means zero. -/
def StartsAt (entry : Entry) (lower : UInt64) : Prop :=
  entry.Gives .lowerBound lower ∨ lower = 0 ∧ entry.attribute? .lowerBound = none

/-- A dimension by its first index and the number of its elements. -/
structure Counts (entry : Entry) (lower count : UInt64) : Prop where
  first : entry.StartsAt lower
  elements : entry.Gives .count count

/-- A dimension by its first and its last index. -/
structure Spans (entry : Entry) (lower upper : UInt64) : Prop where
  first : entry.StartsAt lower
  uncounted : entry.attribute? .count = none
  last : entry.Gives .upperBound upper

/-- Two entries in one place that say the same but for the extent of a dimension. -/
structure SameButExtent (byCount byLast : Entry) : Prop where
  offset : byLast.offset = byCount.offset
  tag : byLast.tag = byCount.tag
  parent : byLast.parent = byCount.parent
  others : ∀ name, name ∉ [.lowerBound, .count, .upperBound] →
    byLast.attribute? name = byCount.attribute? name

end Dwarf.Entry

namespace Reading

open Dwarf.Entry (Counts Spans SameButExtent)

/-! ### The two texts -/

variable {entry other : Entry} {name : Attr}

theorem accepted_congr (same : other.attribute? name = entry.attribute? name)
    (accept : Dwarf.Value → Option α) : accepted other name accept = accepted entry name accept := by
  simp only [accepted, same]

theorem firstReference_congr (names : List Attr)
    (same : ∀ name ∈ names, other.attribute? name = entry.attribute? name) :
    firstReference other names = firstReference entry names := by
  induction names with
  | nil => rfl
  | cons name rest ih =>
    have first : reference other name = reference entry name :=
      accepted_congr (same name List.mem_cons_self) _
    simp only [firstReference, first, ih fun later member => same later (List.mem_cons_of_mem _ member)]

theorem unsigned_of_gives {number : UInt64} (gives : entry.Gives name number) :
    unsigned entry name = ⟨some number, []⟩ := by
  obtain ⟨form, found⟩ := gives
  simp [unsigned, accepted, found, Dwarf.Value.unsigned?]

theorem unsigned_of_absent (absent : entry.attribute? name = none) :
    unsigned entry name = ⟨none, []⟩ := by
  simp [unsigned, accepted, absent]

theorem lower_of_startsAt (starts : entry.StartsAt lower) :
    (unsigned entry .lowerBound).value.getD 0 = lower ∧
      (unsigned entry .lowerBound).warnings = [] := by
  rcases starts with gives | ⟨rfl, absent⟩
  · simp [unsigned_of_gives gives]
  · simp [unsigned_of_absent absent]

theorem toNat_saturatingAdd {a b : UInt64} (fits : a.toNat + b.toNat < UInt64.size) :
    (saturatingAdd a b).toNat = a.toNat + b.toNat := by
  rw [saturatingAdd, if_pos fits, UInt64.toNat_add, Nat.mod_eq_of_lt fits]

/-- With a number of elements, the text shows how far they reach from zero. -/
theorem bounds_of_counts (counts : byCount.Counts lower count)
    (fits : lower.toNat + count.toNat < UInt64.size) :
    (bounds byCount).value = "[" ++ Text.decimal (lower.toNat + count.toNat) ++ "]" := by
  simp only [bounds, value_bind, value_pure, (lower_of_startsAt counts.first).1,
    unsigned_of_gives counts.elements, toNat_saturatingAdd fits]

/-- With a last index, the text shows both if the first one is not zero. -/
theorem bounds_of_spans (spans : byLast.Spans lower upper)
    (fits : upper.toNat + 1 < UInt64.size) :
    (bounds byLast).value =
      if lower = 0 then "[" ++ Text.decimal (upper.toNat + 1) ++ "]"
      else "[" ++ Text.decimal lower.toNat ++ ".." ++ Text.decimal upper.toNat ++ "]" := by
  obtain ⟨form, found⟩ := spans.last
  have last : accepted byLast .upperBound bound? = ⟨some (some upper), []⟩ := by
    rw [accepted, found]
    rfl
  have one : (1 : UInt64).toNat = 1 := rfl
  have more : (saturatingAdd upper 1).toNat = upper.toNat + 1 := by
    rw [toNat_saturatingAdd (by rwa [one]), one]
  simp only [bounds, value_bind, value_pure, (lower_of_startsAt spans.first).1,
    unsigned_of_absent spans.uncounted, last, more]
  by_cases zero : lower = 0
  · simp [zero]
  · simp [zero]

theorem toNat_last (nonempty : 0 < count) (fits : lower.toNat + count.toNat < UInt64.size) :
    (lower + count - 1).toNat = lower.toNat + count.toNat - 1 := by
  have present : 0 < count.toNat := UInt64.lt_iff_toNat_lt.mp nonempty
  have sum : (lower + count).toNat = lower.toNat + count.toNat := by
    rw [UInt64.toNat_add, Nat.mod_eq_of_lt fits]
  have positive : (1 : UInt64) ≤ lower + count := by
    rw [UInt64.le_iff_toNat_le, sum, UInt64.toNat_one]
    omega
  rw [UInt64.toNat_sub_of_le _ _ positive, sum, UInt64.toNat_one]

/-- The dots between two bounds stand in no number. -/
theorem bracketed_ne_span (size first last : Nat) :
    "[" ++ Text.decimal size ++ "]" ≠
      "[" ++ Text.decimal first ++ ".." ++ Text.decimal last ++ "]" := by
  intro same
  have dot : '.' ∈ ("[" ++ Text.decimal size ++ "]").toList := by
    rw [same]
    simp
  have digits := Text.IsNumeral.decimal size '.'
  simp only [String.toList_append, List.mem_append] at dot
  rcases dot with (bracket | inside) | bracket
  · revert bracket
    decide
  · rcases digits inside with digit | sign
    · revert digit
      decide
    · revert sign
      decide
  · revert bracket
    decide

/-! ### The objects of two such entries -/

/-- Where the first index is zero, the two entries are read the same, but for a last index beside
the number of elements, which may be worth a warning. -/
theorem sameBut_bounds (nonempty : 0 < count) (counts : byCount.Counts 0 count)
    (spans : byLast.Spans 0 (count - 1)) :
    ∃ warning, SameBut warning (bounds byLast) (bounds byCount) := by
  have inside : count.toNat < UInt64.size := count.toNat_lt
  have present : 0 < count.toNat := UInt64.lt_iff_toNat_lt.mp nonempty
  have zero : (0 : UInt64).toNat = 0 := rfl
  have last : (count - 1).toNat + 1 = count.toNat := by
    have known : (0 + count - 1).toNat = (0 : UInt64).toNat + count.toNat - 1 :=
      toNat_last nonempty (by rwa [zero, Nat.zero_add])
    rw [UInt64.zero_add, zero, Nat.zero_add] at known
    omega
  have value : (bounds byLast).value = (bounds byCount).value := by
    rw [bounds_of_spans spans (by rwa [last]), if_pos rfl, last,
      bounds_of_counts counts (by rwa [zero, Nat.zero_add]), zero, Nat.zero_add]
  have silent : (bounds byLast).warnings = [] := by
    obtain ⟨form, found⟩ := spans.last
    have accepted : (accepted byLast .upperBound bound?).warnings = [] := by
      rw [accepted, found]
      rfl
    simp [bounds, (lower_of_startsAt spans.first).2, unsigned_of_absent spans.uncounted, accepted]
  have other : (bounds byCount).warnings = (accepted byCount .upperBound bound?).warnings := by
    simp [bounds, (lower_of_startsAt counts.first).2, unsigned_of_gives counts.elements]
  cases found : byCount.attribute? .upperBound with
  | none =>
    refine ⟨.noDebugData, value, ?_⟩
    rw [silent, other, accepted, found]
    exact .refl _ _
  | some given =>
    refine ⟨.unexpectedForm .upperBound given.form, value, ?_⟩
    rw [silent, other]
    cases known : bound? given.value with
    | none => exact ⟨by simp [accepted, found, known], List.nil_subset _⟩
    | some upper =>
      have nothing : (accepted byCount .upperBound bound?).warnings = [] := by
        simp [accepted, found, known]
      exact nothing ▸ .refl _ _

/-- The object of a dimension takes its name from the extent, and all else from what the two entries
have in common. -/
theorem sameBut_dimension {warning : Warning} (same : SameButExtent byCount byLast)
    (extents : SameBut warning (bounds byLast) (bounds byCount)) (unit : UnitRecord)
    (unitIndex : Nat) (inAggregate : Bool) :
    SameBut warning (node unit unitIndex byLast (.auxiliary .subrange) inAggregate)
      (node unit unitIndex byCount (.auxiliary .subrange) inAggregate) := by
  have number (name : Attr) (common : name ∉ [.lowerBound, .count, .upperBound]) :
      unsigned byLast name = unsigned byCount name := accepted_congr (same.others name common) _
  have generated : flag byLast .artificial = flag byCount .artificial := by
    rw [flag, flag, accepted_congr (same.others .artificial (by decide))]
  have references (names : List Attr)
      (common : ∀ name ∈ names, name ∉ [Attr.lowerBound, .count, .upperBound]) :
      firstReference byLast names = firstReference byCount names :=
    firstReference_congr names fun name member => same.others name (common name member)
  unfold node
  dsimp only
  rw [number .declLine (by decide), number .declFile (by decide), generated,
    references [.type, .importEntry] (by decide),
    references [.specification, .abstractOrigin, .extension] (by decide), same.offset, same.tag]
  refine (SameBut.refl warning _).bind fun line => ?_
  refine (SameBut.refl warning _).bind fun file => ?_
  refine (SameBut.refl warning _).bind fun generated => ?_
  refine (SameBut.refl warning _).bind fun typeOffset => ?_
  refine (SameBut.refl warning _).bind fun referenceOffset => ?_
  exact extents.bind fun _ => .refl warning _

end Reading

namespace Outline

open Dwarf.Entry (Counts Spans SameButExtent)

/-- Where the first index of a dimension is zero, it does not show in the outline how the entry
gives its extent. -/
theorem build_extent (nonempty : 0 < count) (counts : byCount.Counts 0 count)
    (spans : byLast.Spans 0 (count - 1)) (same : SameButExtent byCount byLast)
    (isDimension : byCount.tag = .subrangeType) (input : String) {units : List UnitRecord}
    (void : String) {index position : Nat} {unit : UnitRecord}
    (recorded : units[index]? = some unit) (there : unit.entries[position]? = some byCount) :
    (Outline.build input (units.set index
      { unit with entries := unit.entries.setIfInBounds position byLast }) void).1 =
      (Outline.build input units void).1 := by
  obtain ⟨warning, extents⟩ := Reading.sameBut_bounds nonempty counts spans
  have alike : Draft.Alike warning byLast byCount := by
    refine ⟨same.offset, same.tag, same.parent, ?_⟩
    intro unit unitIndex outline parent role inAggregate known
    rw [Draft.roleUnder?, isDimension] at known
    cases known
    exact Reading.sameBut_dimension same extents unit unitIndex inAggregate
  rw [build_fst, build_fst, (Draft.sameBut_ofUnits input alike recorded there).outline]

/-- A dimension given by the number of its elements shows how far they reach from zero, one given by
its last index shows both indices if the first is not zero. So the two texts agree exactly if the
first index is zero, and then it shows nowhere in the outline which way an entry takes; the names of
arrays are the same in particular. -/
theorem extents_agree_iff (nonempty : 0 < count) (fits : lower.toNat + count.toNat < UInt64.size)
    (counts : byCount.Counts lower count) (spans : byLast.Spans lower (lower + count - 1)) :
    (Reading.bounds byCount).value = "[" ++ Text.decimal (lower.toNat + count.toNat) ++ "]" ∧
      (Reading.bounds byLast).value =
        (if lower = 0 then "[" ++ Text.decimal count.toNat ++ "]"
        else "[" ++ Text.decimal lower.toNat ++ ".." ++
          Text.decimal (lower.toNat + count.toNat - 1) ++ "]") ∧
      ((Reading.bounds byCount).value = (Reading.bounds byLast).value ↔ lower = 0) ∧
      (lower = 0 → SameButExtent byCount byLast → byCount.tag = .subrangeType →
        ∀ (input : String) (units : List UnitRecord) (void : String) (index position : Nat)
          (unit : UnitRecord), units[index]? = some unit → unit.entries[position]? = some byCount →
          (Outline.build input (units.set index
            { unit with entries := unit.entries.setIfInBounds position byLast }) void).1 =
            (Outline.build input units void).1) := by
  have last := Reading.toNat_last nonempty fits
  have present : 0 < count.toNat := UInt64.lt_iff_toNat_lt.mp nonempty
  have counted := Reading.bounds_of_counts counts fits
  have spanned := Reading.bounds_of_spans spans (by omega)
  rw [last, Nat.sub_add_cancel (by omega)] at spanned
  refine ⟨counted, ?_, ?_, ?_⟩
  · rw [spanned]
    split
    · rename_i zero
      subst zero
      simp
    · rfl
  · rw [counted, spanned]
    split
    · rename_i zero
      exact iff_of_true rfl zero
    · rename_i offset
      exact iff_of_false (Reading.bracketed_ne_span _ _ _) offset
  · rintro rfl same isDimension input units void index position unit recorded there
    rw [UInt64.zero_add] at spans
    exact build_extent nonempty counts spans same isDimension input void recorded there

/-- An array of three integers: the extent by the number of elements, or by the last index. -/
private def tripleUnit (extent : Dwarf.Attribute) : UnitRecord where
  entries := #[
    { offset := 11, tag := .compileUnit },
    { offset := 20, tag := .baseType, parent := some 11,
      attributes := [⟨.name, .string, .string "int"⟩] },
    { offset := 30, tag := .arrayType, parent := some 11,
      attributes := [⟨.type, .ref4, .reference 20⟩] },
    { offset := 34, tag := .subrangeType, parent := some 30, attributes := [extent] }]

theorem extents_agree_triple :
    let counted := tripleUnit ⟨.count, .udata, .unsigned 3⟩
    let spanned := tripleUnit ⟨.upperBound, .udata, .unsigned 2⟩
    (Outline.build "a.o" [spanned] "void").1 = (Outline.build "a.o" [counted] "void").1 ∧
      ((Outline.build "a.o" [counted] "void").1.node 3).name = "int [3]" := by
  intro counted spanned
  have counts : Counts ⟨34, .subrangeType, some 30, [⟨.count, .udata, .unsigned 3⟩]⟩ 0 3 :=
    ⟨.inr ⟨rfl, rfl⟩, .udata, rfl⟩
  have spans : Spans ⟨34, .subrangeType, some 30, [⟨.upperBound, .udata, .unsigned 2⟩]⟩ 0 2 :=
    ⟨.inr ⟨rfl, rfl⟩, rfl, .udata, rfl⟩
  have agree := (extents_agree_iff (by decide) (by decide) counts spans).2.2.2
  refine ⟨agree rfl ⟨rfl, rfl, rfl, fun name common => ?_⟩ rfl "a.o" [counted] "void" 0 3 counted
    rfl rfl, by rw [build_eq_buildBySearch]; decide +kernel⟩
  simp only [List.mem_cons, not_or] at common
  simp [Dwarf.Entry.attribute?, Ne.symm common.2.1, Ne.symm common.2.2.1]

/-- Two arrays of four integers with indices from two on, one of them by the number of elements. -/
private def shiftedUnit : UnitRecord where
  entries := #[
    { offset := 11, tag := .compileUnit },
    { offset := 20, tag := .baseType, parent := some 11,
      attributes := [⟨.name, .string, .string "int"⟩] },
    { offset := 30, tag := .arrayType, parent := some 11,
      attributes := [⟨.type, .ref4, .reference 20⟩] },
    { offset := 34, tag := .subrangeType, parent := some 30,
      attributes := [⟨.lowerBound, .udata, .unsigned 2⟩, ⟨.count, .udata, .unsigned 4⟩] },
    { offset := 40, tag := .arrayType, parent := some 11,
      attributes := [⟨.type, .ref4, .reference 20⟩] },
    { offset := 44, tag := .subrangeType, parent := some 40,
      attributes := [⟨.lowerBound, .udata, .unsigned 2⟩, ⟨.upperBound, .udata, .unsigned 5⟩] }]

/-- Where the first index is not zero, one dimension has two texts, and its array two names. -/
theorem extents_differ :
    (¬ ∀ (lower count : UInt64) (byCount byLast : Entry), 0 < count →
      lower.toNat + count.toNat < UInt64.size → byCount.Counts lower count →
      byLast.Spans lower (lower + count - 1) →
      (Reading.bounds byCount).value = (Reading.bounds byLast).value) ∧
    ((Outline.build "a.o" [shiftedUnit] "void").1.node 3).name = "int [6]" ∧
    ((Outline.build "a.o" [shiftedUnit] "void").1.node 5).name = "int [2..5]" := by
  refine ⟨fun agree => ?_, ?_, ?_⟩
  · have same := agree 2 4 shiftedUnit.entries[3] shiftedUnit.entries[5] (by decide) (by decide)
      ⟨.inl ⟨.udata, rfl⟩, .udata, rfl⟩ ⟨.inl ⟨.udata, rfl⟩, rfl, .udata, rfl⟩
    revert same
    decide +kernel
  · rw [build_eq_buildBySearch]
    decide +kernel
  · rw [build_eq_buildBySearch]
    decide +kernel

end Outline

end DebugOutline
