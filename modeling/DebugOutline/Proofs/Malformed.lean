import DebugOutline.Proofs.Pruning

/-! Attributes that say nothing: an entry is not asked for them, or their values are of a class that
is not accepted. Without one of them the outline is the same in every field, and so are the
warnings, but for the one about that attribute in that form. -/
namespace DebugOutline

open Dwarf (Attr Attribute Entry Tag UnitRecord Value)

/-! ### Warnings but for one -/

namespace Warnings

variable {warning : Warning} {few all more : Warnings}

/-- Some warnings are all of them, or all but one. -/
structure SameBut (warning : Warning) (few all : Warnings) : Prop where
  others : few.filter (· != warning) = all.filter (· != warning)
  subset : few ⊆ all

namespace SameBut

theorem refl (warning : Warning) (all : Warnings) : SameBut warning all all :=
  ⟨rfl, List.Subset.refl all⟩

theorem append {rest most : Warnings} (first : SameBut warning few all)
    (second : SameBut warning rest most) : SameBut warning (few ++ rest) (all ++ most) where
  others := by rw [List.filter_append, List.filter_append, first.others, second.others]
  subset := List.append_subset.mpr
    ⟨List.subset_append_of_subset_left _ first.subset,
      List.subset_append_of_subset_right _ second.subset⟩

end SameBut

theorem mem_foldl_add {other : Warning} :
    other ∈ more.foldl Warnings.add all ↔ other ∈ all ∨ other ∈ more := by
  induction more generalizing all with
  | nil => simp
  | cons first rest ih =>
    rw [List.foldl_cons, ih, List.mem_cons]
    have added : other ∈ Warnings.add all first ↔ other ∈ all ∨ other = first := by
      unfold Warnings.add
      split
      · rename_i known
        exact ⟨.inl, fun either => either.elim id fun same => same ▸ known.2⟩
      · simp
    rw [added, or_assoc]

/-- The same holds after more warnings, if these are the same but for the one. -/
theorem SameBut.foldl_add {rest most : Warnings} (before : SameBut warning few all)
    (added : SameBut warning rest most) :
    SameBut warning (rest.foldl Warnings.add few) (most.foldl Warnings.add all) where
  others := by rw [filter_foldl_add, filter_foldl_add, before.others, added.others]
  subset other member := by
    rw [mem_foldl_add] at member ⊢
    exact member.imp (before.subset ·) (added.subset ·)

end Warnings

/-! ### Attributes that say nothing -/

/-- The entry without one of its attributes. -/
def Dwarf.Entry.without (entry : Entry) (given : Attribute) : Entry :=
  { entry with attributes := entry.attributes.erase given }

namespace Reading

/-- Attributes that are accepted with a number, and nothing else. -/
def numbers : List Attr :=
  [.declLine, .declFile, .inlineCode, .accessibility, .byteSize, .lowerBound, .count]

/-- Attributes that are accepted with a flag. -/
def flags : List Attr := [.artificial, .declaration, .external, .enumClass]

/-- Attributes that are accepted with a reference, and nothing else. -/
def references : List Attr := [.type, .importEntry, .specification, .abstractOrigin, .extension]

/-- Whether a value is of a class that is accepted for an attribute. -/
def accepts (name : Attr) : Value → Bool
  | .string _ => name ∈ [.name, .gnuTemplateName]
  | .unsigned _ => name ∈ numbers ++ [.constValue, .upperBound]
  | .signed _ => name = .constValue
  | .flag _ => name ∈ flags
  | .reference _ => name ∈ references ++ [.upperBound]
  | .exprloc => name = .upperBound
  | .block | .unsupported => false

theorem accepts_of_numbers {name : Attr} (number : name ∈ numbers) (value : Value) :
    accepts name value = value.unsigned?.isSome := by
  fin_cases number <;> cases value <;> rfl

theorem accepts_of_flags {name : Attr} (flag : name ∈ flags) (value : Value) :
    accepts name value = value.flag?.isSome := by
  fin_cases flag <;> cases value <;> rfl

theorem accepts_of_references {name : Attr} (reference : name ∈ references) (value : Value) :
    accepts name value = value.reference?.isSome := by
  fin_cases reference <;> cases value <;> rfl

/-- What only entries in that part are asked for. -/
def askedOf (tag : Tag) : Role → List Attr
  | .object .function => [.inlineCode, .declaration, .external]
  | .object .enumType => [.enumClass]
  | .object .member => [.accessibility, .external]
  | .object .variable => [.accessibility]
  | .object .templateParameter =>
    match tag with
    | .templateValueParameter => [.constValue]
    | .templateTemplateParameter => [.gnuTemplateName]
    | _ => []
  | .object .primitiveType => [.byteSize]
  | .auxiliary .subrange => [.lowerBound, .count, .upperBound]
  | .auxiliary .enumerator => [.constValue]
  | .auxiliary .inheritance => [.accessibility]
  | _ => []

/-- What entries in any part are asked for. -/
def askedOfAll : List Attr :=
  [.name, .declLine, .declFile, .artificial, .type, .importEntry, .specification, .abstractOrigin,
    .extension]

/-- The attributes that entries with that tag are asked for. -/
def asked (tag : Tag) : List Attr :=
  match Role.ofTag? tag with
  | some role => askedOfAll ++ askedOf tag role
  | none => []

/-- One of the attributes of an entry, all of different names, that says nothing where only these
names are asked for. Of a specification it matters that it is there. -/
structure Idle (entry : Entry) (given : Attribute) (names : List Attr) : Prop where
  distinct : (entry.attributes.map (·.name)).Nodup
  present : given ∈ entry.attributes
  notSpecification : given.name ≠ .specification
  rejected : given.name ∈ names → accepts given.name given.value = false

/-- Reading gives the same value, and the same warnings but for one. -/
structure SameBut (warning : Warning) (reading other : Reading α) : Prop where
  value : reading.value = other.value
  warnings : Warnings.SameBut warning reading.warnings other.warnings

theorem SameBut.refl (warning : Warning) (reading : Reading α) : SameBut warning reading reading :=
  ⟨rfl, .refl warning _⟩

theorem SameBut.bind {warning : Warning} {reading other : Reading α} {next also : α → Reading β}
    (first : SameBut warning reading other)
    (second : ∀ value, SameBut warning (next value) (also value)) :
    SameBut warning (reading >>= next) (other >>= also) where
  value := by rw [value_bind, value_bind, first.value, (second _).value]
  warnings := by
    rw [warnings_bind, warnings_bind, first.value]
    exact first.warnings.append (second _).warnings

/-- What is made of the value does not matter. -/
theorem SameBut.map {warning : Warning} {reading other : Reading α}
    (same : SameBut warning reading other) (f : α → β) :
    SameBut warning (do return f (← reading)) (do return f (← other)) :=
  same.bind fun _ => .refl warning _

namespace Idle

variable {entry : Entry} {given : Attribute} {names : List Attr}

theorem mono {fewer : List Attr} (idle : Idle entry given names) (subset : fewer ⊆ names) :
    Idle entry given fewer :=
  { idle with rejected := fun asked => idle.rejected (subset asked) }

theorem eq_given (idle : Idle entry given names) {other : Attribute}
    (member : other ∈ entry.attributes) (same : other.name = given.name) : other = given :=
  List.inj_on_of_nodup_map idle.distinct member idle.present same

theorem attribute?_given (idle : Idle entry given names) :
    entry.attribute? given.name = some given := by
  cases found : entry.attribute? given.name with
  | none => simpa using List.find?_eq_none.mp found given idle.present
  | some other =>
    have same : other.name = given.name := by simpa using List.find?_some found
    rw [idle.eq_given (List.mem_of_find?_eq_some found) same]

theorem attribute?_without (idle : Idle entry given names) (name : Attr) :
    (entry.without given).attribute? name =
      if name = given.name then none else entry.attribute? name := by
  have erased : entry.attributes.erase given = entry.attributes.filter (· != given) :=
    List.Nodup.erase_eq_filter (.of_map _ idle.distinct) given
  unfold Dwarf.Entry.attribute? Dwarf.Entry.without
  rw [erased, List.find?_filter]
  split
  · rename_i own
    refine List.find?_eq_none.mpr fun other member named => ?_
    obtain ⟨kept, same⟩ : other ≠ given ∧ other.name = name := by simpa using named
    exact kept (idle.eq_given member (same.trans own))
  · rename_i apart
    refine List.find?_congr fun other member => ?_
    by_cases named : other.name = name
    · have kept : other ≠ given := fun same => apart (by rw [← named, same])
      simp [kept, named]
    · simp [named]

/-- What is read without an attribute is the same but for the warning about it. -/
abbrev Same (entry : Entry) (given : Attribute) (read : Entry → Reading α) : Prop :=
  SameBut (.unexpectedForm given.name given.form) (read (entry.without given)) (read entry)

theorem same_accepted (idle : Idle entry given names) {name : Attr} {accept : Value → Option α}
    (asked : name ∈ names)
    (suits : ∀ value, accepts name value = (accept value).isSome) :
    Same entry given fun entry => accepted entry name accept := by
  by_cases own : name = given.name
  · subst own
    have rejected : accept given.value = none := by
      rw [← Option.not_isSome_iff_eq_none, ← suits, idle.rejected asked]
      decide
    unfold Same accepted
    dsimp only
    rw [idle.attribute?_without, if_pos rfl, idle.attribute?_given]
    dsimp only
    rw [rejected]
    exact ⟨rfl, by simp, by simp⟩
  · unfold Same accepted
    dsimp only
    rw [idle.attribute?_without, if_neg own]
    exact .refl _ _

theorem same_unsigned (idle : Idle entry given names) {name : Attr} (asked : name ∈ names)
    (number : name ∈ numbers) : Same entry given (unsigned · name) :=
  idle.same_accepted asked (accepts_of_numbers number)

theorem same_flag (idle : Idle entry given names) {name : Attr} (asked : name ∈ names)
    (flag : name ∈ flags) : Same entry given (Reading.flag · name) :=
  (idle.same_accepted asked (accepts_of_flags flag)).map fun value => value == some true

theorem same_firstReference {several : List Attr} (idle : Idle entry given names)
    (asked : several ⊆ names) (only : several ⊆ references) :
    Same entry given (firstReference · several) := by
  induction several with
  | nil => exact .refl _ _
  | cons name rest ih =>
    obtain ⟨first, later⟩ := List.cons_subset.mp asked
    obtain ⟨reference, others⟩ := List.cons_subset.mp only
    refine (idle.same_accepted first (accepts_of_references reference)).bind fun found => ?_
    cases found with
    | none => exact ih later others
    | some offset => exact .refl _ _

theorem same_access (idle : Idle entry given names) (asked : .accessibility ∈ names) :
    Same entry given access :=
  (idle.same_unsigned asked (by decide)).bind fun _ => .refl _ _

theorem same_constant (idle : Idle entry given names) (asked : .constValue ∈ names) :
    Same entry given constant :=
  idle.same_accepted asked fun value => by cases value <;> rfl

theorem same_function (idle : Idle entry given [.inlineCode, .declaration, .external]) :
    Same entry given function := by
  have referred : (entry.without given).has .specification = entry.has .specification := by
    rw [Dwarf.Entry.has, Dwarf.Entry.has, idle.attribute?_without,
      if_neg idle.notSpecification.symm]
  unfold Same function
  refine (idle.same_unsigned (by decide) (by decide)).bind fun inline => ?_
  refine (idle.same_flag (by decide) (by decide)).bind fun declared => ?_
  rw [referred]
  split
  · exact .refl _ _
  · exact (idle.same_flag (by decide) (by decide)).bind fun _ => .refl _ _

theorem same_templateArgument
    (idle : Idle entry given (askedOf entry.tag (.object .templateParameter))) :
    Same entry given templateArgument := by
  have tag : (entry.without given).tag = entry.tag := rfl
  unfold askedOf at idle
  unfold Same templateArgument
  rw [tag]
  split
  · rename_i value
    rw [value] at idle
    exact (idle.same_constant (by decide)).bind fun _ => .refl _ _
  · rename_i template
    rw [template] at idle
    refine (idle.same_accepted (by decide) fun value => ?_).bind fun _ => .refl _ _
    cases value <;> rfl
  · exact .refl _ _
  · exact .refl _ _

theorem same_bounds (idle : Idle entry given [.lowerBound, .count, .upperBound]) :
    Same entry given bounds := by
  unfold Same bounds
  refine (idle.same_unsigned (by decide) (by decide)).bind fun lower => ?_
  refine (idle.same_unsigned (by decide) (by decide)).bind fun count => ?_
  refine (idle.same_accepted (by decide) fun value => ?_).bind fun _ => .refl _ _
  cases value <;> rfl

theorem same_detail {kind : Kind} (idle : Idle entry given (askedOf entry.tag (.object kind)))
    (inAggregate : Bool) : Same entry given (detail · kind inAggregate) := by
  cases kind with
  | function => exact idle.same_function.bind fun _ => .refl _ _
  | enumType =>
    have own : Idle entry given [.enumClass] := idle
    exact (own.same_flag (by decide) (by decide)).bind fun _ => .refl _ _
  | member =>
    have own : Idle entry given [.accessibility, .external] := idle
    refine (own.same_access (by decide)).bind fun access => ?_
    cases inAggregate with
    | false => exact .refl _ _
    | true => exact (own.same_flag (by decide) (by decide)).bind fun _ => .refl _ _
  | «variable» =>
    have own : Idle entry given [.accessibility] := idle
    cases inAggregate with
    | false => exact .refl _ _
    | true => exact (own.same_access (by decide)).bind fun _ => .refl _ _
  | templateParameter => exact idle.same_templateArgument.bind fun _ => .refl _ _
  | primitiveType =>
    have own : Idle entry given [.byteSize] := idle
    exact (own.same_unsigned (by decide) (by decide)).bind fun _ => .refl _ _
  | _ => exact .refl _ _

theorem ownName_without (idle : Idle entry given names) (asked : .name ∈ names) (kind : Kind) :
    ownName (entry.without given) kind = ownName entry kind := by
  unfold ownName
  rw [idle.attribute?_without]
  by_cases own : Attr.name = given.name
  · have rejected := idle.rejected (own ▸ asked)
    rw [if_pos own, own, idle.attribute?_given]
    obtain ⟨name, form, value⟩ := given
    cases own
    cases value with
    | string text => cases rejected
    | _ => rfl
  · rw [if_neg own]

theorem same_node (unit : UnitRecord) (unitIndex : Nat) {role : Role}
    (idle : Idle entry given (askedOfAll ++ askedOf entry.tag role)) (inAggregate : Bool) :
    Same entry given (node unit unitIndex · role inAggregate) := by
  have always : Idle entry given askedOfAll := idle.mono (List.subset_append_left _ _)
  have own : Idle entry given (askedOf entry.tag role) := idle.mono (List.subset_append_right _ _)
  unfold Same node
  dsimp only
  rw [always.ownName_without (by decide)]
  refine (always.same_unsigned (by decide) (by decide)).bind fun line => ?_
  refine (always.same_unsigned (by decide) (by decide)).bind fun file => ?_
  refine (always.same_flag (by decide) (by decide)).bind fun generated => ?_
  refine (always.same_firstReference (by decide) (by decide)).bind fun typeOffset => ?_
  refine (always.same_firstReference (by decide) (by decide)).bind fun referenceOffset => ?_
  cases role with
  | object kind => exact (own.same_detail inAggregate).bind fun _ => .refl _ _
  | auxiliary form =>
    cases form with
    | subrange => exact own.same_bounds.bind fun _ => .refl _ _
    | enumerator => exact (own.same_constant List.mem_cons_self).bind fun _ => .refl _ _
    | inheritance => exact (own.same_access List.mem_cons_self).bind fun _ => .refl _ _
    | _ => exact .refl _ _

end Idle

end Reading

/-! ### One entry after another -/

namespace Draft

open Reading (Idle asked askedOf askedOfAll accepts)

variable {warning : Warning} {few all : Draft} {outline : Outline} {unit : UnitRecord}
  {unitIndex parent : Nat} {entry shorter : Entry} {given : Attribute} {role : Role}
  {names : List Attr}

/-- Whatever part an entry plays, its tag tells what it is asked for. -/
theorem asked_of_roleUnder? (known : roleUnder? outline entry parent = some role) :
    askedOfAll ++ askedOf entry.tag role ⊆ asked entry.tag := by
  unfold asked
  unfold roleUnder? at known
  split at known
  · rename_i parameter
    rw [parameter]
    split at known <;> cases known <;> exact List.Subset.refl _
  · rw [known]
    exact List.Subset.refl _

/-- Two drafts with the same outline, and the same warnings but for one. -/
structure SameBut (warning : Warning) (few all : Draft) : Prop where
  outline : few.outline = all.outline
  dropped : few.dropped = all.dropped
  warnings : Warnings.SameBut warning few.warnings all.warnings

/-- Two entries at one place that are read the same in whatever part they play. -/
structure Alike (warning : Warning) (shorter entry : Entry) : Prop where
  offset : shorter.offset = entry.offset
  tag : shorter.tag = entry.tag
  parent : shorter.parent = entry.parent
  read : ∀ unit unitIndex outline parent role inAggregate,
    roleUnder? outline entry parent = some role →
    Reading.SameBut warning (Reading.node unit unitIndex shorter role inAggregate)
      (Reading.node unit unitIndex entry role inAggregate)

theorem Alike.refl (warning : Warning) (entry : Entry) : Alike warning entry entry :=
  ⟨rfl, rfl, rfl, fun _ _ _ _ _ _ _ => .refl warning _⟩

theorem alike_without (idle : Idle entry given (asked entry.tag)) :
    Alike (.unexpectedForm given.name given.form) (entry.without given) entry where
  offset := rfl
  tag := rfl
  parent := rfl
  read unit unitIndex _ _ _ inAggregate known :=
    (idle.mono (asked_of_roleUnder? known)).same_node unit unitIndex inAggregate

namespace SameBut

theorem refl (warning : Warning) (draft : Draft) : SameBut warning draft draft :=
  ⟨rfl, rfl, .refl warning _⟩

theorem warn {rest most : List Warning} (same : SameBut warning few all)
    (added : Warnings.SameBut warning rest most) :
    SameBut warning (few.warn rest) (all.warn most) :=
  ⟨same.outline, same.dropped, same.warnings.foldl_add added⟩

/-- One entry keeps what is the same, and is placed at one place by both. -/
theorem addEntry (same : SameBut warning few all) (alike : Alike warning shorter entry)
    (unit : UnitRecord) (unitIndex : Nat) (currentUnit : Option NodeId) :
    SameBut warning (Draft.addEntry unit unitIndex (few, currentUnit) shorter).1
        (Draft.addEntry unit unitIndex (all, currentUnit) entry).1 ∧
      (Draft.addEntry unit unitIndex (few, currentUnit) shorter).2 =
        (Draft.addEntry unit unitIndex (all, currentUnit) entry).2 := by
  have nested : shorter.parent.any few.dropped.contains = entry.parent.any all.dropped.contains := by
    rw [alike.parent, same.dropped]
  cases outside : entry.parent.any all.dropped.contains with
  | true =>
    rw [addEntry_nested outside, addEntry_nested (nested.trans outside)]
    refine ⟨⟨same.outline, ?_, same.warnings⟩, rfl⟩
    rw [drop, drop, same.dropped, alike.offset]
  | false =>
    have parent : parentOf few.outline shorter currentUnit =
        parentOf all.outline entry currentUnit := by
      simp only [parentOf, fallbackParent, same.outline, alike.parent, alike.tag]
    have roles : roleUnder? few.outline shorter (parentOf all.outline entry currentUnit) =
        roleUnder? all.outline entry (parentOf all.outline entry currentUnit) := by
      simp only [roleUnder?, same.outline, alike.tag]
    cases known : roleUnder? all.outline entry (parentOf all.outline entry currentUnit) with
    | none =>
      have unknown := ofTag?_of_roleUnder? known
      rw [addEntry_unknown outside unknown,
        addEntry_unknown (nested.trans outside) (alike.tag ▸ unknown), alike.tag]
      have warned := same.warn (.refl warning [.unknownTag entry.tag])
      refine ⟨⟨warned.outline, ?_, warned.warnings⟩, rfl⟩
      rw [drop, drop, warned.dropped, alike.offset]
    | some role =>
      have read := alike.read unit unitIndex all.outline _ role
        (all.outline.node (parentOf all.outline entry currentUnit)).kind.isAggregate known
      rw [addEntry_known unit unitIndex outside rfl known,
        addEntry_known unit unitIndex (nested.trans outside) parent (roles.trans known),
        same.outline]
      refine ⟨⟨?_, same.dropped, (same.warn read.warnings).warnings⟩, rfl⟩
      rw [place, place, read.value]

theorem addEntries (entries : List Entry) {state other : Draft × Option NodeId}
    (same : SameBut warning state.1 other.1) (current : state.2 = other.2) :
    SameBut warning (entries.foldl (Draft.addEntry unit unitIndex) state).1
      (entries.foldl (Draft.addEntry unit unitIndex) other).1 := by
  induction entries generalizing state other with
  | nil => exact same
  | cons entry rest ih =>
    obtain ⟨few, currentUnit⟩ := state
    obtain ⟨all, _⟩ := other
    cases current
    obtain ⟨next, also⟩ := same.addEntry (.refl warning entry) unit unitIndex currentUnit
    exact ih next also

theorem addUnit (same : SameBut warning few all) (unit : UnitRecord) (unitIndex : Nat) :
    SameBut warning (few.addUnit unit unitIndex) (all.addUnit unit unitIndex) := by
  rw [Draft.addUnit, Draft.addUnit, ← Array.foldl_toList, ← Array.foldl_toList]
  exact addEntries unit.entries.toList same rfl

theorem addUnits (same : SameBut warning few all) (units : List UnitRecord) (position : Nat) :
    SameBut warning (few.addUnits units position) (all.addUnits units position) := by
  induction units generalizing few all position with
  | nil => exact same
  | cons unit rest ih => exact ih (same.addUnit unit position) (position + 1)

theorem warnOfNothing (same : SameBut warning few all) :
    SameBut warning few.warnOfNothing all.warnOfNothing := by
  unfold Draft.warnOfNothing
  rw [same.outline]
  split
  · exact same.warn (.refl warning _)
  · exact same

end SameBut

private theorem exists_parts {list : List α} {position : Nat} {item : α}
    (there : list[position]? = some item) : ∃ before after, list = before ++ item :: after ∧
      ∀ other, list.set position other = before ++ other :: after := by
  obtain ⟨inside, rfl⟩ := List.getElem?_eq_some_iff.mp there
  refine ⟨list.take position, list.drop (position + 1), ?_, fun other => ?_⟩
  · rw [List.cons_getElem_drop_succ, List.take_append_drop]
  · rw [List.set_eq_take_append_cons_drop, if_pos inside]

/-- A unit with an entry that lacks an attribute. -/
theorem sameBut_addUnit {position : Nat} (alike : Alike warning shorter entry)
    (there : unit.entries[position]? = some entry) (draft : Draft) (unitIndex : Nat) :
    SameBut warning
      (draft.addUnit { unit with entries := unit.entries.setIfInBounds position shorter } unitIndex)
      (draft.addUnit unit unitIndex) := by
  rw [← Array.getElem?_toList] at there
  obtain ⟨before, after, whole, replaced⟩ := exists_parts there
  rw [Draft.addUnit, Draft.addUnit, ← Array.foldl_toList, ← Array.foldl_toList,
    Array.toList_setIfInBounds, replaced, whole, List.foldl_append, List.foldl_append]
  obtain ⟨next, also⟩ := (SameBut.refl warning _).addEntry alike unit unitIndex
    (before.foldl (Draft.addEntry unit unitIndex) (draft, none)).2
  exact next.addEntries after also

/-- All units, where an entry of one of them lacks an attribute. -/
theorem sameBut_ofUnits (input : String) {units : List UnitRecord} {index position : Nat}
    (alike : Alike warning shorter entry) (recorded : units[index]? = some unit)
    (there : unit.entries[position]? = some entry) :
    SameBut warning
      (ofUnits input (units.set index
        { unit with entries := unit.entries.setIfInBounds position shorter }))
      (ofUnits input units) := by
  obtain ⟨before, after, whole, replaced⟩ := exists_parts recorded
  rw [ofUnits_eq, ofUnits_eq, replaced, whole, addUnits_append, addUnits_append]
  exact ((sameBut_addUnit alike there _ _).addUnits after _).warnOfNothing

end Draft

namespace Outline

open Reading (Idle asked accepts)

/-- An attribute that is not asked for, or has a value of a class that is not accepted, is as good
as none: without it no field of the outline is different, and no warning but the one about that
attribute in that form. -/
theorem build_without (input : String) (units : List UnitRecord) (void : String)
    (index position : Nat) (unit : UnitRecord) (entry : Entry) (given : Attribute)
    (recorded : units[index]? = some unit) (there : unit.entries[position]? = some entry)
    (distinct : (entry.attributes.map (·.name)).Nodup) (present : given ∈ entry.attributes)
    (notSpecification : given.name ≠ .specification)
    (rejected : given.name ∈ asked entry.tag → accepts given.name given.value = false) :
    let shorter := units.set index
      { unit with entries := unit.entries.setIfInBounds position (entry.without given) }
    (Outline.build input shorter void).1 = (Outline.build input units void).1 ∧
      Warnings.SameBut (.unexpectedForm given.name given.form)
        (Outline.build input shorter void).2 (Outline.build input units void).2 := by
  intro shorter
  have idle : Idle entry given (asked entry.tag) := ⟨distinct, present, notSpecification, rejected⟩
  have same := Draft.sameBut_ofUnits input (Draft.alike_without idle) recorded there
  refine ⟨?_, same.warnings⟩
  rw [build_fst, build_fst, same.outline]

/-- A namespace that is imported by an entry with a number for a type. -/
private def importingUnit : UnitRecord where
  entries := #[
    { offset := 11, tag := .compileUnit, attributes := [⟨.name, .string, .string "a.cpp"⟩] },
    { offset := 20, tag := .namespaceEntry, attributes := [⟨.name, .string, .string "n"⟩] },
    { offset := 30, tag := .importedModule,
      attributes := [⟨.type, .udata, .unsigned 20⟩, ⟨.importEntry, .ref4, .reference 20⟩] }]

theorem build_without_number :
    let importing : Entry :=
      { offset := 30, tag := .importedModule, attributes := [⟨.importEntry, .ref4, .reference 20⟩] }
    let shorter : UnitRecord :=
      { importingUnit with entries := importingUnit.entries.setIfInBounds 2 importing }
    (Outline.build "a.o" [shorter] "void").1 = (Outline.build "a.o" [importingUnit] "void").1 ∧
      Warnings.SameBut (.unexpectedForm .type .udata)
        (Outline.build "a.o" [shorter] "void").2 (Outline.build "a.o" [importingUnit] "void").2 ∧
      (Outline.build "a.o" [importingUnit] "void").2 = [.unexpectedForm .type .udata] ∧
      (Outline.build "a.o" [shorter] "void").2 = [] := by
  intro importing shorter
  obtain ⟨same, warnings⟩ := build_without "a.o" [importingUnit] "void" 0 2 importingUnit _
    ⟨.type, .udata, .unsigned 20⟩ rfl rfl (by decide) (by decide) (by decide) (by decide)
  exact ⟨same, warnings, by decide +kernel, by decide +kernel⟩

end Outline

end DebugOutline
