import DebugOutline.Proofs.Described
import DebugOutline.Proofs.Lines

/-! The fields of one object. If no text of the outline has a line feed, they are lines with the
same seven keys in the same order for every kind, less the key of the children, and only the first
one says what kind of object it is. -/
namespace DebugOutline

open Dwarf (UnitRecord)

/-! ### The texts of an outline -/

def SourceFile.texts : SourceFile → List String
  | .path text => [text]
  | _ => []

/-- The values that stand for themselves in a document. -/
def Detail.values : Detail → List String
  | .templateParameter (.value literal) => literal.toList
  | .enumerator value => [value]
  | _ => []

def Detail.texts : Detail → List String
  | .templateParameter (.template name) => name.toList
  | detail => detail.values

/-- The texts that an object has: its name with what qualifies it, its file, and its details. -/
def Node.texts (node : Node) : List String :=
  node.name :: node.qualifier :: (node.file.texts ++ node.detail.texts)

/-- Every value is a number. -/
def Detail.IsNumeric (detail : Detail) : Prop := ∀ value ∈ detail.values, Text.IsNumeral value

namespace Outline

/-- No text has a line feed. -/
def FeedFree (outline : Outline) : Prop :=
  ∀ node ∈ outline.nodes, ∀ text ∈ node.texts, '\n' ∉ text.toList

variable {outline : Outline}

theorem FeedFree.node (feedFree : outline.FeedFree) (id : Nat) :
    ∀ text ∈ (outline.node id).texts, '\n' ∉ text.toList := by
  by_cases inside : id < outline.nodes.size
  · have present : outline.node id ∈ outline.nodes := by
      unfold Outline.node
      rw [Array.getD_eq_getD_getElem?, Array.getElem?_eq_getElem inside]
      exact Array.getElem_mem inside
    exact feedFree _ present
  · rw [node_of_size_le (Nat.le_of_not_lt inside)]
    decide

theorem FeedFree.sort (feedFree : outline.FeedFree) (key : SortKey) :
    (outline.sort key).FeedFree := by
  intro node member
  obtain ⟨before, present, rfl⟩ := Array.mem_map.mp member
  exact feedFree before present

end Outline

/-! ### Values -/

theorem Detail.values_shape (detail : Detail) : detail.shape.values = detail.values := by
  cases detail <;> rfl

namespace Reading

theorem isNumeral_of_constant {entry : Dwarf.Entry} {literal : String}
    (read : (constant entry).value = some literal) : Text.IsNumeral literal := by
  have accepted {value : Dwarf.Value} (text : value.integerText? = some literal) :
      Text.IsNumeral literal := by
    unfold Dwarf.Value.integerText? at text
    split at text
    · exact Option.some.inj text ▸ .decimal _
    · exact Option.some.inj text ▸ .signedDecimal _
    · cases text
  unfold constant Reading.accepted at read
  split at read
  · cases read
  · split at read
    · rename_i found
      exact accepted (found.trans read)
    · cases read

theorem isNumeric_detail (entry : Dwarf.Entry) (kind : Kind) (inAggregate : Bool) :
    (detail entry kind inAggregate).value.IsNumeric := by
  have none {detail : Detail} (empty : detail.values = []) : detail.IsNumeric := by
    simp [Detail.IsNumeric, empty]
  unfold detail
  cases kind
  case templateParameter =>
    simp only [value_bind, value_pure]
    unfold templateArgument
    split
    · intro literal read
      exact isNumeral_of_constant (Option.mem_toList.mp read)
    all_goals exact none rfl
  case parameter =>
    dsimp only [value_pure]
    split <;> exact none rfl
  case «variable» => cases inAggregate <;> exact none rfl
  case member => cases inAggregate <;> exact none rfl
  all_goals exact none rfl

theorem isNumeric_node (unit : UnitRecord) (unitIndex : Nat) (entry : Dwarf.Entry) (role : Role)
    (inAggregate : Bool) : (node unit unitIndex entry role inAggregate).value.detail.IsNumeric := by
  cases role with
  | object kind => exact isNumeric_detail entry kind inAggregate
  | auxiliary form =>
    cases form
    case enumerator =>
      intro value member
      have given : value = (constant entry).value.getD "" := List.mem_singleton.mp member
      rw [given]
      cases read : (constant entry).value with
      | none => simp [Text.IsNumeral]
      | some literal => exact isNumeral_of_constant read
    all_goals exact fun _ none => absurd none List.not_mem_nil

end Reading

namespace Outline

variable {outline : Outline}

/-- The values of a built outline were all read as numbers. -/
theorem isNumeric_build (input : String) (units : List UnitRecord) (void : String) (id : NodeId) :
    ((build input units void).1.node id).detail.IsNumeric := by
  have noValue : ∀ value ∈ ([] : List String), Text.IsNumeral value := by simp
  have described := (Draft.everywhere_ofUnits (fun node => node.detail.IsNumeric) input units
    (fun a b same numeric => by
      simp only [Node.withoutPlace, Node.mk.injEq] at same
      simpa [same] using numeric)
    noValue noValue (fun _ _ _ => noValue) Reading.isNumeric_node).node id
  have kept := keeps_shape_finish (Draft.ofUnits input units).outline void
  obtain ⟨-, shape⟩ := Prod.mk.inj (kept.node id)
  rw [build_fst]
  unfold Detail.IsNumeric at described ⊢
  rwa [← Detail.values_shape, shape, Detail.values_shape]

end Outline

/-! ### Texts without line feeds -/

namespace Text

variable {c : Char} {first second separator : String} {parts : List String}

theorem not_mem_append (before : c ∉ first.toList) (after : c ∉ second.toList) :
    c ∉ (first ++ second).toList := by
  simp [before, after]

theorem not_mem_intercalate (between : c ∉ separator.toList)
    (each : ∀ part ∈ parts, c ∉ part.toList) :
    c ∉ (String.intercalate separator parts).toList := by
  induction parts with
  | nil => simp
  | cons part parts ih =>
    obtain ⟨own, each⟩ := List.forall_mem_cons.mp each
    cases parts with
    | nil => simpa using own
    | cons next parts =>
      rw [String.intercalate_cons_cons]
      exact not_mem_append (not_mem_append own between) (ih each)

end Text

theorem mem_of_mem_splitOn {α : Type} [BEq α] [LawfulBEq α] {item separator : α}
    {items part : List α} (cut : part ∈ items.splitOn separator) (member : item ∈ part) :
    item ∈ items := by
  have joined {parts : List (List α)} (cut : part ∈ parts) :
      item ∈ List.intercalate [separator] parts := by
    induction parts with
    | nil => cases cut
    | cons head parts ih =>
      cases parts with
      | nil => simpa [← List.mem_singleton.mp cut] using member
      | cons next parts =>
        rw [List.intercalate_cons_cons, List.mem_append, List.mem_append]
        rcases List.mem_cons.mp cut with rfl | later
        · exact .inl (.inl member)
        · exact .inr (ih later)
  have whole : List.intercalate [separator] (items.splitOn separator) = items :=
    List.intercalate_splitOn separator
  rw [← whole]
  exact joined cut

namespace SourceFile

/-- A file is shown by a part of its path. -/
theorem not_mem_displayName? {file : SourceFile} {c : Char} (unknown : c ≠ '?')
    (absent : ∀ text ∈ file.texts, c ∉ text.toList) :
    ∀ shown ∈ file.displayName?, c ∉ shown.toList := by
  intro shown named
  have unnamed : c ∉ "?".toList := by simpa using unknown
  cases file with
  | none => cases named
  | invalid => exact Option.some.inj named ▸ unnamed
  | path text =>
    have whole := absent text List.mem_cons_self
    have base : c ∉ ((Path.baseName? text).getD text).toList := by
      cases found : Path.baseName? text with
      | none => exact whole
      | some base =>
        obtain ⟨last, -⟩ := Option.filter_eq_some_iff.mp found
        have component := (List.mem_filter.mp (List.mem_of_getLast? last)).1
        obtain ⟨part, cut, rfl⟩ := List.mem_map.mp component
        intro member
        rw [Option.getD_some, String.toList_ofList] at member
        exact whole (mem_of_mem_splitOn cut member)
    dsimp only [displayName?] at named
    rw [← Option.some.inj named]
    split
    · exact unnamed
    · exact base

end SourceFile

/-- No tag is displayed with a line feed. -/
theorem Dwarf.Tag.noFeed_display (tag : Dwarf.Tag) : '\n' ∉ tag.display.toList := by
  have plain {letters : List Char} (absent : letters.contains '\n' = false) :
      '\n' ∉ (String.ofList letters).toList := by simpa using absent
  have names : ∀ known ∈ tagNames, '\n' ∉ known.2.toList := by
    unfold tagNames
    repeat' refine List.forall_mem_cons.mpr ⟨plain (by decide), ?_⟩
    exact List.forall_mem_nil _
  unfold display
  cases found : tagNames.lookup tag.code with
  | some name =>
    obtain ⟨before, after, split, -⟩ := List.lookup_eq_some_iff.mp found
    exact Text.not_mem_append (plain (by decide)) (names (tag.code, name) (by simp [split]))
  | none =>
    refine Text.not_mem_append (plain (by decide)) (Text.not_mem_append ?_ (Text.IsLine.hex _).1)
    simp

namespace Outline

variable {outline : Outline}

namespace FeedFree

variable (feedFree : outline.FeedFree)
include feedFree

theorem name (id : Nat) : '\n' ∉ (outline.node id).name.toList :=
  feedFree.node id _ List.mem_cons_self

theorem qualifier (id : Nat) : '\n' ∉ (outline.node id).qualifier.toList :=
  feedFree.node id _ (by simp [Node.texts])

theorem qualifiedName (id : Nat) : '\n' ∉ (outline.node id).qualifiedName.toList :=
  Text.not_mem_append (feedFree.qualifier id) (feedFree.name id)

theorem file (id : Nat) : ∀ shown ∈ (outline.node id).file.displayName?, '\n' ∉ shown.toList :=
  SourceFile.not_mem_displayName? (by decide) fun text member =>
    feedFree.node id text (by simp [Node.texts, member])

theorem scopePath (id : Nat) : '\n' ∉ (outline.scopePath id).toList := by
  refine Text.not_mem_intercalate (by decide) fun part member => ?_
  obtain ⟨named, -⟩ := List.mem_filter.mp (List.mem_reverse.mp member)
  obtain ⟨scope, -, rfl⟩ := List.mem_map.mp named
  exact feedFree.name scope

theorem usingName (id : Nat) : '\n' ∉ (outline.usingName id).toList := by
  unfold Outline.usingName Outline.type?
  cases (outline.node id).typeId with
  | none => exact feedFree.name id
  | some target =>
    have own := feedFree.name target
    have joined (scope : Nat) :
        '\n' ∉ (outline.scopePath scope ++ "::" ++ (outline.node target).name).toList :=
      Text.not_mem_append (Text.not_mem_append (feedFree.scopePath scope) (by decide)) own
    dsimp only [Option.map_some]
    cases (outline.node target).parent with
    | none => exact own
    | some parent =>
      cases ends : (outline.node parent).kind.endsScopes with
      | true => simpa [ends] using own
      | false =>
        by_cases unnamed : outline.scopePath parent = ""
        · simpa [ends, unnamed] using own
        · simpa [ends, unnamed] using joined parent

end FeedFree

namespace Document

/-! ### Lines of the fields -/

theorem Listing.bool {start : List Char} (settled : isNested start = true) (value : Bool)
    {lines : List String} (others : Listing [] lines) :
    Listing [] ((String.ofList start ++ Scalar.bool value) :: lines) :=
  .nested settled (.bool value) others

theorem isLine_numberOrNull (value : UInt64) : Text.IsLine (numberOrNull value) := by
  unfold numberOrNull
  split
  · exact .spelled _ (by decide)
  · exact .decimal _

theorem isLine_quoted_effective (access : Access) (inClass : Bool) :
    Text.IsLine (access.effective inClass ++ "\"") := by
  cases access <;> cases inClass <;> exact .append (.spelled _ (by decide)) (.spelled _ (by decide))

theorem listing_source {line file : String} (lineText : Text.IsLine line)
    (fileText : Text.IsLine file) : Listing ["source"] (source line file) :=
  .bare (by decide) (.nested (by decide) lineText (.nested (by decide) fileText .nil))

theorem listing_dwarfOf (node : Node) : Listing ["dwarf"] (dwarfOf node) := by
  refine .bare (by decide) (.nested (by decide) (.hex _)
    (.nested (by decide) (.ofOption fun shown named => ?_) .nil))
  obtain ⟨tag, -, rfl⟩ := Option.map_eq_some_iff.mp named
  exact tag.noFeed_display

theorem listing_attributesField {items : List String} (listed : Listing [] items) :
    Listing ["attributes"] (attributesField items) := by
  unfold attributesField
  split
  · exact .bare (by decide) .nil
  · exact .bare (by decide) listed

theorem listing_listOf {start : List Char} (settled : isNested start = true)
    {items : List String} (listed : Listing [] items) :
    Listing [] (listOf (String.ofList start) items) := by
  unfold listOf
  split
  · exact .nested settled (.spelled _ (by decide)) .nil
  · exact .bareNested settled listed

/-- An item of a list is no object unless it starts with the letter that objects start with. -/
structure IsItem (item : String) : Prop where
  line : Text.IsLine item
  other : item.toList.head? ≠ some 'o'

namespace IsItem

theorem null : IsItem "null" := ⟨by decide, by decide⟩

theorem quote {text : String} (noFeed : '\n' ∉ text.toList) : IsItem (Scalar.quote text) :=
  ⟨.quote noFeed, by simp [Scalar.quote]⟩

theorem orNull {text : String} (noFeed : '\n' ∉ text.toList) : IsItem (Scalar.orNull text) := by
  unfold Scalar.orNull
  split
  · exact .null
  · exact .quote noFeed

theorem numeral {literal : String} (numeral : Text.IsNumeral literal) : IsItem literal := by
  refine ⟨numeral.isLine, fun first => ?_⟩
  have letter := numeral 'o' (List.mem_of_head? first)
  revert letter
  decide

end IsItem

theorem listing_item {item : String} (isItem : IsItem item) :
    Listing [] ["    - " ++ item] := by
  obtain ⟨line, other⟩ := isItem
  have letters : ("    - " ++ item).toList =
      ' ' :: ' ' :: ' ' :: ' ' :: '-' :: ' ' :: item.toList := by
    rw [String.toList_append, String.toList_ofList]
    rfl
  have apart : opensObject ("    - " ++ item) = false := by
    unfold opensObject
    rw [letters]
    cases read : item.toList with
    | nil => decide
    | cons c rest => exact not_opens_third (by simpa [read] using other) rest
  have whole : Text.IsLine ("    - " ++ item) := .append (.spelled _ (by decide)) line
  have none : keyAt 0 ("    - " ++ item) = none := by simp [keyAt, letters, isMargin]
  exact .cons whole (by simp [← String.toList_inj, letters]) apart none .nil

section Fields

variable (feedFree : outline.FeedFree) (id : NodeId)
include feedFree

theorem listing_functionAttributes (info : FunctionInfo) :
    Listing [] (functionAttributes outline id info) := by
  have declared : ∀ shown ∈ (outline.declaringFunction? id).map (·.file.shown),
      '\n' ∉ shown.toList := by
    intro shown named
    obtain ⟨declaration, found, rfl⟩ := Option.map_eq_some_iff.mp named
    obtain ⟨target, -, rfl⟩ := Option.map_eq_some_iff.mp (Option.filter_eq_some_iff.mp found).1
    unfold SourceFile.shown
    cases displayed : (outline.node target).file.displayName? with
    | none => decide
    | some name => exact feedFree.file target name displayed
  have line : Text.IsLine
      (((outline.declaringFunction? id).map fun node => numberOrNull node.line).getD "null") := by
    cases outline.declaringFunction? id with
    | none => exact .spelled _ (by decide)
    | some declaration => exact isLine_numberOrNull _
  unfold functionAttributes
  exact .bareNested (by decide) (.nested (by decide) (.ofOption declared) (.nested (by decide) line
    (.bool (by decide) _ (.bool (by decide) _ (.bool (by decide) _ (.bool (by decide) _
      (.bool (by decide) _ .nil)))))))

theorem listing_classAttributes : Listing [] (classAttributes outline id) := by
  unfold classAttributes
  refine .bool (by decide) _ (listing_listOf (by decide) (.flatMap fun base _ => ?_))
  refine .nested (by decide) (.quote ?_) ?_
  · unfold Outline.type?
    cases (outline.node base).typeId with
    | none => exact (by decide : '\n' ∉ "void".toList)
    | some target => exact feedFree.qualifiedName target
  · rw [String.append_assoc]
    exact .nested (by decide) (isLine_quoted_effective _ _) .nil

omit feedFree in
theorem isLine_enumeratorValue {node : Node} (numeric : node.detail.IsNumeric) :
    Text.IsLine (Layout.enumeratorValue node) := by
  unfold Layout.enumeratorValue
  cases given : node.detail
  case enumerator value =>
    rw [given] at numeric
    exact (numeric value List.mem_cons_self).isLine
  all_goals exact .spelled [] rfl

theorem listing_enumAttributes (numeric : ∀ id, (outline.node id).detail.IsNumeric)
    (isClass : Bool) : Listing [] (enumAttributes outline id isClass) := by
  unfold enumAttributes
  refine .bool (by decide) _ (listing_listOf (by decide) (.flatMap fun enumerator _ => ?_))
  exact .nested (by decide) (.quote (feedFree.name enumerator))
    (.nested (by decide) (isLine_enumeratorValue (numeric enumerator)) .nil)

theorem argument?_item (numeric : ∀ id, (outline.node id).detail.IsNumeric) :
    ∀ item ∈ argument? outline id, IsItem item := by
  intro item shown
  unfold argument? Node.templateArgument? at shown
  have own := feedFree.node id
  have values := numeric id
  unfold Node.texts at own
  cases detailed : (outline.node id).detail
  case templateParameter argument =>
    rw [detailed] at own values shown
    cases argument with
    | type =>
      rw [← Option.some.inj shown]
      unfold Outline.type?
      cases (outline.node id).typeId with
      | none => exact .quote (by decide)
      | some target => exact .orNull (feedFree.qualifiedName target)
    | value literal =>
      rw [← Option.some.inj shown]
      cases literal with
      | none => exact .null
      | some literal => exact .numeral (values literal List.mem_cons_self)
    | template name =>
      rw [← Option.some.inj shown]
      cases name with
      | none => exact .null
      | some name => exact .orNull (own name (by simp [Detail.texts]))
    | pack => cases shown
  all_goals
    rw [detailed] at shown
    cases shown

theorem listing_templateAttributes (numeric : ∀ id, (outline.node id).detail.IsNumeric)
    (argument : TemplateArgument) : Listing [] (templateAttributes outline id argument) := by
  have each {items : List String}
      (shown : ∀ item ∈ items, ∃ id, item ∈ argument? outline id) :
      Listing [] (listOf "  types:" (items.map ("    - " ++ ·))) := by
    refine listing_listOf (by decide) ?_
    rw [List.map_eq_flatMap]
    refine .flatMap fun item member => ?_
    obtain ⟨owner, shown⟩ := shown item member
    exact listing_item (argument?_item feedFree owner numeric item shown)
  unfold templateAttributes
  refine each fun item member => ?_
  split at member
  · obtain ⟨parameter, -, shown⟩ := List.mem_filterMap.mp member
    exact ⟨parameter, shown⟩
  · exact ⟨id, Option.mem_toList.mp member⟩

omit feedFree in
theorem listing_lineAttributes (info : LineInfo) : Listing [] (lineAttributes info) := by
  unfold lineAttributes Layout.lineWords
  simp only [List.map_cons, List.map_nil, String.reduceAppend]
  exact .bool (by decide) _ (.bool (by decide) _ (.bool (by decide) _ (.bool (by decide) _
    (.bool (by decide) _ (.bool (by decide) _ .nil)))))

theorem listing_attributes (numeric : ∀ id, (outline.node id).detail.IsNumeric) :
    Listing [] (attributes outline id) := by
  have functions := listing_functionAttributes feedFree id
  have classes := listing_classAttributes feedFree id
  have enums := listing_enumAttributes feedFree id numeric
  have templates := listing_templateAttributes feedFree id numeric
  have members (access : Access) (inClass : Bool) :
      Listing [] ["  access_specifier: \"" ++ access.effective inClass ++ "\""] := by
    rw [String.append_assoc]
    exact .nested (by decide) (isLine_quoted_effective _ _) .nil
  have blocks (form : BlockForm) : Listing [] ["  try: " ++ Scalar.bool (form == .tryBlock),
      "  catch: " ++ Scalar.bool (form == .catchBlock)] := .bool (by decide) _ (.bool (by decide) _ .nil)
  have unions (isTemplate : Bool) : Listing [] ["  is_template: " ++ Scalar.bool isTemplate] :=
    .bool (by decide) _ .nil
  unfold attributes
  dsimp only
  generalize (outline.node id).detail = detail
  cases (outline.node id).kind
  case function => cases detail <;> first | exact functions _ | exact .nil
  case classType => exact classes
  case structType => exact classes
  case unionType => exact unions _
  case enumType => cases detail <;> first | exact enums _ | exact .nil
  case member => cases detail <;> first | exact members _ _ | exact .nil
  case block => cases detail <;> first | exact blocks _ | exact .nil
  case codeLine => cases detail <;> first | exact listing_lineAttributes _ | exact .nil
  case templateParameter => cases detail <;> first | exact templates _ | exact .nil
  all_goals exact .nil

/-! ### All fields of an object -/

omit feedFree in
theorem listing_object (kind : Kind) {keys lines : List String} (others : Listing keys lines) :
    Listing ("object" :: keys) (("object: \"" ++ kind.name ++ "\"") :: lines) := by
  have named : Text.IsLine kind.name := by
    unfold Kind.name
    cases kind <;> exact .spelled _ (by decide)
  rw [String.append_assoc]
  exact .keyed (by decide) (named.append (.spelled _ (by decide))) others

theorem isLine_typeField : Text.IsLine (typeField outline id) := by
  unfold typeField Outline.type?
  dsimp only
  cases (outline.node id).typeId with
  | none =>
    dsimp only [Option.map_none]
    split
    · exact .quote (by decide)
    · exact .spelled _ (by decide)
  | some target =>
    dsimp only [Option.map_some]
    split
    · exact .spelled _ (by decide)
    · exact .orNull (feedFree.qualifiedName target)

omit feedFree in
theorem isLine_usingWord? : ∀ word ∈ outline.usingWord? id, Text.IsLine word := by
  intro word named
  unfold usingWord? at named
  dsimp only at named
  split at named
  · rw [← Option.some.inj named]
    exact .spelled _ (by decide)
  · obtain ⟨target, -, rfl⟩ := Option.map_eq_some_iff.mp named
    cases target.kind <;> exact .spelled _ (by decide)

theorem listing_primitiveFields :
    Listing ["object", "name", "type", "source", "dwarf", "attributes"]
      (primitiveFields (outline.node id)) := by
  have missing : Text.IsLine "null" := .spelled _ (by decide)
  have first : Listing ["object", "name", "type"] ["object: \"PrimitiveType\"", "name: null",
      "type: " ++ Scalar.orNull (outline.node id).name] :=
    .bare (by decide) (.bare (by decide) (.keyed (by decide) (.orNull (feedFree.name id)) .nil))
  exact ((first.append (listing_source missing missing)).append (listing_dwarfOf _)).append
    (.bare (by decide) (.nested (by decide) (.decimal _) .nil))

theorem listing_sourceOf : Listing ["source"] (sourceOf (outline.node id)) :=
  listing_source (isLine_numberOrNull _) (.ofOption (feedFree.file id))

theorem listing_usingFields : Listing ["object", "name", "type", "source", "dwarf", "attributes"]
    (usingFields outline id) := by
  have first : Listing ["object", "name", "type"] ["object: \"Using\"",
      "name: " ++ Scalar.orNull (outline.usingName id), "type: null"] :=
    .bare (by decide) (.keyed (by decide) (.orNull (feedFree.usingName id)) (.bare (by decide) .nil))
  refine ((first.append (listing_sourceOf feedFree id)).append (listing_dwarfOf _)).append
    (.bare (by decide) (.nested (by decide) ?_ .nil))
  cases known : outline.usingWord? id with
  | none => exact .spelled _ (by decide)
  | some word =>
    have line := isLine_usingWord? id word known
    exact .append (.append (.spelled _ (by decide)) line) (.spelled _ (by decide))

variable (numeric : ∀ id, (outline.node id).detail.IsNumeric)
include numeric

theorem listing_commonFields : Listing ["object", "name", "type", "source", "dwarf", "attributes"]
    (commonFields outline id) := by
  have named {text : String} (noFeed : '\n' ∉ text.toList) : Listing ["object", "name", "type"]
      ["object: \"" ++ (outline.node id).kind.name ++ "\"", "name: " ++ Scalar.orNull text,
        "type: " ++ typeField outline id] :=
    listing_object _ (.keyed (by decide) (.orNull noFeed) (.keyed (by decide) (isLine_typeField feedFree id) .nil))
  unfold commonFields
  refine (((named ?_).append (listing_sourceOf feedFree id)).append (listing_dwarfOf _)).append
    (listing_attributesField (listing_attributes feedFree id numeric))
  split
  · exact Text.not_mem_append (feedFree.qualifier id) (by decide)
  · exact feedFree.qualifiedName id

/-- Objects of every kind have the same keys in the same order. -/
theorem listing_fields : Listing ["object", "name", "type", "source", "dwarf", "attributes"]
    (fields outline id) := by
  unfold fields
  dsimp only
  cases (outline.node id).kind
  case primitiveType => exact listing_primitiveFields feedFree id
  case usingEntry => exact listing_usingFields feedFree id
  all_goals exact listing_commonFields feedFree id numeric

end Fields

/-- The first field of an object says of what kind it is. -/
theorem head?_fields (outline : Outline) (id : NodeId) : (fields outline id).head? =
    some ("object: \"" ++ (outline.node id).kind.name ++ "\"") := by
  have common : (commonFields outline id).head? =
      some ("object: \"" ++ (outline.node id).kind.name ++ "\"") := rfl
  unfold fields
  dsimp only
  cases known : (outline.node id).kind
  case primitiveType => rfl
  case usingEntry => rfl
  all_goals
    rw [known] at common
    exact common

end Document

end Outline

end DebugOutline
