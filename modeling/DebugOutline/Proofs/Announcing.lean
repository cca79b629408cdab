import DebugOutline.Proofs.Columns
import DebugOutline.Proofs.SplitWhole

/-! Under which file an object stands on a page. A page remembers the file that it announced last,
over all selections that are written on it; what it shows is the same as if it looked back, before
each object with a file, for the nearest earlier one, and announced the file unless that had the
same. Objects without a file are passed over in this. -/
namespace DebugOutline

/-- What pages consist of: announcements of files, and objects. -/
inductive PageItem where
  | source (path : String)
  | object (shown : Shown)
  deriving DecidableEq, Repr

namespace PageItem

def source? : PageItem → Option String
  | .source path => some path
  | .object _ => none

def object? : PageItem → Option Shown
  | .source _ => none
  | .object shown => some shown

end PageItem

namespace Layout

/-- The path of the file of an object, if it is known. -/
def path? (layout : Layout) (shown : Shown) : Option String :=
  match (layout.outline.node shown.id).file with
  | .path path => some path
  | _ => none

/-- The file of the last object with a file. -/
def lastPath? (layout : Layout) (written : List Shown) : Option String :=
  (written.filterMap layout.path?).getLast?

/-- The announcement of a file: an empty line, and one with its name. -/
def sourceLines (layout : Layout) (path : String) : List String :=
  ["", Text.blanks layout.leftWidth ++ Text.braced "Source" ++ " " ++
    Text.quote ((SourceFile.path path).displayName?.getD "")]

def itemLines (layout : Layout) : PageItem → List String
  | .source path => layout.sourceLines path
  | .object shown => layout.shownLines shown

/-- What is announced before an object when `file` was announced last. -/
def heading (layout : Layout) (file : Option String) (shown : Shown) : List PageItem :=
  match layout.path? shown with
  | some path => if file = some path then [] else [.source path]
  | none => []

/-- Objects with the announcements between them. -/
def items (layout : Layout) : Option String → List Shown → List PageItem
  | _, [] => []
  | file, shown :: rest =>
    layout.heading file shown ++
      .object shown :: layout.items ((layout.path? shown).or file) rest

/-- The objects in their order, each under its file. Right before an object stands an announcement
of a file exactly if it is the file of the object, and the nearest earlier object with a file has
another one or there is none. Announcements stand nowhere else; so the last one before an object
with a file names that file. -/
structure Announces (layout : Layout) (written : List Shown) (items : List PageItem) : Prop where
  objects : items.filterMap PageItem.object? = written
  visible : ∀ item ∈ items, layout.itemLines item ≠ []
  announced : ∀ before shown behind, items = before ++ .object shown :: behind → ∀ path,
    before.getLast? = some (.source path) ↔
      layout.path? shown = some path ∧
        layout.lastPath? (before.filterMap PageItem.object?) ≠ some path
  followed : ∀ before path behind, items = before ++ .source path :: behind →
    ∃ shown rest, behind = .object shown :: rest
  under : ∀ before shown behind, items = before ++ .object shown :: behind → ∀ path,
    layout.path? shown = some path → (before.filterMap PageItem.source?).getLast? = some path

variable {layout : Layout} {file : Option String} {shown : Shown} {written : List Shown}
  {before behind : List PageItem} {path : String}

/-! ### Announcements and objects -/

theorem heading_cases (layout : Layout) (file : Option String) (shown : Shown) :
    (layout.heading file shown = [] ∧ ∀ path, layout.path? shown = some path → file = some path) ∨
      ∃ path, layout.heading file shown = [.source path] ∧ layout.path? shown = some path ∧
        file ≠ some path := by
  unfold heading
  split
  · rename_i path known
    split
    · rename_i same
      exact .inl ⟨rfl, fun other also => by rw [same, ← known, also]⟩
    · rename_i other
      exact .inr ⟨path, rfl, known, other⟩
  · rename_i unknown
    exact .inl ⟨rfl, fun path known => absurd (unknown.symm.trans known) (by simp)⟩

theorem objects_heading (layout : Layout) (file : Option String) (shown : Shown) :
    (layout.heading file shown).filterMap PageItem.object? = [] := by
  obtain ⟨none, -⟩ | ⟨path, one, -⟩ := layout.heading_cases file shown
  · rw [none, List.filterMap_nil]
  · rw [one]
    rfl

theorem objects_items (file : Option String) (written : List Shown) :
    (layout.items file written).filterMap PageItem.object? = written := by
  induction written generalizing file with
  | nil => rfl
  | cons shown rest ih =>
    rw [items, List.filterMap_append, objects_heading, List.nil_append]
    exact congrArg (shown :: ·) (ih _)

/-- No page ends with an announcement. -/
theorem getLast?_items (file : Option String) (written : List Shown) (path : String) :
    (layout.items file written).getLast? ≠ some (.source path) := by
  induction written generalizing file with
  | nil => simp [items]
  | cons shown rest ih =>
    rw [items, List.getLast?_append, List.getLast?_cons]
    cases last : (layout.items ((layout.path? shown).or file) rest).getLast? with
    | none => simp
    | some item => simpa [last] using ih ((layout.path? shown).or file)

theorem lastPath?_cons_or (layout : Layout) (file : Option String) (shown : Shown)
    (rest : List Shown) : (layout.lastPath? (shown :: rest)).or file =
      (layout.lastPath? rest).or ((layout.path? shown).or file) := by
  unfold lastPath?
  rw [List.filterMap_cons]
  cases layout.path? shown with
  | none => rfl
  | some path =>
    rw [List.getLast?_cons]
    cases (rest.filterMap layout.path?).getLast? <;> rfl

/-- The file announced last is that of the last object with a file. -/
theorem sources_items (layout : Layout) (file : Option String) (written : List Shown) :
    (((layout.items file written).filterMap PageItem.source?).getLast?).or file =
      (layout.lastPath? written).or file := by
  induction written generalizing file with
  | nil => rfl
  | cons shown rest ih =>
    have later := ih ((layout.path? shown).or file)
    rw [items, List.filterMap_append, List.getLast?_append, lastPath?_cons_or, ← later,
      List.filterMap_cons_none rfl]
    generalize ((layout.items _ rest).filterMap PageItem.source?).getLast? = last
    obtain ⟨none, known⟩ | ⟨path, one, known, -⟩ := layout.heading_cases file shown
    · rw [none]
      cases last with
      | some path => rfl
      | none =>
        cases own : layout.path? shown with
        | none => rfl
        | some path => rw [known path own]; rfl
    · rw [one, known]
      cases last <;> rfl

/-- What stands before an object is what was written before it, and its own announcement. -/
theorem items_split (split : layout.items file written = before ++ .object shown :: behind) :
    before = layout.items file (before.filterMap PageItem.object?) ++
      layout.heading ((layout.lastPath? (before.filterMap PageItem.object?)).or file) shown := by
  induction written generalizing file before with
  | nil => simp [items] at split
  | cons first rest ih =>
    rw [items] at split
    -- The announcement of the first object holds no object, so it ends before `shown`.
    obtain ⟨inner, rfl, same⟩ : ∃ inner, before = layout.heading file first ++ inner ∧
        .object first :: layout.items ((layout.path? first).or file) rest =
          inner ++ .object shown :: behind := by
      obtain ⟨inner, whole, same⟩ | ⟨inner, whole, same⟩ := List.append_eq_append_iff.mp split
      · exact ⟨inner, whole, same⟩
      · have none := objects_heading layout file first
        cases inner with
        | nil => exact ⟨[], by simpa using whole.symm, by simpa using same.symm⟩
        | cons item inner =>
          obtain ⟨rfl, -⟩ := List.cons_eq_cons.mp same
          rw [whole, List.filterMap_append, List.append_eq_nil_iff] at none
          cases none.2
    rw [List.filterMap_append, objects_heading, List.nil_append]
    cases inner with
    | nil =>
      obtain ⟨own, -⟩ := List.cons_eq_cons.mp same
      cases own
      simp [items, lastPath?]
    | cons item inner =>
      obtain ⟨rfl, later⟩ := List.cons_eq_cons.mp same
      have objects : (PageItem.object first :: inner).filterMap PageItem.object? =
          first :: inner.filterMap PageItem.object? := rfl
      rw [objects, items, lastPath?_cons_or, List.append_assoc, List.cons_append, ← ih later]

/-- An announcement is followed by an object. -/
theorem followed_items (split : layout.items file written = before ++ .source path :: behind) :
    ∃ shown rest, behind = .object shown :: rest := by
  induction written generalizing file before with
  | nil => simp [items] at split
  | cons first rest ih =>
    rw [items] at split
    obtain ⟨none, -⟩ | ⟨own, one, -⟩ := layout.heading_cases file first
    · rw [none, List.nil_append] at split
      cases before with
      | nil => simp at split
      | cons item before => exact ih (List.cons_eq_cons.mp split).2
    · rw [one, List.singleton_append] at split
      match before with
      | [] => exact ⟨first, _, (List.cons_eq_cons.mp split).2.symm⟩
      | [item] => simp at split
      | item :: other :: before =>
        exact ih (List.cons_eq_cons.mp (List.cons_eq_cons.mp split).2).2

theorem itemLines_ne_nil (layout : Layout) (item : PageItem) : layout.itemLines item ≠ [] := by
  cases item with
  | source path => exact List.cons_ne_nil _ _
  | object shown =>
    obtain ⟨first, rest, lines⟩ := layout.exists_objectLines shown.id
    simp [itemLines, shownLines, lines]

/-- Objects with their announcements are as a page has to show them. -/
theorem announces_items (layout : Layout) (written : List Shown) :
    layout.Announces written (layout.items none written) where
  objects := objects_items none written
  visible item _ := layout.itemLines_ne_nil item
  announced before shown behind split path := by
    have rule := items_split split
    rw [Option.or_none] at rule
    generalize before.filterMap PageItem.object? = earlier at rule ⊢
    obtain ⟨none, known⟩ | ⟨own, one, known, apart⟩ :=
      layout.heading_cases (layout.lastPath? earlier) shown
    · rw [rule, none, List.append_nil]
      exact iff_of_false (getLast?_items _ _ _) fun announced =>
        announced.2 (known path announced.1)
    · rw [rule, one, List.getLast?_concat, known]
      simp only [Option.some.injEq, PageItem.source.injEq]
      refine ⟨?_, And.left⟩
      rintro rfl
      exact ⟨rfl, apart⟩
  followed _ _ _ := followed_items
  under before shown behind split path known := by
    have rule := items_split split
    rw [Option.or_none] at rule
    have last := layout.sources_items none (before.filterMap PageItem.object?)
    rw [Option.or_none, Option.or_none] at last
    generalize before.filterMap PageItem.object? = earlier at rule last
    obtain ⟨none, same⟩ | ⟨own, one, also, -⟩ :=
      layout.heading_cases (layout.lastPath? earlier) shown
    · rw [rule, none, List.append_nil, last, same path known]
    · obtain rfl := Option.some.inj (known.symm.trans also)
      rw [rule, one, List.filterMap_append, List.getLast?_append]
      rfl

end Layout

namespace Page

variable {layout : Layout} {file : Option String} {shown : Shown}

/-- The text that each of several selections adds to what was written before. -/
def addedTexts (layout : Layout) : Option String → List (List Shown) → List String
  | _, [] => []
  | file, selection :: rest =>
    added layout file selection :: addedTexts layout (announced layout file selection) rest

theorem join_addedTexts (file : Option String) (selections : List (List Shown)) :
    String.join (addedTexts layout file selections) = added layout file selections.flatten := by
  induction selections generalizing file with
  | nil => rfl
  | cons selection rest ih =>
    rw [addedTexts, String.join_cons, ih, List.flatten_cons, added_append]

theorem foldl_writeAll (page : Page) (selections : List (List Shown)) :
    selections.foldl (writeAll layout) page = writeAll layout page selections.flatten := by
  induction selections generalizing page with
  | nil => rfl
  | cons selection rest ih =>
    rw [List.foldl_cons, ih, List.flatten_cons]
    exact List.foldl_append.symm

/-- What is written are the items, one after the other. -/
theorem lines_writeAll (page : Page) (selection : List Shown) :
    (writeAll layout page selection).lines.toList =
      page.lines.toList ++ (layout.items page.file selection).flatMap layout.itemLines := by
  induction selection generalizing page with
  | nil => simp [writeAll, Layout.items]
  | cons shown rest ih =>
    have step : writeAll layout page (shown :: rest) =
        writeAll layout (page.write layout shown) rest := rfl
    rw [step, ih, Layout.items]
    unfold write announce Layout.heading Layout.path?
    cases (layout.outline.node shown.id).file with
    | none => simp [Layout.itemLines]
    | invalid => simp [Layout.itemLines]
    | path path =>
      by_cases same : page.file = some path
      · simp [same, Layout.itemLines]
      · simp [same, Layout.itemLines, Layout.sourceLines]

/-- Whatever selections are written on a page one after the other, or on several pages that go on
with the file that was announced last, the text is that of the objects of all of them, each under
its file. It makes no difference where one selection ends and the next begins. -/
theorem announces_writeAll (layout : Layout) (selections : List (List Shown)) :
    layout.Announces selections.flatten (layout.items none selections.flatten) ∧
    (∀ start : Array String, (selections.foldl (writeAll layout) ⟨start, none⟩).text =
      Text.unlines start.toList ++
        Text.unlines ((layout.items none selections.flatten).flatMap layout.itemLines)) ∧
    String.join (addedTexts layout none selections) =
      Text.unlines ((layout.items none selections.flatten).flatMap layout.itemLines) := by
  refine ⟨layout.announces_items _, fun start => ?_, ?_⟩
  · rw [foldl_writeAll, text, lines_writeAll, Text.unlines_append]
  · rw [join_addedTexts, added, text, lines_writeAll]
    rfl

end Page

end DebugOutline
