import DebugOutline.Proofs.Lines
import DebugOutline.Proofs.Storage
import DebugOutline.Proofs.Tree
import DebugOutline.Report

/-! Split files against the whole: what follows the headers of all files, in order, is what follows
the header of the stream. -/
namespace DebugOutline

/-! ### Pages -/

namespace Page

variable {layout : Layout}

/-- A page with some lines in front. -/
def under (page : Page) (before : Array String) : Page :=
  { page with lines := before ++ page.lines }

theorem write_under (page : Page) (before : Array String) (shown : Shown) :
    (page.under before).write layout shown = (page.write layout shown).under before := by
  unfold write announce under
  dsimp only
  split
  · split <;> simp [← Array.toList_inj]
  · simp [← Array.toList_inj]

/-- What is written does not depend on the lines that are there. -/
theorem writeAll_under (page : Page) (before : Array String) (selection : List Shown) :
    writeAll layout (page.under before) selection =
      (writeAll layout page selection).under before := by
  unfold writeAll
  induction selection generalizing page with
  | nil => rfl
  | cons shown rest ih => rw [List.foldl_cons, List.foldl_cons, write_under, ih]

/-- The text that a selection adds to a page. -/
def added (layout : Layout) (file : Option String) (selection : List Shown) : String :=
  (writeAll layout ⟨#[], file⟩ selection).text

/-- The file announced last after a selection. -/
def announced (layout : Layout) (file : Option String) (selection : List Shown) : Option String :=
  (writeAll layout ⟨#[], file⟩ selection).file

theorem writeAll_eq (lines : Array String) (file : Option String) (selection : List Shown) :
    writeAll layout ⟨lines, file⟩ selection =
      (writeAll layout ⟨#[], file⟩ selection).under lines := by
  have same : (⟨lines, file⟩ : Page) = (⟨#[], file⟩ : Page).under lines := by simp [under]
  rw [same, writeAll_under]

theorem text_writeAll (lines : Array String) (file : Option String) (selection : List Shown) :
    (writeAll layout ⟨lines, file⟩ selection).text =
      Text.unlines lines.toList ++ added layout file selection := by
  rw [writeAll_eq, text, under, Array.toList_append, Text.unlines_append]
  rfl

theorem file_writeAll (lines : Array String) (file : Option String) (selection : List Shown) :
    (writeAll layout ⟨lines, file⟩ selection).file = announced layout file selection := by
  rw [writeAll_eq]
  rfl

theorem added_append (file : Option String) (first second : List Shown) :
    added layout file (first ++ second) =
      added layout file first ++ added layout (announced layout file first) second := by
  have split : writeAll layout ⟨#[], file⟩ (first ++ second) =
      writeAll layout (writeAll layout ⟨#[], file⟩ first) second := List.foldl_append
  rw [added, split]
  exact text_writeAll (writeAll layout ⟨#[], file⟩ first).lines _ second

end Page

namespace Outline

/-- What the pages of some units say after their headers, when `file` was announced before. -/
def unitBodies (layout : Layout) : Option String → List NodeId → List String
  | _, [] => []
  | file, unit :: rest =>
    let selection := layout.outline.selectFrom layout.options unit
    Page.added layout file selection ::
      unitBodies layout (Page.announced layout file selection) rest

theorem unitPages_eq (layout : Layout) (file : Option String) (units : List Nat) :
    unitPages layout file units =
      (unitBodies layout file units).map fun body => layout.header ++ "\n" ++ body := by
  induction units generalizing file with
  | nil => rfl
  | cons unit rest ih =>
    have line : Text.unlines #[layout.header].toList = layout.header ++ "\n" := by
      simp [Text.unlines]
    rw [unitPages, unitBodies, List.map_cons]
    rw [Page.file_writeAll, ih, Page.text_writeAll, line]

theorem length_unitBodies (layout : Layout) (file : Option String) (units : List Nat) :
    (unitBodies layout file units).length = units.length := by
  induction units generalizing file with
  | nil => rfl
  | cons unit rest ih => rw [unitBodies, List.length_cons, List.length_cons, ih]

theorem join_unitBodies (layout : Layout) (file : Option String) (units : List Nat) :
    String.join (unitBodies layout file units) =
      Page.added layout file (units.flatMap (layout.outline.selectFrom layout.options)) := by
  induction units generalizing file with
  | nil => rfl
  | cons unit rest ih =>
    rw [unitBodies, String.join_cons, ih, List.flatMap_cons, Page.added_append]

/-! ### The whole -/

/-- Nothing but units stands directly under the input file. -/
def UnitsOnly (outline : Outline) : Prop :=
  ∀ id ∈ (outline.node root).children.toList, (outline.node id).kind = .compileUnit

/-- What every file of a format starts with. -/
def fileHeader (outline : Outline) (options : Options) : OutputFormat → String
  | .text => (Layout.of outline options).header ++ "\n"
  | .yaml => outline.yamlHeader

variable {outline : Outline}

theorem children_root (unitsOnly : outline.UnitsOnly) :
    outline.children root = outline.compileUnits := by
  have listed : ∀ id ∈ (outline.node root).children.toList, outline.isListed id = true := by
    intro id member
    simp [isListed, Node.isAuxiliary, unitsOnly id member]
  have units : ∀ id ∈ (outline.node root).children.toList,
      ((outline.node id).kind == .compileUnit) = true := by
    intro id member
    simp [unitsOnly id member]
  rw [children, compileUnits, List.filter_eq_self.mpr listed, List.filter_eq_self.mpr units]

/-- Only functions are moved next to their declarations. -/
theorem combine_of_no_function {siblings : List NodeId}
    (others : ∀ id ∈ siblings, (outline.node id).kind ≠ .function) :
    outline.combine siblings = siblings := by
  unfold combine
  dsimp only
  rw [if_pos]
  rw [List.all_map, List.all_eq_true]
  intro id member
  simp [declaringSibling?, others id member]

/-- The selection of the whole is that of its units, one after another. -/
theorem select_eq_flatMap (valid : outline.WellFormed) (noRows : (outline.node root).lines = #[])
    (unitsOnly : outline.UnitsOnly) (options : Options) :
    outline.select options = outline.compileUnits.flatMap (outline.selectFrom options) := by
  have others : ∀ id ∈ outline.compileUnits, (outline.node id).kind ≠ .function := by
    intro id member
    have isUnit := (List.mem_filter.mp member).2
    simp [beq_iff_eq.mp isUnit]
  have visited : outline.visited options root = outline.compileUnits := by
    simp [Outline.visited, children_root unitsOnly, combine_of_no_function others, noRows]
  unfold select selectFrom
  dsimp only
  rw [if_pos rfl, visited]
  apply List.flatMap_congr
  intro unit member
  have named := (valid.mem_children.mp (List.mem_filter.mp member).1).1
  rw [if_neg (valid.of_parent named).2.1]

/-- Every unit has a body; the files are headers with bodies, and the stream is one header with all
of them. -/
theorem exists_bodies (valid : outline.WellFormed) (noRows : (outline.node root).lines = #[])
    (unitsOnly : outline.UnitsOnly) (options : Options) (format : OutputFormat) :
    ∃ bodies : List String,
      outline.unitContents options format outline.compileUnits =
        bodies.map (outline.fileHeader options format ++ ·) ∧
      outline.render options (outline.select options) format =
        outline.fileHeader options format ++ String.join bodies := by
  cases format with
  | text =>
    refine ⟨unitBodies (.of outline options) none outline.compileUnits, ?_, ?_⟩
    · exact unitPages_eq _ _ _
    · rw [render, Layout.render, Page.text_writeAll, select_eq_flatMap valid noRows unitsOnly,
        join_unitBodies]
      simp [fileHeader, Text.unlines]
      rfl
  | yaml =>
    refine ⟨outline.compileUnits.map (outline.yamlItem · 1), ?_, ?_⟩
    · simp [unitContents, fileHeader]
    · simp [render, yaml, children_root unitsOnly, fileHeader]

/-! ### The files -/

/-- The name of the file of a unit. -/
def fileName (outline : Outline) (format : OutputFormat) (unit : NodeId) : String :=
  Path.flatten (outline.node unit).name ++ "." ++ format.extension

theorem isPlain_fileName (outline : Outline) (format : OutputFormat) (unit : Nat) :
    FileSystem.IsPlain (outline.fileName format unit) := by
  have letters : (outline.fileName format unit).toList =
      (Path.flatten (outline.node unit).name).toList ++ '.' :: format.extension.toList := by
    simp [fileName]
  have long : 3 < (outline.fileName format unit).toList.length := by
    rw [letters]
    cases format <;> simp [OutputFormat.extension]
  constructor
  · rw [letters]
    intro member
    rcases List.mem_append.mp member with member | member
    · rw [Path.flatten, String.toList_map, List.mem_map] at member
      obtain ⟨c, -, same⟩ := member
      split at same
      · cases same
      · rename_i other
        exact other (.inr (.inl same))
    · cases format <;> simp [OutputFormat.extension] at member
  · refine ⟨?_, ?_, ?_⟩ <;> intro same <;> simp [same] at long

/-- Two units go to one file exactly if their names flatten to one. -/
theorem splitPath_eq_iff {format : OutputFormat} {directory : String} {first second : Nat} :
    outline.splitPath format directory first = outline.splitPath format directory second ↔
      Path.flatten (outline.node first).name = Path.flatten (outline.node second).name := by
  refine ⟨fun same => ?_, fun same => by rw [splitPath, splitPath, same]⟩
  unfold splitPath Path.under at same
  rw [← String.toList_inj] at same ⊢
  split_ifs at same <;> simpa using same

theorem length_unitContents (outline : Outline) (options : Options) (format : OutputFormat)
    (units : List Nat) : (outline.unitContents options format units).length = units.length := by
  cases format with
  | text => rw [unitContents, unitPages_eq, List.length_map, length_unitBodies]
  | yaml => rw [unitContents, List.length_map]

theorem paths_splitFiles (outline : Outline) (options : Options) (format : OutputFormat)
    (directory : String) : (outline.splitFiles options format directory).map (·.path) =
      outline.compileUnits.map (outline.splitPath format directory) := by
  have complete := length_unitContents outline options format outline.compileUnits
  unfold splitFiles
  rw [List.map_map]
  conv_rhs => rw [← List.map_fst_zip (Nat.le_of_eq complete.symm), List.map_map]
  rfl

/-- The files of different units are different exactly if no two names flatten to one. -/
theorem nodup_paths_iff (options : Options) (format : OutputFormat) (directory : String) :
    ((outline.splitFiles options format directory).map (·.path)).Nodup ↔
      (outline.compileUnits.map fun unit => Path.flatten (outline.node unit).name).Nodup := by
  rw [paths_splitFiles]
  unfold List.Nodup
  simp only [List.pairwise_map, ne_eq, splitPath_eq_iff]

theorem exists_splitPath {options : Options} {format : OutputFormat} {directory : String}
    {file : SplitFile} (member : file ∈ outline.splitFiles options format directory) :
    ∃ unit ∈ outline.compileUnits, outline.splitPath format directory unit = file.path := by
  have listed : file.path ∈ (outline.splitFiles options format directory).map (·.path) :=
    List.mem_map_of_mem member
  rw [paths_splitFiles] at listed
  exact List.mem_map.mp listed

/-- Where all files can be written, they are, and each path has the content written there last. -/
theorem writeSplit_last {files : FileSystem} {options : Options} {format : OutputFormat}
    {directory : String} (made : (files.makeDirectories directory).1 = true)
    (writable : ∀ file ∈ outline.splitFiles options format directory,
      ((files.makeDirectories directory).2.write file.path file.content.toUTF8).1 = true) :
    ∃ after, (outline.writeSplit FileSystem.disk options format directory).run files =
        (.ok ((outline.splitFiles options format directory).map (·.path)), after) ∧
      ∀ file ∈ outline.splitFiles options format directory, ∃ last,
        ((outline.splitFiles options format directory).filter fun other =>
          other.path == file.path).getLast? = some last ∧
        after.read file.path = .ok last.content.toUTF8 := by
  have found (path : String) (listed : ∃ file ∈ outline.splitFiles options format directory,
      file.path = path) : ∃ place, (files.makeDirectories directory).2.Accepts path place := by
    obtain ⟨file, member, rfl⟩ := listed
    exact FileSystem.exists_accepts (writable file member)
  choose! place accepts using found
  have accepted file member := accepts file.path ⟨file, member, rfl⟩
  obtain ⟨after, run, written⟩ := SplitFile.writeAll_run accepted fun file member other also same => by
    obtain ⟨unit, -, path⟩ := exists_splitPath member
    obtain ⟨second, -, otherPath⟩ := exists_splitPath also
    by_contra apart
    have here := accepted file member
    have there := accepted other also
    rw [← path] at here same apart
    rw [← otherPath] at there same apart
    refine there.place_ne here (isPlain_fileName _ _ _) (isPlain_fileName _ _ _) ?_ same
    intro names
    exact apart (congrArg (Path.under directory) names)
  cases none : outline.splitFiles options format directory with
  | nil => exact ⟨files, by simp [writeSplit, none, pure, StateT.pure, StateT.run], by simp⟩
  | cons file rest =>
    rw [none] at run written
    refine ⟨after, ?_, written⟩
    cases walked : files.makeDirectories directory with
    | mk success next =>
      rw [walked] at made run
      cases made
      have start : FileSystem.disk.makeDirectories directory files = (true, next) := walked
      simp only [StateT.run] at run ⊢
      simp [writeSplit, none, bind, StateT.bind, start, run, pure, StateT.pure]

/-- Where all files can be written and no two names flatten to one, each file can be read again. -/
theorem writeSplit_run {files : FileSystem} {options : Options} {format : OutputFormat}
    {directory : String}
    (names : (outline.compileUnits.map fun unit => Path.flatten (outline.node unit).name).Nodup)
    (made : (files.makeDirectories directory).1 = true)
    (writable : ∀ file ∈ outline.splitFiles options format directory,
      ((files.makeDirectories directory).2.write file.path file.content.toUTF8).1 = true) :
    ∃ after, (outline.writeSplit FileSystem.disk options format directory).run files =
        (.ok ((outline.splitFiles options format directory).map (·.path)), after) ∧
      ∀ file ∈ outline.splitFiles options format directory,
        after.read file.path = .ok file.content.toUTF8 := by
  obtain ⟨after, run, written⟩ := writeSplit_last made writable
  refine ⟨after, run, fun file member => ?_⟩
  obtain ⟨last, final, read⟩ := written file member
  obtain ⟨listed, path⟩ := List.mem_filter.mp (List.mem_of_getLast? final)
  have distinct := (nodup_paths_iff options format directory).mpr names
  have same : last = file :=
    List.inj_on_of_nodup_map distinct listed member (beq_iff_eq.mp path)
  rw [read, same]

/-- Where a file can be written does not depend on what is written. -/
theorem write_splitFile {files : FileSystem} {options : Options} {format : OutputFormat}
    {directory : String} (writable : ∀ unit ∈ outline.compileUnits,
      (files.write (outline.splitPath format directory unit) .empty).1 = true)
    {file : SplitFile} (member : file ∈ outline.splitFiles options format directory) :
    (files.write file.path file.content.toUTF8).1 = true := by
  obtain ⟨⟨unit, content⟩, listed, rfl⟩ := List.mem_map.mp member
  obtain ⟨place, accepts⟩ := FileSystem.exists_accepts (writable unit (List.of_mem_zip listed).1)
  rw [accepts.write]

/-! ### Everything sorted -/

theorem compileUnits_sort (outline : Outline) (key : SortKey) :
    (outline.sort key).compileUnits.Perm outline.compileUnits := by
  have sorted := List.mergeSort_perm (outline.node root).children.toList (outline.ordered key)
  simpa [compileUnits, node_sort] using sorted.filter _

theorem UnitsOnly.sort (unitsOnly : outline.UnitsOnly) (key : SortKey) :
    (outline.sort key).UnitsOnly := by
  intro id member
  rw [node_sort] at member ⊢
  exact unitsOnly id (List.mem_mergeSort.mp member)

/-! ### The theorem -/

/-- Every unit in a file of its own: the files are all written, and reading them back gives one
header each and, without the headers, in order, what follows the header of the whole. -/
theorem split_whole (input : String) (units : List Dwarf.UnitRecord) (void : String) (key : SortKey)
    (options : Options) (format : OutputFormat) (directory : String) (files : FileSystem)
    (outline : Outline) (built : outline = (Outline.build input units void).1.sort key)
    (unitsOnly : outline.UnitsOnly)
    (names : (outline.compileUnits.map fun unit => Path.flatten (outline.node unit).name).Nodup)
    (made : (files.makeDirectories directory).1 = true)
    (writable : ∀ file ∈ outline.splitFiles options format directory,
      ((files.makeDirectories directory).2.write file.path file.content.toUTF8).1 = true) :
    ∃ paths after bodies,
      (outline.writeSplit FileSystem.disk options format directory).run files = (.ok paths, after) ∧
      paths.map after.read = bodies.map (fun body =>
        .ok (outline.fileHeader options format ++ body).toUTF8) ∧
      outline.render options (outline.select options) format =
        outline.fileHeader options format ++ String.join bodies := by
  have valid : outline.WellFormed := built ▸ (WellFormed.build input units void).sort key
  have noRows : (outline.node root).lines = #[] := by
    rw [built, lines_sort, lines_root_build]
  obtain ⟨bodies, contents, whole⟩ := exists_bodies valid noRows unitsOnly options format
  obtain ⟨after, run, read⟩ := writeSplit_run names made writable
  refine ⟨_, after, bodies, run, ?_, whole⟩
  have complete := length_unitContents outline options format outline.compileUnits
  have texts : (outline.splitFiles options format directory).map (·.content) =
      bodies.map (outline.fileHeader options format ++ ·) := by
    rw [← contents, splitFiles, List.map_map]
    exact List.map_snd_zip (Nat.le_of_eq complete)
  calc ((outline.splitFiles options format directory).map (·.path)).map after.read
      = ((outline.splitFiles options format directory).map (·.content)).map
          fun content => .ok content.toUTF8 := by
        rw [List.map_map, List.map_map]
        exact List.map_congr_left read
    _ = bodies.map fun body => .ok (outline.fileHeader options format ++ body).toUTF8 := by
        rw [texts, List.map_map]
        rfl

/-- Two units that change places when they are sorted, the second with a variable and a row. -/
private def pairOutline : Outline :=
  (Outline.build "a.o" [
    { entries := #[
      { offset := 11, tag := .compileUnit, attributes := [⟨.name, .string, .string "src/b.c"⟩] }] },
    { entries := #[
        { offset := 50, tag := .compileUnit, attributes := [⟨.name, .string, .string "a.c"⟩] },
        { offset := 70, tag := .variableEntry, attributes := [⟨.name, .string, .string "x"⟩] }],
      rows := #[{ line := 3, address := 32 }] }] "void").1

theorem split_whole_pair : ∃ paths after bodies,
    ((pairOutline.sort .name).writeSplit FileSystem.disk {} .text "out/text").run (.empty "tmp") =
      (.ok paths, after) ∧
    paths.map after.read = bodies.map (fun body =>
      .ok ((pairOutline.sort .name).fileHeader {} .text ++ body).toUTF8) ∧
    (pairOutline.sort .name).render {} ((pairOutline.sort .name).select {}) .text =
      (pairOutline.sort .name).fileHeader {} .text ++ String.join bodies := by
  have unitsOnly : pairOutline.UnitsOnly := by
    unfold UnitsOnly
    decide +kernel
  have names : (pairOutline.compileUnits.map fun unit =>
      Path.flatten (pairOutline.node unit).name).Nodup := by decide +kernel
  have writable : ∀ unit ∈ pairOutline.compileUnits,
      (((FileSystem.empty "tmp").makeDirectories "out/text").2.write
        (pairOutline.splitPath .text "out/text" unit) .empty).1 = true := by decide +kernel
  have units := compileUnits_sort pairOutline .name
  refine split_whole _ _ _ .name {} .text "out/text" _ _ rfl (unitsOnly.sort .name) ?_
    (by decide +kernel) fun file member => write_splitFile ?_ member
  · simp only [name_sort]
    exact (units.map _).nodup_iff.mpr names
  · intro unit member
    rw [splitPath, name_sort]
    exact writable unit (units.mem_iff.mp member)

end Outline

end DebugOutline
