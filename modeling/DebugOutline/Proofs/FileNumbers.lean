import DebugOutline.Build.NodeOf
import DebugOutline.Dwarf.Unit

/-! File numbers against the files that a line table names. Early tables count them from one and
late ones from zero; a null entry at the start of the early tables makes up for the difference, so
that one rule finds the file that an entry or a row refers to in either. -/
namespace DebugOutline

open Dwarf (Entry LineHeader LineRow Sections UnitPlace UnitRecord fileTable lineTable?)

/-- What a number means among the files of a line table. Before version 5 they are counted from one,
and zero is for "no file". From then on they are counted from zero, and zero is for "no file" only
if there are none. -/
inductive SourceFile.Numbered (version : Nat) (paths : List String) :
    UInt64 → SourceFile → Prop where
  | noFile (early : version < 5) : Numbered version paths 0 .none
  | fromOne {number : UInt64} {position : Nat} {path : String} (early : version < 5)
      (next : number.toNat = position + 1) (listed : paths[position]? = some path) :
      Numbered version paths number (.path (Path.unify path))
  | aboveLast {number : UInt64} (early : version < 5) (above : paths.length < number.toNat) :
      Numbered version paths number .invalid
  | fromZero {number : UInt64} {path : String} (late : 5 ≤ version)
      (listed : paths[number.toNat]? = some path) :
      Numbered version paths number (.path (Path.unify path))
  | emptyTable (late : 5 ≤ version) (empty : paths = []) : Numbered version paths 0 .none
  | behindLast {number : UInt64} (late : 5 ≤ version) (behind : paths.length ≤ number.toNat)
      (other : number ≠ 0) : Numbered version paths number .invalid

variable {version position : Nat} {paths : List String} {number : UInt64} {file : SourceFile}
  {unit : UnitRecord}

/-! ### Looking up a number -/

theorem fileTable_zero (early : version < 5) : (fileTable version paths)[0]? = some none := by
  simp [fileTable, early]

theorem fileTable_succ (early : version < 5) (position : Nat) :
    (fileTable version paths)[position + 1]? = paths[position]?.map some := by
  simp [fileTable, early]

theorem fileTable_late (late : 5 ≤ version) (position : Nat) :
    (fileTable version paths)[position]? = paths[position]?.map some := by
  simp [fileTable, Nat.not_lt.mpr late]

namespace SourceFile

theorem ofNumber_path {path : String} (listed : unit.files[number.toNat]? = some (some path)) :
    ofNumber unit number = .path (Path.unify path) := by
  simp only [ofNumber, listed]

theorem ofNumber_null (listed : unit.files[number.toNat]? = some Option.none) :
    ofNumber unit number = .none := by
  simp only [ofNumber, listed]

theorem ofNumber_missing (missing : unit.files[number.toNat]? = Option.none) :
    ofNumber unit number = if number = 0 then .none else .invalid := by
  simp only [ofNumber, missing]

namespace Numbered

/-- Every number means something. -/
theorem exists_file (version : Nat) (paths : List String) (number : UInt64) :
    ∃ file, Numbered version paths number file := by
  rcases Nat.lt_or_ge version 5 with early | late
  · rcases known : number.toNat with _ | position
    · obtain rfl : number = 0 := UInt64.toNat_inj.mp known
      exact ⟨_, .noFile early⟩
    · cases listed : paths[position]? with
      | some path => exact ⟨_, .fromOne early known listed⟩
      | none =>
        have above := List.getElem?_eq_none_iff.mp listed
        exact ⟨_, .aboveLast early (by omega)⟩
  · cases listed : paths[number.toNat]? with
    | some path => exact ⟨_, .fromZero late listed⟩
    | none =>
      have behind := List.getElem?_eq_none_iff.mp listed
      by_cases zero : number = 0
      · subst zero
        exact ⟨_, .emptyTable late (List.length_eq_zero_iff.mp (Nat.le_zero.mp behind))⟩
      · exact ⟨_, .behindLast late behind zero⟩

/-- A number is looked up as what it means. -/
theorem eq_ofNumber (means : Numbered version paths number file)
    (table : unit.files = fileTable version paths) : file = ofNumber unit number := by
  cases means with
  | noFile early =>
    refine (ofNumber_null ?_).symm
    rw [table]
    exact fileTable_zero early
  | fromOne early next listed =>
    refine (ofNumber_path ?_).symm
    rw [table, next, fileTable_succ early, listed, Option.map_some]
  | aboveLast early above =>
    obtain ⟨position, next⟩ := Nat.exists_eq_add_one_of_ne_zero (Nat.ne_zero_of_lt above)
    have missing : paths[position]? = Option.none := List.getElem?_eq_none (by omega)
    have other : number ≠ 0 := fun zero => by simp [zero] at above
    rw [ofNumber_missing, if_neg other]
    rw [table, next, fileTable_succ early, missing, Option.map_none]
  | fromZero late listed =>
    refine (ofNumber_path ?_).symm
    rw [table, fileTable_late late, listed, Option.map_some]
  | emptyTable late empty =>
    rw [ofNumber_missing, if_pos rfl]
    rw [table, fileTable_late late, empty, List.getElem?_nil, Option.map_none]
  | behindLast late behind other =>
    rw [ofNumber_missing, if_neg other]
    rw [table, fileTable_late late, List.getElem?_eq_none behind, Option.map_none]

end Numbered

theorem numbered_iff (table : unit.files = fileTable version paths) :
    Numbered version paths number file ↔ file = ofNumber unit number := by
  refine ⟨fun means => means.eq_ofNumber table, ?_⟩
  rintro rfl
  obtain ⟨file, means⟩ := Numbered.exists_file version paths number
  exact means.eq_ofNumber table ▸ means

end SourceFile

/-! ### Entries and rows -/

theorem Reading.file_node (unit : UnitRecord) (unitIndex : Nat) (entry : Entry) (role : Role)
    (inAggregate : Bool) (given : (Reading.unsigned entry .declFile).value = some number) :
    (Reading.node unit unitIndex entry role inAggregate).value.file = .ofNumber unit number := by
  unfold Reading.node
  simp only [Reading.value_bind, given]
  split <;> rfl

/-- The table that is made of the files of a line table. -/
theorem Dwarf.lineTable?_eq {sections : Sections} {place : UnitPlace} {offset : Nat}
    {table : LineHeader} {paths : List String}
    (found : Decode.at? sections.lines offset (readLineHeader place.encoding.addressSize) =
      some table) (named : table.paths.mapM (sections.texts.text? place) = some paths) :
    lineTable? sections place offset =
      table.rows?.map (fileTable table.encoding.version paths, ·) := by
  simp only [lineTable?, found, named, Option.bind_eq_bind, Option.bind_some, Option.pure_def]
  cases table.rows? <;> rfl

/-- Whatever the version of a line table and however many files it has, each number has one meaning
among them, and it is what the number is looked up as in the table that is read; so entries and rows
get the file that their number means. -/
theorem files_by_number {sections : Sections} {place : UnitPlace} {offset : Nat}
    {table : LineHeader} {paths : List String}
    (found : Decode.at? sections.lines offset (Dwarf.readLineHeader place.encoding.addressSize) =
      some table) (named : table.paths.mapM (sections.texts.text? place) = some paths) :
    lineTable? sections place offset =
      table.rows?.map (fileTable table.encoding.version paths, ·) ∧
    ∀ unit : UnitRecord, unit.files = fileTable table.encoding.version paths →
      (∀ number file, SourceFile.Numbered table.encoding.version paths number file ↔
        file = .ofNumber unit number) ∧
      (∀ unitIndex entry role inAggregate number,
        (Reading.unsigned entry .declFile).value = some number →
        SourceFile.Numbered table.encoding.version paths number
          (Reading.node unit unitIndex entry role inAggregate).value.file) ∧
      ∀ unitIndex row, SourceFile.Numbered table.encoding.version paths row.file
        (Node.ofRow unit unitIndex row).file := by
  refine ⟨Dwarf.lineTable?_eq found named, fun unit files => ⟨fun number file =>
    SourceFile.numbered_iff files, ?_, ?_⟩⟩
  · intro unitIndex entry role inAggregate number given
    exact (SourceFile.numbered_iff files).mpr
      (Reading.file_node unit unitIndex entry role inAggregate given)
  · intro unitIndex row
    exact (SourceFile.numbered_iff files).mpr rfl

/-- A line table of version 4 with two files and no rows. -/
private def twoFiles : Sections where
  lines := { bytes := ⟨#[30, 0, 0, 0, 4, 0, 24, 0, 0, 0, 1, 1, 1, 251, 14, 1, 0,
    97, 46, 99, 0, 0, 0, 0, 115, 92, 98, 46, 104, 0, 0, 0, 0, 0]⟩ }

private def twoFilesPlace : UnitPlace := ⟨⟨false, 4, 8⟩, 0, 0⟩

/-- Its second file has the number two, and nothing has a higher one. -/
theorem files_by_number_early : ∃ table : LineHeader,
    Decode.at? twoFiles.lines 0 (Dwarf.readLineHeader twoFilesPlace.encoding.addressSize) =
      some table ∧
    table.paths.mapM (twoFiles.texts.text? twoFilesPlace) = some ["a.c", "s\\b.h"] ∧
    lineTable? twoFiles twoFilesPlace 0 = some (#[none, some "a.c", some "s\\b.h"], []) ∧
    ∀ unit : UnitRecord, unit.files = #[none, some "a.c", some "s\\b.h"] →
      SourceFile.ofNumber unit 0 = .none ∧ SourceFile.ofNumber unit 2 = .path "s/b.h" ∧
        SourceFile.ofNumber unit 3 = .invalid := by
  let read := Decode.at? twoFiles.lines 0 (Dwarf.readLineHeader twoFilesPlace.encoding.addressSize)
  have present : read.isSome = true := by decide +kernel
  have early : read.map (·.encoding.version) = some 4 := by decide +kernel
  have texts : read.bind (fun table => table.paths.mapM (twoFiles.texts.text? twoFilesPlace)) =
      some ["a.c", "s\\b.h"] := by decide +kernel
  have rows : read.bind (·.rows?) = some [] := by decide +kernel
  obtain ⟨table, found⟩ := Option.isSome_iff_exists.mp present
  rw [found, Option.map_some, Option.some_inj] at early
  rw [found, Option.bind_some] at texts rows
  obtain ⟨whole, numbers⟩ := files_by_number found texts
  rw [early] at whole numbers
  refine ⟨table, found, texts, by rw [whole, rows]; rfl, fun unit files => ?_⟩
  obtain ⟨means, -, -⟩ := numbers unit files
  have slashes : Path.unify "s\\b.h" = "s/b.h" := by decide +kernel
  exact ⟨((means 0 _).mp (.noFile (by decide))).symm,
    ((means 2 _).mp (slashes ▸ .fromOne (by decide) rfl rfl)).symm,
    ((means 3 _).mp (.aboveLast (by decide) (by decide))).symm⟩

end DebugOutline
