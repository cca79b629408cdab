import DebugOutline.Proofs.SplitWhole

/-! Split files of units whose names flatten to one: they have one path, and the unit that comes
last has the file. -/
namespace DebugOutline

namespace Outline

variable {outline : Outline}

/-- Where all files can be written, two units share a path exactly if their names flatten to one,
each path has the file written there last, and nothing is lost exactly if files of one path have
one content. -/
theorem split_last_wins (outline : Outline) (options : Options) (format : OutputFormat)
    (directory : String) (files : FileSystem)
    (made : (files.makeDirectories directory).1 = true)
    (writable : ∀ file ∈ outline.splitFiles options format directory,
      ((files.makeDirectories directory).2.write file.path file.content.toUTF8).1 = true) :
    (∀ first second, outline.splitPath format directory first =
        outline.splitPath format directory second ↔
      Path.flatten (outline.node first).name = Path.flatten (outline.node second).name) ∧
    ∃ after, (outline.writeSplit FileSystem.disk options format directory).run files =
        (.ok (outline.compileUnits.map (outline.splitPath format directory)), after) ∧
      (∀ file ∈ outline.splitFiles options format directory, ∃ last,
        ((outline.splitFiles options format directory).filter fun other =>
          other.path == file.path).getLast? = some last ∧
        after.read file.path = .ok last.content.toUTF8) ∧
      ((∀ file ∈ outline.splitFiles options format directory,
          after.read file.path = .ok file.content.toUTF8) ↔
        ∀ file ∈ outline.splitFiles options format directory,
          ∀ other ∈ outline.splitFiles options format directory,
            file.path = other.path → file.content = other.content) := by
  obtain ⟨after, run, written⟩ := writeSplit_last made writable
  rw [paths_splitFiles] at run
  refine ⟨fun first second => splitPath_eq_iff, after, run, written, ?_, ?_⟩
  · intro intact file member other also same
    have content := (intact file member).symm.trans (same ▸ intact other also)
    exact String.toByteArray_inj.mp (Except.ok.inj content)
  · intro shared file member
    obtain ⟨last, final, read⟩ := written file member
    obtain ⟨listed, path⟩ := List.mem_filter.mp (List.mem_of_getLast? final)
    rw [read, shared last listed file member (beq_iff_eq.mp path)]

/-- Two units whose names differ in a dot only, each with a variable of its own. -/
private def clashUnits : List Dwarf.UnitRecord := [
  { entries := #[
    { offset := 11, tag := .compileUnit, attributes := [⟨.name, .string, .string "a.c"⟩] },
    { offset := 20, tag := .variableEntry, attributes := [⟨.name, .string, .string "x"⟩] }] },
  { entries := #[
    { offset := 40, tag := .compileUnit, attributes := [⟨.name, .string, .string "a_c"⟩] },
    { offset := 50, tag := .variableEntry, attributes := [⟨.name, .string, .string "y"⟩] }] }]

private def clashOutline : Outline := (Outline.build "a.o" clashUnits "void").1

theorem split_last_wins_clash :
    (∀ first second, clashOutline.splitPath .text "out" first =
        clashOutline.splitPath .text "out" second ↔
      Path.flatten (clashOutline.node first).name = Path.flatten (clashOutline.node second).name) ∧
    ∃ after, (clashOutline.writeSplit FileSystem.disk {} .text "out").run (.empty "tmp") =
        (.ok (clashOutline.compileUnits.map (clashOutline.splitPath .text "out")), after) ∧
      (∀ file ∈ clashOutline.splitFiles {} .text "out", ∃ last,
        ((clashOutline.splitFiles {} .text "out").filter fun other =>
          other.path == file.path).getLast? = some last ∧
        after.read file.path = .ok last.content.toUTF8) ∧
      ((∀ file ∈ clashOutline.splitFiles {} .text "out",
          after.read file.path = .ok file.content.toUTF8) ↔
        ∀ file ∈ clashOutline.splitFiles {} .text "out",
          ∀ other ∈ clashOutline.splitFiles {} .text "out",
            file.path = other.path → file.content = other.content) := by
  have writable : ∀ unit ∈ clashOutline.compileUnits,
      (((FileSystem.empty "tmp").makeDirectories "out").2.write
        (clashOutline.splitPath .text "out" unit) .empty).1 = true := by decide +kernel
  exact split_last_wins clashOutline {} .text "out" (.empty "tmp") (by decide +kernel)
    fun file member => write_splitFile writable member

/-- Different units may go to one file, even in an outline built from well-formed units. -/
theorem split_paths_clash : ¬ ∀ (input : String) (units : List Dwarf.UnitRecord) (void : String)
    (options : Options) (format : OutputFormat) (directory : String),
      (((Outline.build input units void).1.splitFiles options format directory).map
        (·.path)).Nodup := by
  intro distinct
  have paths : (clashOutline.splitFiles {} .text "out").map (·.path) =
      ["out/a_c.txt", "out/a_c.txt"] := by
    rw [paths_splitFiles]
    decide +kernel
  have both : ((clashOutline.splitFiles {} .text "out").map (·.path)).Nodup :=
    distinct "a.o" clashUnits "void" {} .text "out"
  simp [paths] at both

end Outline

end DebugOutline
