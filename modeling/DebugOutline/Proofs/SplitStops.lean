import DebugOutline.Proofs.SplitWhole

/-! Split output that stops at a file that cannot be written: the files before it are as they would
be otherwise, and whatever the units are called, nothing is touched outside the directory. -/
namespace DebugOutline

namespace FileSystem

variable {files after : FileSystem} {place next : Place} {entry : FileEntry} {names : List String}
  {path directory name : String} {content : ByteArray}

/-! ### Making directories -/

/-- Everything is as before, but for directories where nothing was. -/
structure Extends (files after : FileSystem) : Prop where
  workingDirectory : after.workingDirectory = files.workingDirectory
  lookup? : ∀ place, after.lookup? place = files.lookup? place ∨
    files.lookup? place = none ∧ after.lookup? place = some .directory

namespace Extends

theorem refl (files : FileSystem) : files.Extends files := ⟨rfl, fun _ => .inl rfl⟩

theorem keeps (extended : files.Extends after) (there : files.lookup? place = some entry) :
    after.lookup? place = some entry := by
  rcases extended.lookup? place with same | ⟨nothing, -⟩
  · rw [same, there]
  · rw [there] at nothing
    cases nothing

theorem put (nothing : files.lookup? place = none) (extended : (files.put place .directory).Extends after) :
    files.Extends after := by
  have inner : place ≠ [] := by
    rintro rfl
    cases nothing
  refine ⟨extended.workingDirectory, fun other => ?_⟩
  by_cases same : other = place
  · subst same
    exact .inr ⟨nothing, extended.keeps (by rw [lookup?_put inner, if_pos rfl])⟩
  · have unchanged : (files.put place .directory).lookup? other = files.lookup? other := by
      rw [lookup?_put inner, if_neg same]
    rw [← unchanged]
    exact extended.lookup? other

theorem start (extended : files.Extends after) (path : String) : after.start path = files.start path := by
  rw [FileSystem.start, FileSystem.start, extended.workingDirectory]

/-- A step that leads somewhere still leads there. -/
theorem step (extended : files.Extends after) (leads : files.step place name = .ok next) :
    after.step place name = .ok next := by
  unfold FileSystem.step at leads ⊢
  split at leads
  · cases leads
  · cases leads
  · rename_i directory
    rw [extended.keeps directory]
    exact leads

end Extends

theorem extends_makeAlong (files : FileSystem) (place : Place) (names : List String) :
    files.Extends (files.makeAlong place names).2 := by
  induction names generalizing files place with
  | nil => exact .refl files
  | cons name rest ih =>
    unfold makeAlong
    split
    · exact .refl files
    · split
      · exact ih _ _
      · exact .refl files
      · rename_i nothing
        exact .put nothing (ih _ _)

/-- After a walk that made whatever was missing, the same walk finds everything. -/
theorem exists_walk_makeAlong (made : (files.makeAlong place names).1 = true) :
    ∃ base, names.foldlM (files.makeAlong place names).2.step place = .ok base := by
  induction names generalizing files place with
  | nil => exact ⟨place, rfl⟩
  | cons name rest ih =>
    have extended := extends_makeAlong files place (name :: rest)
    cases leads : files.step place name with
    | error problem => simp [makeAlong, leads] at made
    | ok next =>
      rw [List.foldlM_cons, extended.step leads]
      unfold makeAlong at made ⊢
      rw [leads] at made ⊢
      dsimp only at made ⊢
      split at made
      · exact ih made
      · cases made
      · exact ih made

theorem extends_makeDirectories (files : FileSystem) (path : String) :
    files.Extends (files.makeDirectories path).2 := by
  unfold makeDirectories
  split
  · exact .refl files
  · split
    · exact .refl files
    · exact extends_makeAlong _ _ _

/-- A directory that was made is there. -/
theorem exists_home_makeDirectories (made : (files.makeDirectories directory).1 = true) :
    ∃ base, (files.makeDirectories directory).2.home directory = .ok base := by
  by_cases empty : directory = ""
  · exact ⟨_, if_pos empty⟩
  · by_cases refused : isRefused directory = true
    · simp [makeDirectories, refused] at made
    · have along : files.makeDirectories directory =
          files.makeAlong (files.start directory) (steps directory) := by
        rw [makeDirectories, if_neg refused, if_neg empty]
      rw [along] at made ⊢
      obtain ⟨base, walk⟩ := exists_walk_makeAlong made
      refine ⟨base, ?_⟩
      rw [home, if_neg empty, resolve, if_neg refused, if_neg empty,
        (extends_makeAlong files (files.start directory) (steps directory)).start]
      exact walk

theorem write_eq_of_not (refused : ¬ (files.write path content).1 = true) :
    files.write path content = (false, files) := by
  unfold write at refused ⊢
  split at refused
  · rfl
  · split at refused
    · rfl
    · exact absurd rfl refused

theorem Accepts.home_put (accepts : files.Accepts path place) {base : Place}
    (home : files.home directory = .ok base) :
    (files.put place (.file content)).home directory = .ok base := by
  unfold FileSystem.home at home ⊢
  split at home
  · rw [if_pos ‹_›]
    exact home
  · rw [if_neg ‹_›]
    exact accepts.resolve_put home

end FileSystem

/-! ### Disks that fail -/

namespace Disk

/-- An action either does what is intended, or fails and leaves everything as it is. -/
def CarriesOut (action : StateM FileSystem Bool) (intended : FileSystem → Bool × FileSystem) : Prop :=
  ∀ files, action.run files = (false, files) ∨
    action.run files = intended files ∧ (intended files).1 = true

namespace CarriesOut

variable {action : StateM FileSystem Bool} {intended : FileSystem → Bool × FileSystem}
  {files : FileSystem}

theorem done (carriesOut : CarriesOut action intended) (success : (action.run files).1 = true) :
    action.run files = (true, (intended files).2) ∧ (intended files).1 = true := by
  rcases carriesOut files with refused | ⟨done, also⟩
  · rw [refused] at success
    cases success
  · exact ⟨by rw [done, ← also], also⟩

theorem refused (carriesOut : CarriesOut action intended) (failure : (action.run files).1 = false) :
    action.run files = (false, files) := by
  rcases carriesOut files with refused | ⟨done, success⟩
  · exact refused
  · rw [done, success] at failure
    cases failure

end CarriesOut

/-- A disk that may refuse to make a directory or to write a file, for whatever reason, and then
leaves everything as it is. -/
structure FailsCleanly (disk : Disk (StateM FileSystem)) : Prop where
  makes : ∀ path, CarriesOut (disk.makeDirectories path) (·.makeDirectories path)
  writes : ∀ path content, CarriesOut (disk.write path content) (·.write path content.toUTF8)

end Disk

/-! ### Some of the files -/

namespace SplitFile

variable {disk : Disk (StateM FileSystem)} {files : FileSystem} {list : List SplitFile}

/-- The files of a disk after all of a list have been written. -/
def written (files : FileSystem) (list : List SplitFile) : FileSystem :=
  list.foldl (fun files file => (files.write file.path file.content.toUTF8).2) files

/-- Every file of a list can be written, on what those before it leave. -/
def Writable (disk : Disk (StateM FileSystem)) (files : FileSystem) : List SplitFile → Prop
  | [] => True
  | file :: rest => ((disk.write file.path file.content).run files).1 = true ∧
      Writable disk (files.write file.path file.content.toUTF8).2 rest

instance decidableWritable (disk : Disk (StateM FileSystem)) (files : FileSystem)
    (list : List SplitFile) : Decidable (Writable disk files list) :=
  match list with
  | [] => .isTrue trivial
  | file :: rest =>
    have := decidableWritable disk (files.write file.path file.content.toUTF8).2 rest
    inferInstanceAs (Decidable (_ ∧ _))

/-- Files that can be written are written, and then it is the turn of the others. -/
theorem writeAll_append (clean : disk.FailsCleanly) (writable : Writable disk files list)
    (rest : List SplitFile) :
    (writeAll disk (list ++ rest)).run files = (writeAll disk rest).run (written files list) := by
  induction list generalizing files with
  | nil => rfl
  | cons file more ih =>
    obtain ⟨success, others⟩ := writable
    rw [List.cons_append, writeAll, StateT.run_bind, ((clean.writes file.path file.content).done success).1]
    exact ih others

theorem writeAll_stops {file : SplitFile} (clean : disk.FailsCleanly)
    (refused : ((disk.write file.path file.content).run files).1 = false) (rest : List SplitFile) :
    (writeAll disk (file :: rest)).run files = (.error (.openSplitFile file.path), files) := by
  rw [writeAll, StateT.run_bind, (clean.writes file.path file.content).refused refused]
  rfl

end SplitFile

namespace Outline

open FileSystem (IsPlain)

variable {outline : Outline} {options : Options} {format : OutputFormat} {directory : String}
  {disk : Disk (StateM FileSystem)} {files made : FileSystem} {base : Place}

/-! ### Inside the directory -/

/-- Files of some units stand directly in the directory, under names that are nothing but names.
Everywhere else all is as it was when the directory was made. -/
structure Confined (outline : Outline) (format : OutputFormat) (directory : String) (base : Place)
    (made after : FileSystem) (units : List NodeId) : Prop where
  home : after.home directory = .ok base
  inside : ∀ unit ∈ units, IsPlain (outline.fileName format unit) ∧
    after.Accepts (outline.splitPath format directory unit) (base ++ [outline.fileName format unit])
  outside : ∀ place, (∀ unit ∈ units, place ≠ base ++ [outline.fileName format unit]) →
    after.lookup? place = made.lookup? place

theorem Confined.nil (home : made.home directory = .ok base) :
    outline.Confined format directory base made made [] :=
  ⟨home, fun _ member => (List.not_mem_nil member).elim, fun _ _ => rfl⟩

/-- One more file is one more file in the directory. -/
theorem Confined.write {after : FileSystem} {units : List Nat} {unit : Nat} {content : ByteArray}
    (confined : outline.Confined format directory base made after units)
    (success : (after.write (outline.splitPath format directory unit) content).1 = true) :
    outline.Confined format directory base made
      (after.write (outline.splitPath format directory unit) content).2 (units ++ [unit]) := by
  have plain := isPlain_fileName outline format unit
  obtain ⟨place, accepts⟩ := FileSystem.exists_accepts success
  have spot : place = base ++ [outline.fileName format unit] := accepts.place_eq plain confined.home
  subst spot
  rw [accepts.write]
  refine ⟨accepts.home_put confined.home, fun other member => ?_, fun place elsewhere => ?_⟩
  · rcases List.mem_append.mp member with before | last
    · exact ⟨(confined.inside other before).1, accepts.put (confined.inside other before).2⟩
    · obtain rfl := List.mem_singleton.mp last
      exact ⟨plain, accepts.put accepts⟩
  · have apart := elsewhere unit (List.mem_append_right _ List.mem_cons_self)
    rw [FileSystem.lookup?_put accepts.inner, if_neg apart]
    exact confined.outside place fun other before =>
      elsewhere other (List.mem_append_left _ before)

theorem Confined.written {after : FileSystem} {done units : List Nat} {list : List SplitFile}
    (clean : disk.FailsCleanly) (confined : outline.Confined format directory base made after done)
    (writable : SplitFile.Writable disk after list)
    (paths : list.map (·.path) = units.map (outline.splitPath format directory)) :
    outline.Confined format directory base made (SplitFile.written after list) (done ++ units) := by
  induction list generalizing after done units with
  | nil =>
    have none : units = [] := List.map_eq_nil_iff.mp paths.symm
    rw [none, List.append_nil]
    exact confined
  | cons file rest ih =>
    obtain ⟨success, others⟩ := writable
    cases units with
    | nil => cases paths
    | cons unit more =>
      have path : file.path = outline.splitPath format directory unit := (List.cons.inj paths).1
      have one := ((clean.writes file.path file.content).done success).2
      rw [path] at one
      have first := confined.write one
      rw [← path] at first
      have all := ih first others (List.cons.inj paths).2
      rwa [List.append_assoc] at all

/-! ### The theorem -/

theorem take_unitPages (layout : Layout) (file : Option String) (units : List Nat) (k : Nat) :
    (unitPages layout file units).take k = unitPages layout file (units.take k) := by
  induction units generalizing file k with
  | nil => simp [unitPages]
  | cons unit rest ih =>
    cases k with
    | zero => rfl
    | succ k => rw [unitPages, List.take_succ_cons, List.take_succ_cons, unitPages, ih]

/-- What a file says does not depend on the units after its own. -/
theorem take_unitContents (outline : Outline) (options : Options) (format : OutputFormat)
    (units : List Nat) (k : Nat) : (outline.unitContents options format units).take k =
      outline.unitContents options format (units.take k) := by
  cases format with
  | text => exact take_unitPages _ _ _ _
  | yaml => simp [unitContents, List.map_take]

theorem not_isEmpty_splitFiles (units : outline.compileUnits ≠ []) :
    ¬ (outline.splitFiles options format directory).isEmpty = true := by
  intro empty
  have none := paths_splitFiles outline options format directory
  rw [List.isEmpty_iff.mp empty] at none
  exact units (List.map_eq_nil_iff.mp none.symm)

theorem contents_splitFiles (outline : Outline) (options : Options) (format : OutputFormat)
    (directory : String) : (outline.splitFiles options format directory).map (·.content) =
      outline.unitContents options format outline.compileUnits := by
  have complete := length_unitContents outline options format outline.compileUnits
  rw [splitFiles, List.map_map]
  exact List.map_snd_zip (Nat.le_of_eq complete)

theorem writeSplit_refused (clean : disk.FailsCleanly) (units : outline.compileUnits ≠ [])
    (refused : ((disk.makeDirectories directory).run files).1 = false) :
    (outline.writeSplit disk options format directory).run files =
      (.error (.makeDirectory directory), files) := by
  unfold writeSplit
  dsimp only
  rw [if_neg (not_isEmpty_splitFiles units), StateT.run_bind,
    (clean.makes directory).refused refused]
  rfl

/-- With the directory it is all about the files. -/
theorem writeSplit_made (clean : disk.FailsCleanly) (units : outline.compileUnits ≠ [])
    (success : ((disk.makeDirectories directory).run files).1 = true) :
    (outline.writeSplit disk options format directory).run files =
      ((SplitFile.writeAll disk (outline.splitFiles options format directory)).run
        (files.makeDirectories directory).2).map (Except.map fun _ =>
          (outline.splitFiles options format directory).map (·.path)) id := by
  unfold writeSplit
  dsimp only
  rw [if_neg (not_isEmpty_splitFiles units), StateT.run_bind,
    ((clean.makes directory).done success).1]
  change StateT.run (SplitFile.writeAll disk _ >>= _) (files.makeDirectories directory).2 = _
  rw [StateT.run_bind]
  rcases (SplitFile.writeAll disk (outline.splitFiles options format directory)).run
    (files.makeDirectories directory).2 with ⟨failure | ⟨⟨⟩⟩, after⟩
  · rfl
  · rfl

/-- Without the directory nothing happens. With it, files are written one after another up to the
first that cannot be: those before it are the first files of a run that meets no obstacle, and
whatever the units are called, they are all that changes. -/
theorem writeSplit_stops (outline : Outline) (options : Options) (format : OutputFormat)
    (directory : String) (disk : Disk (StateM FileSystem)) (files : FileSystem)
    (clean : disk.FailsCleanly) (units : outline.compileUnits ≠ []) :
    let list := outline.splitFiles options format directory
    let run := (outline.writeSplit disk options format directory).run files
    let made := (files.makeDirectories directory).2
    let after := fun k => SplitFile.written made (list.take k)
    let reaches := fun k => SplitFile.Writable disk made (list.take k)
    (((disk.makeDirectories directory).run files).1 = false →
      run = (.error (.makeDirectory directory), files)) ∧
    (((disk.makeDirectories directory).run files).1 = true →
      (∀ k unit, outline.compileUnits[k]? = some unit → ∃ file, list[k]? = some file ∧
        file.path = outline.splitPath format directory unit ∧
        (reaches k → ((disk.write file.path file.content).run (after k)).1 = false →
          run = (.error (.openSplitFile file.path), after k))) ∧
      (reaches list.length →
        run = (.ok (outline.compileUnits.map (outline.splitPath format directory)),
          after list.length)) ∧
      files.Extends made ∧ ∃ base, made.home directory = .ok base ∧ ∀ k, reaches k →
        outline.Confined format directory base made (after k) (outline.compileUnits.take k) ∧
        (list.take k).map (·.content) =
          outline.unitContents options format (outline.compileUnits.take k)) := by
  intro list run made after reaches
  have paths : list.map (·.path) = outline.compileUnits.map (outline.splitPath format directory) :=
    paths_splitFiles outline options format directory
  refine ⟨writeSplit_refused clean units, fun success => ?_⟩
  have whole : run = ((SplitFile.writeAll disk list).run made).map
      (Except.map fun _ => list.map (·.path)) id := writeSplit_made clean units success
  refine ⟨fun k unit named => ?_, fun reached => ?_,
    FileSystem.extends_makeDirectories files directory, ?_⟩
  · have placed := congrArg (·[k]?) paths
    simp only [List.getElem?_map, named, Option.map_some] at placed
    obtain ⟨file, member, path⟩ := Option.map_eq_some_iff.mp placed
    refine ⟨file, member, path, fun reached refused => ?_⟩
    have parts : list = list.take k ++ file :: list.drop (k + 1) := by
      obtain ⟨inside, rfl⟩ := List.getElem?_eq_some_iff.mp member
      rw [List.cons_getElem_drop_succ, List.take_append_drop]
    have stops := SplitFile.writeAll_stops clean refused (list.drop (k + 1))
    rw [← SplitFile.writeAll_append clean reached, ← parts] at stops
    exact whole.trans (congrArg _ stops)
  · have runs := SplitFile.writeAll_append clean reached []
    rw [List.append_nil, List.take_length] at runs
    have all : after list.length = SplitFile.written made list :=
      congrArg (SplitFile.written made) List.take_length
    rw [← paths, all]
    exact whole.trans (congrArg _ runs)
  · have there := ((clean.makes directory).done success).2
    obtain ⟨base, home⟩ := FileSystem.exists_home_makeDirectories there
    refine ⟨base, home, fun k reached => ⟨?_, ?_⟩⟩
    · refine (Confined.nil home).written clean reached ?_
      rw [List.map_take, List.map_take, paths]
    · rw [List.map_take, contents_splitFiles, take_unitContents]

/-- Files in memory, with directories made either whole or not at all. -/
private def carefulDisk : Disk (StateM FileSystem) :=
  { FileSystem.disk with makeDirectories := fun path files =>
      if (files.makeDirectories path).1 then files.makeDirectories path else (false, files) }

private theorem carefulDisk_failsCleanly : carefulDisk.FailsCleanly where
  makes path files := by
    by_cases made : (files.makeDirectories path).1 = true
    · exact .inr ⟨if_pos made, made⟩
    · exact .inl (if_neg made)
  writes path content files := by
    by_cases written : (files.write path content.toUTF8).1 = true
    · exact .inr ⟨rfl, written⟩
    · exact .inl (FileSystem.write_eq_of_not written)

/-- Two units that are called after places outside the directory. -/
private def strayOutline : Outline :=
  (Outline.build "a.o" [
    { entries := #[
      { offset := 11, tag := .compileUnit, attributes := [⟨.name, .string, .string "/etc/passwd"⟩] }] },
    { entries := #[
      { offset := 50, tag := .compileUnit, attributes := [⟨.name, .string, .string "../b.c"⟩] }] }]
    "void").1

/-- A directory stands where the second file should go. -/
private def blockedFiles : FileSystem :=
  ((FileSystem.empty "tmp").makeDirectories "out/___b_c.txt").2

theorem writeSplit_stops_stray :
    let made := (blockedFiles.makeDirectories "out").2
    let first := (strayOutline.splitFiles {} .text "out").take 1
    (strayOutline.writeSplit carefulDisk {} .text "out").run blockedFiles =
      (.error (.openSplitFile "out/___b_c.txt"), SplitFile.written made first) ∧
    first.map (·.path) = ["out/_etc_passwd.txt"] ∧
    ∃ base, made.home "out" = .ok base ∧
      strayOutline.Confined .text "out" base made (SplitFile.written made first) [1] := by
  intro made first
  have units : strayOutline.compileUnits = [1, 2] := by decide +kernel
  obtain ⟨-, reached⟩ := writeSplit_stops strayOutline {} .text "out" carefulDisk blockedFiles
    carefulDisk_failsCleanly (by rw [units]; decide)
  obtain ⟨stops, -, -, base, home, confined⟩ := reached (by decide +kernel)
  have writable : SplitFile.Writable carefulDisk made first := by decide +kernel
  have blocked : ∀ file ∈ (strayOutline.splitFiles {} .text "out")[1]?,
      ((carefulDisk.write file.path file.content).run (SplitFile.written made first)).1 = false := by
    decide +kernel
  have second : strayOutline.splitPath .text "out" 2 = "out/___b_c.txt" := by decide +kernel
  obtain ⟨file, member, path, ends⟩ := stops 1 2 (by rw [units]; rfl)
  have inside := (confined 1 writable).1
  rw [units] at inside
  refine ⟨?_, by decide +kernel, base, home, inside⟩
  rw [← second, ← path]
  exact ends writable (blocked file member)

end Outline

end DebugOutline
