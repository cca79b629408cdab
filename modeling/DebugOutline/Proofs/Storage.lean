import Mathlib
import DebugOutline.Disk.Memory
import DebugOutline.Split

/-! Files in memory: what was written at a path is read there again, and what is written elsewhere
leaves it alone. -/
namespace DebugOutline

namespace FileSystem

variable {files : FileSystem} {place other elsewhere : Place} {entry : FileEntry}
  {path directory name : String} {content : ByteArray}

/-! ### One entry -/

private theorem lookup_others (entries : List (Place × FileEntry)) (apart : other ≠ place) :
    (entries.filter fun item => item.1 != place).lookup other = entries.lookup other := by
  induction entries with
  | nil => rfl
  | cons item rest ih =>
    obtain ⟨spot, entry⟩ := item
    by_cases same : spot = place
    · have missed : (other == spot) = false := by simpa [same] using apart
      simp [same, ih, List.lookup, same ▸ missed]
    · simp [same, List.lookup, ih]

private theorem lookup_gone (entries : List (Place × FileEntry)) (place : Place) :
    (entries.filter fun item => item.1 != place).lookup place = none := by
  rw [List.lookup_eq_none_iff]
  intro item member
  have apart := (List.mem_filter.mp member).2
  rw [bne_iff_ne] at apart
  simpa using apart.symm

theorem lookup?_put (inner : place ≠ []) (entry : FileEntry) (other : Place) :
    (files.put place entry).lookup? other =
      if other = place then some entry else files.lookup? other := by
  unfold lookup? put
  by_cases first : other = []
  · simp [first, inner.symm]
  · by_cases same : other = place
    · subst same
      simp [first, List.lookup_append, lookup_gone]
    · have missed : (other == place) = false := by simpa using same
      simp [first, same, List.lookup_append, lookup_others _ same, List.lookup, missed]

/-- A path leads to a place where a file stands or can be made. -/
structure Accepts (files : FileSystem) (path : String) (place : Place) : Prop where
  resolves : files.resolve path = .ok place
  free : files.lookup? place ≠ some .directory

theorem exists_accepts (written : (files.write path content).1 = true) :
    ∃ place, files.Accepts path place := by
  unfold write at written
  split at written
  · cases written
  · rename_i place resolves
    split at written
    · cases written
    · rename_i free
      exact ⟨place, resolves, free⟩

namespace Accepts

variable (accepts : files.Accepts path place)
include accepts

theorem write (content : ByteArray) :
    files.write path content = (true, files.put place (.file content)) := by
  unfold FileSystem.write
  rw [accepts.resolves]
  dsimp only
  split
  · rename_i directory
    exact absurd directory accepts.free
  · rfl

theorem read (there : files.lookup? place = some (.file content)) :
    files.read path = .ok content := by
  unfold FileSystem.read
  rw [accepts.resolves]
  simp [bind, Except.bind, there]
  rfl

theorem inner : place ≠ [] := by
  rintro rfl
  exact accepts.free rfl

/-! ### Other paths -/

private theorem lookup?_directory (directory : files.lookup? other = some .directory) :
    (files.put place (.file content)).lookup? other = some .directory := by
  rw [lookup?_put accepts.inner, if_neg, directory]
  rintro rfl
  exact accepts.free directory

private theorem step_put {next : Place} (leads : files.step other name = .ok next) :
    (files.put place (.file content)).step other name = .ok next := by
  unfold step at leads ⊢
  split at leads
  · cases leads
  · cases leads
  · rename_i directory
    rw [accepts.lookup?_directory directory]
    exact leads

private theorem steps_put {names : List String}
    (leads : names.foldlM files.step other = .ok elsewhere) :
    names.foldlM (files.put place (.file content)).step other = .ok elsewhere := by
  induction names generalizing other with
  | nil => exact leads
  | cons name rest ih =>
    rw [List.foldlM_cons] at leads ⊢
    cases first : files.step other name with
    | error problem => simp [first, bind, Except.bind] at leads
    | ok next =>
      rw [first] at leads
      rw [accepts.step_put first]
      exact ih leads

/-- Writing a file changes no directory, so all paths lead where they led. -/
theorem resolve_put {further : String} (leads : files.resolve further = .ok elsewhere) :
    (files.put place (.file content)).resolve further = .ok elsewhere := by
  unfold resolve at leads ⊢
  split at leads
  · cases leads
  split at leads
  · cases leads
  rw [if_neg ‹_›, if_neg ‹_›]
  exact accepts.steps_put leads

theorem put {further : String} (also : files.Accepts further elsewhere) :
    (files.put place (.file content)).Accepts further elsewhere := by
  constructor
  · exact accepts.resolve_put also.resolves
  · rw [lookup?_put accepts.inner]
    split
    · simp
    · exact also.free

end Accepts

/-! ### Files of one directory -/

/-- A name that is one step of a path and stays in its directory. -/
structure IsPlain (name : String) : Prop where
  oneStep : '/' ∉ name.toList
  stays : name ≠ "" ∧ name ≠ "." ∧ name ≠ ".."

/-- Where the files of a directory stand. -/
def home (files : FileSystem) (directory : String) : Except ReadError Place :=
  if directory = "" then .ok files.workingDirectory else files.resolve directory

theorem walk_of_resolve (leads : files.resolve path = .ok place) :
    (steps path).foldlM files.step (files.start path) = .ok place := by
  unfold resolve at leads
  split at leads
  · cases leads
  split at leads
  · cases leads
  exact leads

private theorem step_stays (leads : files.step other "" = .ok place) : place = other := by
  unfold step at leads
  split at leads
  · cases leads
  · cases leads
  · have short : ¬ nameLimit < "".utf8ByteSize := by decide
    rw [if_neg short, if_pos (.inl rfl)] at leads
    exact (Except.ok.inj leads).symm

private theorem walk_snoc {before : List String} {first : Place}
    (leads : (before ++ [name]).foldlM files.step first = .ok place) :
    ∃ base, before.foldlM files.step first = .ok base ∧ files.step base name = .ok place := by
  rw [List.foldlM_append] at leads
  cases walked : before.foldlM files.step first with
  | error problem => simp [walked, bind, Except.bind] at leads
  | ok base =>
    rw [walked] at leads
    have one : [name].foldlM files.step base = .ok place := leads
    exact ⟨base, rfl, by simpa only [List.foldlM_cons, List.foldlM_nil, bind_pure] using one⟩

private theorem steps_append (before after : List Char) :
    ((before ++ '/' :: after).splitOn '/').map String.ofList =
      (before.splitOn '/').map String.ofList ++ (after.splitOn '/').map String.ofList := by
  rw [List.splitOn_eq_splitOnP, List.splitOnP_append_cons _ _ (by simp), List.map_append]
  rfl

/-- Every plain name is the last step from the directory, wherever that is. -/
theorem exists_steps_under (files : FileSystem) (directory : String) :
    ∃ first before, (∀ name, IsPlain name → files.start (Path.under directory name) = first ∧
      steps (Path.under directory name) = before ++ [name]) ∧
      ∀ base, files.home directory = .ok base → before.foldlM files.step first = .ok base := by
  have alone {name : String} (plain : IsPlain name) :
      (name.toList.splitOn '/').map String.ofList = [name] := by
    rw [List.splitOn_eq_singleton plain.oneStep]
    simp
  by_cases empty : directory = ""
  · refine ⟨files.workingDirectory, [], fun name plain => ?_, fun base home => ?_⟩
    · have relative : name.toList.head? ≠ some '/' := fun same =>
        plain.oneStep (List.mem_of_mem_head? same)
      simp [Path.under, empty, start, steps, relative, alone plain]
    · rw [FileSystem.home, if_pos empty] at home
      cases home
      rfl
  · have head (rest : List Char) : (directory.toList ++ rest).head? = directory.toList.head? := by
      apply List.head?_append_of_ne_nil
      simpa using empty
    by_cases closed : directory.toList.getLast? = some '/'
    · obtain ⟨before, split⟩ := List.getLast?_eq_some_iff.mp closed
      refine ⟨files.start directory, (before.splitOn '/').map String.ofList, fun name plain =>
        ⟨?_, ?_⟩, fun base home => ?_⟩
      · simp [Path.under, empty, closed, start, head]
      · have joined : directory.toList ++ name.toList = before ++ '/' :: name.toList := by
          simp [split]
        simp only [Path.under, empty, closed, if_true, if_false, steps, String.toList_append]
        rw [joined, steps_append, alone plain]
      · rw [FileSystem.home, if_neg empty] at home
        have last : steps directory = (before.splitOn '/').map String.ofList ++ [""] := by
          rw [steps, split, steps_append]
          rfl
        have walk := walk_of_resolve home
        rw [last] at walk
        obtain ⟨spot, walked, stays⟩ := walk_snoc walk
        rw [walked, step_stays stays]
    · refine ⟨files.start directory, steps directory, fun name plain => ⟨?_, ?_⟩,
        fun base home => ?_⟩
      · simp [Path.under, empty, closed, start, head]
      · have joined : directory.toList ++ "/".toList ++ name.toList =
            directory.toList ++ '/' :: name.toList := by simp
        simp only [Path.under, empty, closed, if_false, steps, String.toList_append]
        rw [joined, steps_append, alone plain]
      · rw [FileSystem.home, if_neg empty] at home
        exact walk_of_resolve home

private theorem place_of_step (plain : IsPlain name) {base : Place}
    (leads : files.step base name = .ok place) : place = base ++ [name] := by
  unfold step at leads
  split at leads
  · cases leads
  · cases leads
  · split at leads
    · cases leads
    · simp only [plain.stays, or_self, if_false] at leads
      cases leads
      rfl

private theorem exists_base {first : Place} {before : List String}
    (under : files.start path = first ∧ steps path = before ++ [name]) (plain : IsPlain name)
    (accepts : files.Accepts path place) :
    ∃ base, before.foldlM files.step first = .ok base ∧ place = base ++ [name] := by
  have walk := walk_of_resolve accepts.resolves
  rw [under.1, under.2] at walk
  obtain ⟨base, walked, step⟩ := walk_snoc walk
  exact ⟨base, walked, place_of_step plain step⟩

/-- A file of a directory stands directly in it. -/
theorem Accepts.place_eq (accepts : files.Accepts (Path.under directory name) place)
    (plain : IsPlain name) {base : Place} (home : files.home directory = .ok base) :
    place = base ++ [name] := by
  obtain ⟨first, before, under, leads⟩ := exists_steps_under files directory
  obtain ⟨spot, walked, rfl⟩ := exists_base (under name plain) plain accepts
  rw [leads base home] at walked
  cases walked
  rfl

/-- Different names in one directory are different places. -/
theorem Accepts.place_ne {first second : String}
    (accepts : files.Accepts (Path.under directory first) place)
    (also : files.Accepts (Path.under directory second) other) (plain : IsPlain first)
    (simple : IsPlain second) (apart : first ≠ second) : place ≠ other := by
  obtain ⟨start, before, under, -⟩ := exists_steps_under files directory
  obtain ⟨base, walked, rfl⟩ := exists_base (under first plain) plain accepts
  obtain ⟨same, again, rfl⟩ := exists_base (under second simple) simple also
  rw [walked] at again
  cases again
  simpa using apart

end FileSystem

namespace SplitFile

open FileSystem (Accepts)

variable {files : FileSystem}

/-- Every file is written. Each place has the content written there last, and all paths lead where
they led. -/
theorem writeAll_lookup {list : List SplitFile} {place : String → Place}
    (accepted : ∀ file ∈ list, files.Accepts file.path (place file.path)) :
    ∃ after, (writeAll FileSystem.disk list).run files = (.ok (), after) ∧
      (∀ spot, after.lookup? spot =
        ((list.filter fun file => place file.path == spot).getLast?.map fun file =>
          FileEntry.file file.content.toUTF8).or (files.lookup? spot)) ∧
      ∀ path spot, files.Accepts path spot → after.Accepts path spot := by
  induction list generalizing files with
  | nil => exact ⟨files, rfl, fun spot => rfl, fun path spot accepts => accepts⟩
  | cons file rest ih =>
    have first := accepted file List.mem_cons_self
    let next := files.put (place file.path) (.file file.content.toUTF8)
    obtain ⟨after, run, looked, kept⟩ := @ih next fun other member =>
      first.put (accepted other (List.mem_cons_of_mem _ member))
    refine ⟨after, ?_, ?_, fun path spot accepts => kept path spot (first.put accepts)⟩
    · rw [← run]
      simp [writeAll, FileSystem.disk, StateT.run, bind, StateT.bind, first.write, next]
    · intro spot
      rw [looked, FileSystem.lookup?_put first.inner, List.filter_cons]
      by_cases same : place file.path = spot
      · cases last : (rest.filter fun file => place file.path == spot).getLast? <;>
          simp [same, List.getLast?_cons, last]
      · simp [same, Ne.symm same]

/-- Where different paths lead to different places, the content written to a path last is read
there. -/
theorem writeAll_run {list : List SplitFile} {place : String → Place}
    (accepted : ∀ file ∈ list, files.Accepts file.path (place file.path))
    (apart : ∀ file ∈ list, ∀ other ∈ list, place other.path = place file.path →
      other.path = file.path) :
    ∃ after, (writeAll FileSystem.disk list).run files = (.ok (), after) ∧
      ∀ file ∈ list, ∃ last, (list.filter fun other => other.path == file.path).getLast? = some last ∧
        after.read file.path = .ok last.content.toUTF8 := by
  obtain ⟨after, run, looked, kept⟩ := writeAll_lookup accepted
  refine ⟨after, run, fun file member => ?_⟩
  have together : (list.filter fun other => place other.path == place file.path) =
      list.filter fun other => other.path == file.path := by
    apply List.filter_congr
    intro other also
    rw [Bool.eq_iff_iff, beq_iff_eq, beq_iff_eq]
    exact ⟨apart file member other also, congrArg place⟩
  have present : (list.filter fun other => other.path == file.path) ≠ [] :=
    List.ne_nil_of_mem (List.mem_filter.mpr ⟨member, by simp⟩)
  refine ⟨_, List.getLast?_eq_some_getLast present, ?_⟩
  apply (kept _ _ (accepted file member)).read
  rw [looked, together, List.getLast?_eq_some_getLast present]
  rfl

end SplitFile

end DebugOutline
