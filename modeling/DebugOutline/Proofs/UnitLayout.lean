import DebugOutline.Proofs.Nesting
import DebugOutline.Proofs.Progress

/-! Forests as the bytes of a unit write them, and what is read from such bytes. -/
namespace DebugOutline.Dwarf

section
variable (encoding : Encoding) (abbreviations : Abbreviations)

/-- An entry stands between two places: first the number of its abbreviation, then its values. -/
structure Die.StandsBetween (die : Die Encoded) (before after : Cursor) : Prop where
  offset : die.offset = before.place.toUInt64
  written : ∃ number middle, Decode.uleb128.run before = some (number, middle) ∧ number ≠ 0 ∧
    abbreviations[number]? = some die.abbreviation ∧
    (readValues encoding die.abbreviation).run middle = some (die.values, after)

/-- What ends a level: a null entry or the end of the unit. -/
inductive Closes : Cursor → Cursor → Prop where
  | null (written : Decode.uleb128.run before = some (0, after)) : Closes before after
  | unitEnd (ended : cursor.isAtEnd = true) : Closes cursor cursor

/-- Nothing but null entries up to the end of the unit. -/
inductive Padded : Cursor → Prop where
  | unitEnd (ended : cursor.isAtEnd = true) : Padded cursor
  | null (written : Decode.uleb128.run before = some (0, after)) (rest : Padded after) :
      Padded before

/-- A forest stands between two places. Only an entry that may have children has a level of its
own, which is there even if it is empty. -/
inductive Forest.LaidOut : Forest Encoded → Cursor → Cursor → Prop where
  | nil : LaidOut .nil cursor cursor
  | leaf {die : Die Encoded} {siblings : Forest Encoded} {before behind after : Cursor}
      (stands : die.StandsBetween encoding abbreviations before behind)
      (childless : die.hasChildren = false) (rest : LaidOut siblings behind after) :
      LaidOut (.cons die .nil siblings) before after
  | parent {die : Die Encoded} {nested siblings : Forest Encoded}
      {before inside closing behind after : Cursor}
      (stands : die.StandsBetween encoding abbreviations before inside)
      (opens : die.hasChildren = true) (inner : LaidOut nested inside closing)
      (closes : Closes closing behind) (rest : LaidOut siblings behind after) :
      LaidOut (.cons die nested siblings) before after

variable {encoding abbreviations}

theorem readStream_atEnd (ended : cursor.isAtEnd = true) (fuel : Nat) (step : Int) :
    (readStream encoding abbreviations (fuel + 1) step).run cursor = some ([], cursor) := by
  simp [readStream, Decode.isAtEnd, StateT.run_bind, ended]

theorem isAtEnd_eq_false (written : Decode.uleb128.run cursor = some (number, after)) :
    cursor.isAtEnd = false := by
  have present := Decode.remaining_uleb128 written
  simp only [Cursor.remaining, Cursor.isAtEnd, decide_eq_false_iff_not] at *
  omega

theorem readStream_null (written : Decode.uleb128.run before = some (0, after)) (fuel : Nat)
    (step : Int) : (readStream encoding abbreviations (fuel + 1) step).run before =
      (readStream encoding abbreviations fuel (step - 1)).run after := by
  simp [readStream, Decode.isAtEnd, StateT.run_bind, isAtEnd_eq_false written, written]

theorem readStream_entry {die : Die Encoded}
    (stands : die.StandsBetween encoding abbreviations before after) (fuel : Nat) (step : Int) :
    (readStream encoding abbreviations (fuel + 1) step).run before =
      ((readStream encoding abbreviations fuel (if die.hasChildren then 1 else 0)).run after).map
        fun (items, last) => (die.item step :: items, last) := by
  obtain ⟨number, middle, written, positive, found, values⟩ := stands.written
  simp only [readStream, Decode.isAtEnd, bind_pure_comp, Nat.toUInt64_eq, bind_map_left,
    StateT.run_bind, StateT.run_get, Option.pure_def, Option.bind_eq_bind, Option.bind_some,
    isAtEnd_eq_false written, Bool.false_eq_true, ↓reduceIte, written, positive, found, values,
    StateT.run_map, Option.map_eq_map, Die.item, stands.offset]
  rfl

/-- An entry takes a byte at least. -/
theorem Die.StandsBetween.remaining_lt {die : Die Encoded}
    (stands : die.StandsBetween encoding abbreviations before after) :
    after.remaining < before.remaining := by
  obtain ⟨_, middle, written, -, -, values⟩ := stands.written
  exact Nat.lt_of_le_of_lt (advances_readValues encoding _ middle _ after values)
    (Decode.remaining_uleb128 written)

/-- Behind what ends a level the next entry is one level less deep. -/
theorem Closes.readStream_eq (closes : Closes before after) (enough : before.remaining < fuel)
    (step : Int) : ∃ left, after.remaining < left ∧
      (readStream encoding abbreviations fuel step).run before =
        (readStream encoding abbreviations left (step - 1)).run after := by
  obtain ⟨fuel, rfl⟩ := Nat.exists_eq_add_one_of_ne_zero (Nat.ne_of_gt (Nat.zero_lt_of_lt enough))
  cases closes with
  | null written =>
    have gone := Decode.remaining_uleb128 written
    exact ⟨fuel, by omega, readStream_null written fuel step⟩
  | unitEnd ended =>
    exact ⟨fuel + 1, enough, by rw [readStream_atEnd ended, readStream_atEnd ended]⟩

/-- A forest whose roots are `depth` deep is read as the differences of its depths, and what is
behind it as if its last entry had come just before. -/
theorem Forest.LaidOut.readStream_eq {forest : Forest Encoded}
    (laidOut : forest.LaidOut encoding abbreviations before after) (depth : Nat) (last : Int)
    (enough : before.remaining < fuel) : ∃ left, after.remaining < left ∧
      (readStream encoding abbreviations fuel (depth - last)).run before =
        ((readStream encoding abbreviations left
            (depth - lastDepth last (forest.preorder depth))).run after).map
          fun (items, stop) => (differences last (forest.preorder depth) ++ items, stop) := by
  induction laidOut generalizing depth last fuel with
  | nil => exact ⟨fuel, enough, by simp [preorder, lastDepth, differences]⟩
  | @leaf die siblings before behind after stands childless rest ih =>
    obtain ⟨fuel, rfl⟩ :=
      Nat.exists_eq_add_one_of_ne_zero (Nat.ne_of_gt (Nat.zero_lt_of_lt enough))
    have behindEnough : behind.remaining < fuel := by
      have gone := stands.remaining_lt
      omega
    obtain ⟨left, leftEnough, leftEq⟩ := ih depth depth behindEnough
    refine ⟨left, leftEnough, ?_⟩
    rw [Int.sub_self] at leftEq
    rw [readStream_entry stands, childless, if_neg Bool.false_ne_true, leftEq, Option.map_map]
    rfl
  | @parent die nested siblings before inside closing behind after stands opens inner closes rest
      innerIh restIh =>
    obtain ⟨fuel, rfl⟩ :=
      Nat.exists_eq_add_one_of_ne_zero (Nat.ne_of_gt (Nat.zero_lt_of_lt enough))
    have insideEnough : inside.remaining < fuel := by
      have gone := stands.remaining_lt
      omega
    obtain ⟨innerLeft, innerEnough, innerEq⟩ := innerIh (depth + 1) depth insideEnough
    obtain ⟨closedLeft, closedEnough, closedEq⟩ := closes.readStream_eq innerEnough
      ((depth + 1 : Nat) - lastDepth depth (nested.preorder (depth + 1)))
    obtain ⟨left, leftEnough, leftEq⟩ :=
      restIh depth (lastDepth depth (nested.preorder (depth + 1))) closedEnough
    refine ⟨left, leftEnough, ?_⟩
    have innerStep : ((depth + 1 : Nat) : Int) - depth = 1 := by omega
    have outerStep : ((depth + 1 : Nat) : Int) - lastDepth depth (nested.preorder (depth + 1)) - 1 =
        depth - lastDepth depth (nested.preorder (depth + 1)) := by omega
    rw [innerStep] at innerEq
    rw [outerStep, leftEq] at closedEq
    rw [readStream_entry stands, if_pos opens, innerEq, closedEq]
    simp only [Option.map_map, preorder, List.cons_append, differences, lastDepth,
      differences_append, lastDepth_append, List.append_assoc, Function.comp_def]

/-- There is nothing in the padding. -/
theorem Padded.readStream_eq (padded : Padded cursor) (enough : cursor.remaining < fuel)
    (step : Int) : ∃ stop,
      (readStream encoding abbreviations fuel step).run cursor = some ([], stop) := by
  induction padded generalizing fuel step with
  | @unitEnd cursor ended =>
    obtain ⟨fuel, rfl⟩ :=
      Nat.exists_eq_add_one_of_ne_zero (Nat.ne_of_gt (Nat.zero_lt_of_lt enough))
    exact ⟨cursor, readStream_atEnd ended fuel step⟩
  | null written rest ih =>
    have closes := Closes.null written
    obtain ⟨left, leftEnough, leftEq⟩ := closes.readStream_eq enough step
    rw [leftEq]
    exact ih leftEnough (step - 1)

/-- The bytes of a unit with a forest and nothing else are read as the stream of the forest. -/
theorem Forest.LaidOut.readStream_stream {forest : Forest Encoded}
    (laidOut : forest.LaidOut encoding abbreviations before after) (padded : Padded after) :
    ∃ stop, (readStream encoding abbreviations (before.remaining + 1) 0).run before =
      some (forest.stream, stop) := by
  obtain ⟨left, enough, streamed⟩ := laidOut.readStream_eq 0 0 (Nat.lt_succ_self before.remaining)
  obtain ⟨stop, padding⟩ := padded.readStream_eq enough (0 - lastDepth 0 (forest.preorder 0))
  refine ⟨stop, ?_⟩
  rw [Int.natCast_zero, Int.sub_self, padding] at streamed
  rw [streamed]
  simp only [Option.map_some, List.append_nil, stream]

/-- What a unit gives, if it gives anything, are the entries of its stream. -/
theorem UnitHeader.entries_of_record? {header : UnitHeader} {sections : Sections}
    (found : abbreviationsAt? sections.abbreviations header.abbreviationOffset = some abbreviations)
    (streamed : (readStream header.encoding abbreviations (header.entries.remaining + 1) 0).run
      header.entries = some (stream, stop))
    (given : header.record? sections = some record) : ∃ textOffsetsBase items,
      stream.mapM (StreamEntry.interpret? sections.texts
        ⟨header.encoding, header.offset, textOffsetsBase⟩) = some items ∧
      record.entries = (nest 0 [] items).toArray := by
  simp only [UnitHeader.record?, found, streamed, Option.bind_eq_bind, Option.bind_some,
    Option.bind_eq_some_iff] at given
  obtain ⟨first, -, given⟩ := given
  split at given
  · cases given
  · split at given
    all_goals
      simp only [Option.bind_eq_some_iff, Option.pure_def, Option.some.injEq] at given
    · obtain ⟨_, -, items, itemsFound, rfl⟩ := given
      exact ⟨_, items, itemsFound, rfl⟩
    · obtain ⟨items, itemsFound, rfl⟩ := given
      exact ⟨_, items, itemsFound, rfl⟩

end

/-- A forest of entries is recovered from its depth-first stream, whatever the nesting. The stream
has a meaning exactly if all values of the forest have one; then it gives the entries in their
order, each with its own offset, with the offset of the entry that it is nested in, if there is one,
and with its values next to the forms of its abbreviation. A unit whose bytes write the forest is
read as this stream, where the offsets are places in the section, and the entries of a unit that is
read so are those of the forest. -/
theorem Forest.recovered (forest : Forest Encoded) :
    (∀ sections unit, (forest.stream.mapM (StreamEntry.interpret? sections unit)).map (nest 0 []) =
      (forest.interpret? sections unit).map (Forest.entries none)) ∧
    (∀ encoding abbreviations before after, forest.LaidOut encoding abbreviations before after →
      Padded after → ∃ stop,
        (readStream encoding abbreviations (before.remaining + 1) 0).run before =
          some (forest.stream, stop)) ∧
    ∀ (sections : Sections) (header : UnitHeader) abbreviations stop record,
      abbreviationsAt? sections.abbreviations header.abbreviationOffset = some abbreviations →
      (readStream header.encoding abbreviations (header.entries.remaining + 1) 0).run
        header.entries = some (forest.stream, stop) →
      header.record? sections = some record → ∃ textOffsetsBase meant,
        forest.interpret? sections.texts ⟨header.encoding, header.offset, textOffsetsBase⟩ =
          some meant ∧ record.entries = (meant.entries none).toArray := by
  have meaning : ∀ sections unit,
      (forest.stream.mapM (StreamEntry.interpret? sections unit)).map (nest 0 []) =
        (forest.interpret? sections unit).map (Forest.entries none) := by
    intro sections unit
    rw [mapM_stream, Option.map_map]
    exact congrArg (Option.map · _) (funext nest_stream)
  refine ⟨meaning, fun _ _ _ _ laidOut padded => laidOut.readStream_stream padded, ?_⟩
  intro sections header abbreviations stop record found streamed given
  obtain ⟨textOffsetsBase, items, itemsFound, entriesEq⟩ :=
    header.entries_of_record? found streamed given
  have nested := meaning sections.texts ⟨header.encoding, header.offset, textOffsetsBase⟩
  rw [itemsFound, Option.map_some] at nested
  obtain ⟨meant, meantFound, meantEq⟩ := Option.map_eq_some_iff.mp nested.symm
  exact ⟨textOffsetsBase, meant, meantFound, by rw [entriesEq, meantEq]⟩

private def spaceShape : AttributeShape := ⟨.name, .string, none⟩

private def space (offset : UInt64) (name : UInt8) : Die Encoded :=
  ⟨offset, .namespaceEntry, true, [(spaceShape, .text [name])]⟩

/-- The third entry is in the second one and that in the first; the fourth is beside the first. -/
private def spaces : Forest Encoded :=
  .cons (space 0 97) (.cons (space 3 98) (.cons (space 6 99) .nil .nil) .nil)
    (.cons (space 12 100) .nil .nil)

private def spaceSections : Sections where
  info.bytes := ⟨#[1, 97, 0, 1, 98, 0, 1, 99, 0, 0, 0, 0, 1, 100, 0, 0]⟩
  abbreviations.bytes := ⟨#[1, 0x39, 1, 3, 8, 0, 0, 0]⟩

private def spaceTable : Abbreviations := (∅ : Abbreviations).insert 1 (space 0 97).abbreviation

private def spaceHeader : UnitHeader where
  offset := 0
  encoding := ⟨false, 5, 8⟩
  abbreviationOffset := 0
  entries := spaceSections.info.start

private theorem spaceTable_found :
    abbreviationsAt? spaceSections.abbreviations spaceHeader.abbreviationOffset = some spaceTable := by
  let start := spaceSections.abbreviations.start
  let behind : Cursor := { start with place := 7 }
  have opening : start.isAtEnd = false ∧
      Decode.uleb128.run start = some (1, { start with place := 1 }) ∧
      readAbbreviation.run { start with place := 1 } = some ((space 0 97).abbreviation, behind) :=
    ⟨rfl, rfl, rfl⟩
  have closing : behind.isAtEnd = false ∧
      Decode.uleb128.run behind = some (0, { start with place := 8 }) := ⟨rfl, rfl⟩
  -- The table does not compute, so what it lacks is told by a lemma on maps.
  have run : (readAbbreviations 9 ∅).run start = some (spaceTable, { start with place := 8 }) := by
    simp only [readAbbreviations, Decode.isAtEnd, StateT.run_bind, StateT.run_get, opening,
      closing, Option.pure_def, Option.bind_eq_bind, Option.bind_some, bind_pure_comp,
      bind_map_left, one_ne_zero, Bool.false_eq_true, Std.HashMap.contains_empty, if_false]
    rfl
  exact congrArg (Option.map (·.1)) run

private def spaceCursor (place : Nat) : Cursor := { spaceHeader.entries with place }

private theorem space_stands (place : Nat) (name : UInt8)
    (number : Decode.uleb128.run (spaceCursor place) = some (1, spaceCursor (place + 1)))
    (values : (readValues spaceHeader.encoding (space 0 97).abbreviation).run
      (spaceCursor (place + 1)) = some ([(.name, .text [name])], spaceCursor (place + 3))) :
    (space place.toUInt64 name).StandsBetween spaceHeader.encoding spaceTable (spaceCursor place)
      (spaceCursor (place + 3)) :=
  ⟨rfl, 1, spaceCursor (place + 1), number, by decide, Std.HashMap.getElem?_insert_self, values⟩

private theorem space_closes (place : Nat)
    (null : Decode.uleb128.run (spaceCursor place) = some (0, spaceCursor (place + 1))) :
    Closes (spaceCursor place) (spaceCursor (place + 1)) := .null null

private theorem spaces_laidOut : spaces.LaidOut spaceHeader.encoding spaceTable spaceHeader.entries
    (spaceCursor 16) := by
  refine .parent (space_stands 0 97 rfl rfl) rfl ?_ (space_closes 11 rfl) ?_
  · refine .parent (space_stands 3 98 rfl rfl) rfl ?_ (space_closes 10 rfl) .nil
    exact .parent (space_stands 6 99 rfl rfl) rfl .nil (space_closes 9 rfl) .nil
  · exact .parent (space_stands 12 100 rfl rfl) rfl .nil (space_closes 15 rfl) .nil

/-- The entries of the forest, with their parents. -/
private def spaceEntries : List Entry := [
  ⟨0, .namespaceEntry, none, [⟨.name, .string, .string "a"⟩]⟩,
  ⟨3, .namespaceEntry, some 0, [⟨.name, .string, .string "b"⟩]⟩,
  ⟨6, .namespaceEntry, some 3, [⟨.name, .string, .string "c"⟩]⟩,
  ⟨12, .namespaceEntry, none, [⟨.name, .string, .string "d"⟩]⟩]

theorem spaces_recovered :
    ∃ record, spaceHeader.record? spaceSections = some record ∧
      record.entries = spaceEntries.toArray := by
  obtain ⟨meaning, readable, entriesOf⟩ := spaces.recovered
  obtain ⟨stop, streamed⟩ := readable _ _ _ _ spaces_laidOut (.unitEnd rfl)
  have meant : ∀ base, ∃ meant, spaces.interpret? {} ⟨spaceHeader.encoding, 0, base⟩ = some meant ∧
      meant.entries none = spaceEntries := fun base => ⟨_, rfl, rfl⟩
  have given : ∃ record, spaceHeader.record? spaceSections = some record := by
    simp only [UnitHeader.record?, spaceTable_found, streamed, Option.bind_eq_bind, Option.bind_some]
    exact ⟨_, rfl⟩
  obtain ⟨record, given⟩ := given
  refine ⟨record, given, ?_⟩
  obtain ⟨base, result, resultFound, entriesEq⟩ :=
    entriesOf _ _ _ _ _ spaceTable_found streamed given
  obtain ⟨expected, expectedFound, expectedEq⟩ := meant base
  have same : some expected = some result := expectedFound.symm.trans resultFound
  cases same
  rw [entriesEq, expectedEq]

end DebugOutline.Dwarf
