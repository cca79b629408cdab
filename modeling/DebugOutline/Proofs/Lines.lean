import DebugOutline.Render.Yaml
import Mathlib.Data.List.Basic

/-! Lines and what they say where they start. A text without line feeds that does not end in a
carriage return is read back as the line that was written; and a few letters at its start settle
which key a line of the document has, if any, and that it does not start an object. -/
namespace DebugOutline

namespace Text

/-- A text that makes one line, and is read back as it was written. -/
def IsLine (text : String) : Prop := '\n' ∉ text.toList ∧ text.toList.getLast? ≠ some '\r'

instance : DecidablePred IsLine := fun _ => inferInstanceAs (Decidable (_ ∧ _))

/-- Letters that neither end a line nor are dropped at the end of one. -/
def isPlain (letters : List Char) : Bool := letters.all fun c => c != '\n' && c != '\r'

variable {text start : String} {texts : List String}

namespace IsLine

theorem append (first : IsLine start) (second : IsLine text) : IsLine (start ++ text) := by
  unfold IsLine at *
  rw [String.toList_append, List.mem_append, not_or, List.getLast?_append]
  refine ⟨⟨first.1, second.1⟩, ?_⟩
  cases last : text.toList.getLast? with
  | none => simpa using first.2
  | some c => simpa [last] using second.2

theorem of_plain (plain : ∀ c ∈ text.toList, c ≠ '\n' ∧ c ≠ '\r') : IsLine text :=
  ⟨fun feed => (plain _ feed).1 rfl, fun last => (plain _ (List.mem_of_getLast? last)).2 rfl⟩

/-- A text that is spelled out is checked letter by letter. -/
theorem spelled (letters : List Char) (plain : isPlain letters = true) :
    IsLine (String.ofList letters) := by
  refine .of_plain fun c member => ?_
  rw [String.toList_ofList] at member
  simpa using List.all_eq_true.mp plain c member

/-- A letter may be repeated as often as one likes. -/
theorem replicate (count : Nat) {c : Char} (plain : isPlain [c] = true) :
    IsLine (String.ofList (List.replicate count c)) := by
  refine .spelled _ (List.all_eq_true.mpr fun other member => ?_)
  rw [List.eq_of_mem_replicate member]
  simpa [isPlain] using plain

theorem blanks (count : Nat) : IsLine (Text.blanks count) := .replicate count (by decide)

/-- Quotes keep a carriage return away from the end. -/
theorem quote (noFeed : '\n' ∉ text.toList) : IsLine (Scalar.quote text) := by
  have escaped : '\n' ∉ text.toList.flatMap Scalar.escapeChar := by
    intro feed
    obtain ⟨c, member, escaped⟩ := List.mem_flatMap.mp feed
    unfold Scalar.escapeChar at escaped
    split at escaped
    · rename_i special
      rcases special with rfl | rfl <;> simp at escaped
    · exact noFeed (List.mem_singleton.mp escaped ▸ member)
  have last : (Scalar.quote text).toList.getLast? = some '"' := by
    rw [Scalar.quote, String.toList_append]
    exact List.getLast?_concat
  refine ⟨?_, by rw [last]; decide⟩
  unfold Scalar.quote Scalar.escape
  simp [escaped]

theorem orNull (noFeed : '\n' ∉ text.toList) : IsLine (Scalar.orNull text) := by
  unfold Scalar.orNull
  split
  · exact .spelled _ (by decide)
  · exact .quote noFeed

theorem ofOption {text : Option String} (noFeed : ∀ present ∈ text, '\n' ∉ present.toList) :
    IsLine (Scalar.ofOption text) := by
  cases text with
  | none => exact .spelled _ (by decide)
  | some text => exact .quote (noFeed text rfl)

theorem bool (value : Bool) : IsLine (Scalar.bool value) := by
  cases value <;> exact .spelled _ (by decide)

end IsLine

/-! ### Numbers -/

theorem exists_of_mem_toDigits {base value : Nat} (large : 1 < base) {c : Char}
    (digit : c ∈ base.toDigits value) : ∃ digit < base, c = digit.digitChar := by
  induction value using Nat.strongRecOn with
  | _ value ih =>
    rw [Nat.toDigits_eq_if large] at digit
    split at digit
    · rename_i small
      exact ⟨value, small, List.mem_singleton.mp digit⟩
    · rename_i more
      rcases List.mem_append.mp digit with earlier | last
      · exact ih _ (Nat.div_lt_self (by omega) large) earlier
      · exact ⟨_, Nat.mod_lt _ (by omega), List.mem_singleton.mp last⟩

theorem IsLine.hex (value : Nat) : IsLine (hex value) := by
  have plain : ∀ digit < 16, digit.digitChar ≠ '\n' ∧ digit.digitChar ≠ '\r' := by decide
  refine .of_plain fun c member => ?_
  unfold Text.hex at member
  rw [String.toList_ofList] at member
  obtain ⟨digit, small, rfl⟩ := exists_of_mem_toDigits (by omega) member
  exact plain digit small

/-- The text of a number in base ten: digits, with a minus sign in front or without. -/
def IsNumeral (text : String) : Prop := ∀ c ∈ text.toList, c.isDigit = true ∨ c = '-'

theorem IsNumeral.decimal (value : Nat) : IsNumeral (decimal value) := by
  intro c member
  unfold Text.decimal at member
  rw [String.toList_ofList] at member
  exact .inl (Nat.isDigit_of_mem_toDigits (by omega) (by omega) member)

theorem IsNumeral.signedDecimal (value : Int) : IsNumeral (signedDecimal value) := by
  unfold Text.signedDecimal
  split
  · intro c member
    rw [String.toList_append, List.mem_append] at member
    rcases member with sign | digit
    · exact .inr (by simpa using sign)
    · exact IsNumeral.decimal _ c digit
  · exact .decimal _

theorem IsNumeral.isLine (numeral : IsNumeral text) : IsLine text := by
  refine .of_plain fun c member => ?_
  rcases numeral c member with digit | rfl
  · constructor <;> rintro rfl <;> exact absurd digit (by decide)
  · decide

theorem IsLine.decimal (value : Nat) : IsLine (decimal value) := (IsNumeral.decimal value).isLine

/-! ### Lines of a text -/

@[simp] theorem unlines_nil : unlines [] = "" := rfl

@[simp] theorem unlines_append (first second : List String) :
    unlines (first ++ second) = unlines first ++ unlines second := by
  simp [unlines]

theorem unlines_flatMap {α : Type} (items : List α) (lines : α → List String) :
    unlines (items.flatMap lines) = String.join (items.map fun item => unlines (lines item)) := by
  simp [unlines, ← String.toList_inj, List.flatMap_assoc, List.map_flatMap, List.flatMap_map]

theorem lineList_feed (rest pending : List Char) :
    lineList ('\n' :: rest) pending = dropReturn pending.reverse :: lineList rest [] := rfl

theorem lineList_end {pending : List Char} (waiting : pending ≠ []) :
    lineList [] pending = [pending.reverse] := by
  cases pending with
  | nil => exact absurd rfl waiting
  | cons c pending => rfl

/-- Characters wait for the end of their line. -/
theorem lineList_append {line : List Char} (noFeed : '\n' ∉ line) (rest pending : List Char) :
    lineList (line ++ rest) pending = lineList rest (line.reverse ++ pending) := by
  induction line generalizing pending with
  | nil => rfl
  | cons c line ih =>
    obtain ⟨other, noFeed⟩ := not_or.mp (mt List.mem_cons.mpr noFeed)
    rw [List.cons_append, lineList, ih noFeed]
    · simp
    · exact fun feed => other feed.symm

theorem dropReturn_of_getLast? {line : List Char} (last : line.getLast? ≠ some '\r') :
    dropReturn line = line := by
  unfold dropReturn
  rw [if_neg last]

theorem lines_unlines_append (separate : ∀ line ∈ texts, IsLine line) (rest : String) :
    lines (unlines texts ++ rest) = texts ++ lines rest := by
  induction texts with
  | nil => simp
  | cons text texts ih =>
    obtain ⟨whole, separate⟩ := List.forall_mem_cons.mp separate
    have read := ih separate
    have split : (unlines (text :: texts) ++ rest).toList =
        text.toList ++ '\n' :: (unlines texts ++ rest).toList := by
      simp [unlines]
    unfold lines at read ⊢
    rw [split, lineList_append whole.1, lineList_feed, List.map_cons, read]
    simp [dropReturn_of_getLast? whole.2]

/-- Lines that were written are read back. -/
theorem lines_unlines (separate : ∀ line ∈ texts, IsLine line) :
    lines (unlines texts) = texts := by
  have read := lines_unlines_append separate ""
  rwa [String.append_empty, show lines "" = [] from rfl, List.append_nil] at read

theorem intercalate_concat (texts : List String) (last : String) :
    String.intercalate "\n" (texts ++ [last]) = unlines texts ++ last := by
  induction texts with
  | nil => simp
  | cons text texts ih =>
    have cut : unlines (text :: texts) = text ++ "\n" ++ unlines texts := by
      simp [unlines, String.append_assoc]
    rw [List.cons_append, String.intercalate_cons_of_ne_nil (by simp), ih, cut]
    simp only [String.append_assoc]

/-- Lines that were joined are read back, unless the last one is empty. -/
theorem lines_intercalate (separate : ∀ line ∈ texts, IsLine line)
    (full : ∀ line ∈ texts, line ≠ "") : lines (String.intercalate "\n" texts) = texts := by
  rcases List.eq_nil_or_concat' texts with rfl | ⟨earlier, last, rfl⟩
  · rfl
  · have whole := separate last (by simp)
    have alone : lineList last.toList [] = [last.toList] := by
      have read := lineList_append whole.1 [] []
      rw [List.append_nil, List.append_nil] at read
      rw [read, lineList_end (by simp [full last]), List.reverse_reverse]
    rw [intercalate_concat,
      lines_unlines_append fun line member => separate line (by simp [member])]
    unfold lines
    simp [alone]

/-- The first of several joined lines is read back, whatever the others hold. -/
theorem head?_lines_intercalate (own : IsLine text) (full : text ≠ "") (rest : List String) :
    (lines (String.intercalate "\n" (text :: rest))).head? = some text := by
  cases rest with
  | nil => rw [lines_intercalate (by simpa using own) (by simpa using full), List.head?_cons]
  | cons next rest =>
    have cut : String.intercalate "\n" (text :: next :: rest) =
        unlines [text] ++ String.intercalate "\n" (next :: rest) := by
      rw [String.intercalate_cons_of_ne_nil (by simp)]
      simp [unlines]
    rw [cut, lines_unlines_append (by simpa using own)]
    rfl

end Text

namespace Outline.Document

/-! ### Keys -/

/-- Whether a line starts an object, behind its blanks. -/
def opensObject (line : String) : Bool :=
  "- object: ".toList.isPrefixOf (line.toList.dropWhile (· == ' '))

/-- What may stand in front of a key: blanks, and the marks of list items. -/
def isMargin (c : Char) : Bool := c == ' ' || c == '-'

/-- The key that stands at a column of a line, if that is where its margin ends. -/
def keyAt (column : Nat) (line : String) : Option String :=
  if (line.toList.takeWhile isMargin).length = column then
    some (String.ofList ((line.toList.drop column).takeWhile (· != ':')))
  else none

/-- Whether no line that starts like this starts an object: behind its blanks it does not have the
first letter of the mark, or not the third one. -/
def isApart (start : List Char) : Bool :=
  let word := start.dropWhile (· == ' ')
  word.head?.any (· != '-') || (word.drop 2).head?.any (· != 'o')

/-- Whether every line that starts like this has the key at its first column. -/
def isKeyed (start key : List Char) : Bool :=
  Text.isPlain start && start.head?.any (!isMargin ·) && start.contains ':' &&
    start.takeWhile (· != ':') == key

/-- Whether every line that starts like this belongs to the key above it. -/
def isNested (start : List Char) : Bool :=
  Text.isPlain start && start.head? == some ' ' && isApart start

variable {rest : String} {start key : List Char}

theorem not_opens_cons {c : Char} (other : c ≠ '-') (rest : List Char) :
    "- object: ".toList.isPrefixOf (c :: rest) = false := by
  rw [String.toList_ofList]
  simp [List.isPrefixOf, other.symm]

theorem not_opens_third {a b c : Char} (other : c ≠ 'o') (rest : List Char) :
    "- object: ".toList.isPrefixOf (a :: b :: c :: rest) = false := by
  rw [String.toList_ofList]
  simp [List.isPrefixOf, other.symm]

theorem opensObject_indent (indent : String)
    (blank : ∀ c ∈ indent.toList, (c == ' ') = true) (line : String) :
    opensObject (indent ++ line) = opensObject line := by
  unfold opensObject
  rw [String.toList_append, List.dropWhile_append_of_pos blank]

theorem keyAt_indent (indent : String) (margin : ∀ c ∈ indent.toList, isMargin c = true)
    (column : Nat) (line : String) :
    keyAt (indent.toList.length + column) (indent ++ line) = keyAt column line := by
  unfold keyAt
  rw [String.toList_append, List.takeWhile_append_of_pos margin, List.length_append,
    List.drop_append, List.drop_eq_nil_of_le (Nat.le_add_right _ _)]
  simp

theorem opensObject_of_isApart (apart : isApart start = true) (rest : String) :
    opensObject (String.ofList start ++ rest) = false := by
  have letters : (String.ofList start).toList = start := String.toList_ofList
  unfold opensObject
  rw [String.toList_append, letters, List.dropWhile_append]
  simp only [isApart, Bool.or_eq_true] at apart
  generalize start.dropWhile (· == ' ') = word at apart ⊢
  rcases apart with first | third
  · cases word with
    | nil => cases first
    | cons c word => exact not_opens_cons (by simpa using first) _
  · match word with
    | [] | [_] | [_, _] => cases third
    | _ :: _ :: c :: word => exact not_opens_third (by simpa using third) _

theorem keyAt_of_head? {c : Char} (head : start.head? = some c) (other : isMargin c = false)
    (ended : ':' ∈ start) (rest : String) :
    keyAt 0 (String.ofList start ++ rest) = some (String.ofList (start.takeWhile (· != ':'))) := by
  obtain ⟨more, spelled⟩ := List.head?_eq_some_iff.mp head
  have close : (start ++ rest.toList).takeWhile isMargin = [] := by
    rw [spelled]
    exact List.takeWhile_cons_of_neg (by simp [other])
  have inside : (start ++ rest.toList).takeWhile (· != ':') = start.takeWhile (· != ':') := by
    rw [List.takeWhile_append, if_neg]
    intro whole
    have all := List.takeWhile_prefix (· != ':') |>.eq_of_length whole
    rw [← all] at ended
    simpa using List.all_eq_true.mp List.all_takeWhile _ ended
  unfold keyAt
  rw [String.toList_append, String.toList_ofList, close, List.drop_zero, inside]
  rfl

/-- Lines with these keys in front of their first column, in order. None of them starts an object,
and joined they are read back. -/
structure Listing (keys lines : List String) : Prop where
  line : ∀ line ∈ lines, Text.IsLine line ∧ line ≠ ""
  apart : ∀ line ∈ lines, opensObject line = false
  keys : lines.filterMap (keyAt 0) = keys

namespace Listing

variable {keys lines more others : List String}

theorem nil : Listing [] [] := ⟨by simp, by simp, rfl⟩

theorem cons {line : String} {key : Option String} (own : Text.IsLine line) (full : line ≠ "")
    (apart : opensObject line = false) (read : keyAt 0 line = key) (others : Listing keys lines) :
    Listing (key.toList ++ keys) (line :: lines) where
  line := List.forall_mem_cons.mpr ⟨⟨own, full⟩, others.line⟩
  apart := List.forall_mem_cons.mpr ⟨apart, others.apart⟩
  keys := by cases key <;> simp [read, others.keys]

theorem append (first : Listing keys lines) (second : Listing more others) :
    Listing (keys ++ more) (lines ++ others) where
  line line member := (List.mem_append.mp member).elim (first.line line) (second.line line)
  apart line member := (List.mem_append.mp member).elim (first.apart line) (second.apart line)
  keys := by rw [List.filterMap_append, first.keys, second.keys]

theorem flatMap {α : Type} {items : List α} {lines : α → List String}
    (each : ∀ item ∈ items, Listing [] (lines item)) : Listing [] (items.flatMap lines) := by
  induction items with
  | nil => exact .nil
  | cons item items ih =>
    obtain ⟨first, rest⟩ := List.forall_mem_cons.mp each
    exact first.append (ih rest)

/-- A line with a key, and the lines after it. -/
theorem keyed (settled : isKeyed start key = true) (ends : Text.IsLine rest)
    (others : Listing keys lines) :
    Listing (String.ofList key :: keys) ((String.ofList start ++ rest) :: lines) := by
  simp only [isKeyed, Bool.and_eq_true, List.contains_iff_mem, beq_iff_eq] at settled
  obtain ⟨⟨⟨plain, first⟩, ended⟩, rfl⟩ := settled
  obtain ⟨c, head, other⟩ := Option.any_eq_true _ _ |>.mp first
  have other : isMargin c = false := by simpa using other
  obtain ⟨more, spelled⟩ := List.head?_eq_some_iff.mp head
  -- The marks of objects do not start where keys start.
  have apart : isApart start = true := by
    have letter : c ≠ ' ' ∧ c ≠ '-' := by simpa [isMargin] using other
    simp [isApart, spelled, letter]
  exact .cons ((Text.IsLine.spelled start plain).append ends) (by simp [spelled])
    (opensObject_of_isApart apart rest) (keyAt_of_head? head other ended rest) others

/-- A line with nothing but a key, and the lines after it. -/
theorem bare (settled : isKeyed start key = true) (others : Listing keys lines) :
    Listing (String.ofList key :: keys) (String.ofList start :: lines) := by
  have line := keyed settled (.spelled [] rfl) others
  rwa [String.ofList_nil, String.append_empty] at line

/-- A line that goes on with what stands above it, and the lines after it. -/
theorem nested (settled : isNested start = true) (ends : Text.IsLine rest)
    (others : Listing keys lines) : Listing keys ((String.ofList start ++ rest) :: lines) := by
  simp only [isNested, Bool.and_eq_true, beq_iff_eq] at settled
  obtain ⟨⟨plain, first⟩, apart⟩ := settled
  obtain ⟨more, spelled⟩ := List.head?_eq_some_iff.mp first
  have keyless : keyAt 0 (String.ofList start ++ rest) = none := by
    simp [keyAt, spelled, isMargin]
  exact .cons ((Text.IsLine.spelled start plain).append ends) (by simp [spelled])
    (opensObject_of_isApart apart rest) keyless others

theorem bareNested (settled : isNested start = true) (others : Listing keys lines) :
    Listing keys (String.ofList start :: lines) := by
  have line := nested settled (.spelled [] rfl) others
  rwa [String.ofList_nil, String.append_empty] at line

end Listing

end Outline.Document

end DebugOutline
