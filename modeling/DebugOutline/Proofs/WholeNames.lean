import DebugOutline.Options.Filters
import DebugOutline.Proofs.FollowingPattern
import DebugOutline.Proofs.Spans

/-! A filter for whole names puts the text that it is given into a group between two anchors. -/
namespace DebugOutline

/-! ### The pattern with anchors -/

namespace Piece

/-- An end of the text, as it is written outside any group. -/
def anchor (condition : Look) : Piece := ⟨({} : PatternMode).look condition, 0, true⟩

/-- A piece in a group, from the start of the text up to its end. -/
def anchored (inner : Piece) : Piece :=
  inSequence [anchor .textEnd, ⟨inner.expr, inner.depth + 1, true⟩, anchor .textStart]

variable {inner : Piece}

theorem anchored_depth : inner.anchored.depth = inner.depth + 2 := by
  show 1 + max (max 0 (inner.depth + 1)) 0 = inner.depth + 2
  omega

theorem anchored_size : inner.anchored.expr.size = inner.expr.size + 64 := by
  show 32 + (inner.expr.size + 32) = inner.expr.size + 64
  omega

theorem holds_textStart {name : Array Char} (wordChars : Unicode.CharSet)
    (inside : place ≤ name.size) : Look.textStart.holds wordChars (Expr.charBefore? name place)
      name[place]? = true ↔ place = 0 := by
  show (Expr.charBefore? name place).isNone = true ↔ place = 0
  rw [Option.isNone_iff_eq_none, Expr.charBefore?]
  split
  · rename_i first
    exact iff_of_true rfl first
  · rename_i later
    rw [Array.getElem?_eq_none_iff]
    omega

theorem holds_textEnd {name : Array Char} (wordChars : Unicode.CharSet)
    (inside : place ≤ name.size) : Look.textEnd.holds wordChars (Expr.charBefore? name place)
      name[place]? = true ↔ place = name.size := by
  show name[place]?.isNone = true ↔ place = name.size
  rw [Option.isNone_iff_eq_none, Array.getElem?_eq_none_iff]
  omega

/-- What is between the anchors has to match the whole name. -/
theorem anchored_isMatch {name : String} : inner.anchored.expr.isMatch name = true ↔
    inner.expr.Spans name.toList.toArray 0 name.length := by
  have size : name.toList.toArray.size = name.length := by
    rw [List.size_toArray, String.length_toList]
  rw [Expr.isMatch_iff]
  constructor
  · rintro ⟨start, stop, inside, middle, ⟨rfl, atStart⟩, last, spans, rfl, atEnd⟩
    rw [← size] at inside
    have first := (holds_textStart _ inside).mp atStart
    have lastInside := (Expr.moves_ends inner.expr).inside spans inside
    have whole := (holds_textEnd _ lastInside).mp atEnd
    rwa [first, whole, size] at spans
  · intro spans
    refine ⟨0, name.length, Nat.zero_le _, 0, ⟨rfl, ?_⟩, name.length, spans, rfl, ?_⟩
    · exact (holds_textStart _ (Nat.zero_le _)).mpr rfl
    · exact (holds_textEnd _ (Nat.le_of_eq size.symm)).mpr size.symm

end Piece

namespace Scan

/-- Wherever one step succeeds, the other one does the same. -/
def Extends (first second : Scan α) : Prop :=
  ∀ scanner read, first.run scanner = some read → second.run scanner = some read

namespace Extends

theorem refl (scan : Scan α) : Extends scan scan := fun _ _ run => run

theorem bind {first second : Scan α} {next next' : α → Scan β} (onward : Extends first second)
    (later : ∀ value, Extends (next value) (next' value)) :
    Extends (first >>= next) (second >>= next') := by
  intro scanner read run
  rw [StateT.run_bind] at run ⊢
  obtain ⟨⟨value, middle⟩, firstRun, nextRun⟩ := Option.bind_eq_some_iff.mp run
  rw [onward scanner _ firstRun]
  exact later value middle read nextRun

end Extends

/-- More fuel changes nothing about what was read with less. -/
theorem alternatives_extends (fuel : Nat) (choices pieces : List Piece) :
    Extends (alternatives fuel choices pieces) (alternatives (fuel + 1) choices pieces) := by
  induction fuel generalizing choices pieces with
  | zero =>
    intro scanner read run
    cases run
  | succ fuel ih =>
    rw [alternatives_succ, alternatives_succ]
    refine .bind (.refl _) fun _ => .bind (.refl _) fun next => ?_
    split
    · exact .refl _
    · unfold piecesAt
      split
      · exact .refl _
      · exact .bind (.refl _) fun _ => ih _ _
      · refine .bind (.refl _) fun outer => .bind (.refl _) fun opened => ?_
        split
        · exact .bind (.refl _) fun _ => ih _ _
        · exact .bind (.refl _) fun _ => .bind (ih _ _) fun inner => .bind (.refl _) fun _ =>
            .bind (.refl _) fun _ => ih _ _
      · exact .bind (.refl _) fun part => ih _ _
      · refine .bind (.refl _) fun repetition => ?_
        split
        · split
          · exact ih _ _
          · exact .refl _
        · exact .refl _
        · exact .bind (.refl _) fun piece => ih _ _

/-- What is read behind the start of the text and of the group. -/
def groupAndEnd (fuel : Nat) : Scan Piece := do
  let inner ← alternatives fuel [] []
  expect ')'
  setMode {}
  alternatives fuel [] [⟨inner.expr, inner.depth + 1, true⟩, .anchor .textStart]

theorem alternatives_anchored (fuel : Nat) (text : List Char) :
    (alternatives (fuel + 2) [] []).run ⟨'^' :: '(' :: '?' :: ':' :: text, {}, []⟩ =
      (groupAndEnd fuel).run ⟨text, {}, []⟩ := rfl

theorem alternatives_textEnd (fuel : Nat) (piece : Piece) (names : List (List Char)) :
    (alternatives (fuel + 2) [] [⟨piece.expr, piece.depth + 1, true⟩, .anchor .textStart]).run
      ⟨['$'], {}, names⟩ = some (piece.anchored, ⟨[], {}, names⟩) := rfl

variable {scanner : Scanner}

theorem groupAndEnd_run (fuel : Nat) {inner : Piece} {after : Scanner}
    (run : (alternatives (fuel + 2) [] []).run scanner = some (inner, after))
    (left : after.rest = [')', '$']) : (groupAndEnd (fuel + 2)).run scanner =
      some (inner.anchored, ⟨[], {}, after.groupNames⟩) := by
  obtain ⟨rest, mode, names⟩ := after
  obtain rfl : rest = [')', '$'] := left
  rw [groupAndEnd, StateT.run_bind, run]
  exact alternatives_textEnd fuel inner names

theorem exists_of_groupAndEnd {fuel : Nat} {read : Piece × Scanner}
    (run : (groupAndEnd fuel).run scanner = some read) :
    ∃ inner after, (alternatives fuel [] []).run scanner = some (inner, after) ∧
      after.rest.head? = some ')' := by
  rw [groupAndEnd, StateT.run_bind] at run
  obtain ⟨⟨inner, after⟩, innerRun, run⟩ := Option.bind_eq_some_iff.mp run
  rw [StateT.run_bind] at run
  obtain ⟨⟨_, closed⟩, closedRun, -⟩ := Option.bind_eq_some_iff.mp run
  rw [expect, StateT.run_bind, next?_run] at closedRun
  obtain ⟨⟨_, _⟩, ⟨⟩, closedRun⟩ := Option.bind_eq_some_iff.mp closedRun
  split at closedRun
  · exact ⟨inner, after, innerRun, ‹_›⟩
  · cases closedRun

end Scan

namespace Pattern

/-- Reading a text from its start: the piece that it begins with, and what is left. -/
def reading (text : List Char) : Option (Piece × Scanner) :=
  (Scan.alternatives (text.length + 1) [] []).run { rest := text }

/-- A closing parenthesis that closes nothing ends the reading of a text early. -/
def HasStray (text : String) : Prop :=
  ∃ piece scanner, reading text.toList = some (piece, scanner) ∧ scanner.rest ≠ []

theorem parse?_eq_some {text : String} {piece : Piece} : parse? text = some piece ↔
    ∃ scanner, reading text.toList = some (piece, scanner) ∧ scanner.rest = [] := by
  show (reading text.toList).bind (fun read => if read.2.rest.isEmpty then some read.1 else none) =
    some piece ↔ _
  rw [Option.bind_eq_some_iff]
  constructor
  · rintro ⟨⟨found, scanner⟩, run, ended⟩
    obtain ⟨none, ⟨⟩⟩ := Option.ite_none_right_eq_some.mp ended
    exact ⟨scanner, run, List.isEmpty_iff.mp none⟩
  · rintro ⟨scanner, run, ended⟩
    exact ⟨(piece, scanner), run, if_pos (List.isEmpty_iff.mpr ended)⟩

/-- What is put behind a text, so that it is a group that goes up to the end of a name. -/
def ending : List Char := [')', '$']

theorem closing_ending : Closing ending := ⟨['$'], rfl, fun _ => List.mem_singleton.mp⟩

/-- A text is read in the group as it is on its own. -/
theorem agrees_inGroup (text : List Char) (fuel : Nat) :
    Agrees ending 0 (Scan.alternatives (text.length + 1) [] [])
      (Scan.alternatives (text.length + 3 + fuel) [] []) { rest := text } :=
  Scan.alikeWithin closing_ending _ _ _ _ _ (Nat.lt_succ_self _) (by
    show text.length + 2 < text.length + 3 + fuel
    omega)

/-- Where a closing parenthesis comes next in front of the end, the whole ending is left. -/
theorem length_of_closed {rest text : List Char} (suffix : rest <:+ text ++ ending)
    (closed : rest.head? = some ')') : ending.length ≤ rest.length := by
  by_contra short
  have inEnding : rest <:+ ending :=
    List.suffix_of_suffix_length_le suffix (List.suffix_append _ _) (by omega)
  rcases List.suffix_cons_iff.mp inEnding with rfl | shorter
  · exact short (Nat.le_refl _)
  · rcases List.suffix_cons_iff.mp shorter with rfl | none
    · cases closed
    · rw [List.suffix_nil.mp none] at closed
      cases closed

theorem reading_anchored (text : String) : reading ("^(?:" ++ text ++ ")$").toList =
    (Scan.groupAndEnd (text.toList.length + 5)).run { rest := text.toList ++ ending } := by
  have written : ("^(?:" ++ text ++ ")$").toList =
      '^' :: '(' :: '?' :: ':' :: (text.toList ++ ending) := by
    rw [String.toList_append, String.toList_append]
    rfl
  have size : (text.toList ++ ending).length = text.toList.length + 2 := List.length_append
  rw [written, reading, List.length_cons, List.length_cons, List.length_cons, List.length_cons,
    size]
  exact Scan.alternatives_anchored _ _

section InGroup

variable {text : String} {inner : Piece} {before : Scanner}

/-- What the text is read as with its ending, the group is read as too. It is read with more fuel,
as more stands around it. -/
theorem inGroup_of_reading {read : Piece × Scanner}
    (run : reading (text ++ ")$").toList = some read) :
    (Scan.alternatives (text.toList.length + 5) [] []).run { rest := text.toList ++ ending } =
      some read := by
  rw [String.toList_append, reading, List.length_append] at run
  exact Scan.alternatives_extends _ _ _ _ _ (Scan.alternatives_extends _ _ _ _ _ run)

/-- Where the group is read up to the ending, there is a pattern with anchors. -/
theorem parse?_of_inGroup (run : (Scan.alternatives (text.toList.length + 5) [] []).run
      { rest := text.toList ++ ending } = some (inner, before.followed ending))
    (ended : before.rest = []) : parse? ("^(?:" ++ text ++ ")$") = some inner.anchored := by
  have left : (before.followed ending).rest = [')', '$'] := by
    rw [Scanner.followed_rest, ended]
    rfl
  have given := Scan.groupAndEnd_run (text.toList.length + 3) run left
  exact parse?_eq_some.mpr ⟨_, (reading_anchored text).trans given, rfl⟩

/-- Nowhere else can the group end, but where a parenthesis of the text closes nothing. -/
theorem inGroup_of_parse? {result : Piece} (whole : ¬ HasStray text)
    (parsed : parse? ("^(?:" ++ text ++ ")$") = some result) :
    ∃ inner before, reading text.toList = some (inner, before) ∧ before.rest = [] ∧
      (Scan.alternatives (text.toList.length + 5) [] []).run { rest := text.toList ++ ending } =
        some (inner, before.followed ending) := by
  obtain ⟨final, run, -⟩ := parse?_eq_some.mp parsed
  rw [reading_anchored] at run
  obtain ⟨inner, after, innerRun, closed⟩ := Scan.exists_of_groupAndEnd run
  have left : ending.length + 0 ≤ after.rest.length := by
    have suffix : after.rest <:+ text.toList ++ ending :=
      Scan.drops_alternatives _ _ _ _ _ _ innerRun
    exact length_of_closed suffix closed
  obtain ⟨before, rfl, alone⟩ := (agrees_inGroup text.toList 2).backward innerRun left
  refine ⟨inner, before, alone, ?_, innerRun⟩
  by_contra stray
  exact whole ⟨inner, before, alone, stray⟩

end InGroup

/-- With anchors around it, a text is read as it is on its own. What is left there may be nothing,
if a comment goes on over the end of the group. -/
theorem parse?_anchored {text : String} (whole : ¬ HasStray text) {result : Piece} :
    parse? ("^(?:" ++ text ++ ")$") = some result ↔
      ∃ piece, parse? text = some piece ∧ parse? (text ++ ")$") = none ∧
        result = piece.anchored := by
  constructor
  · intro parsed
    obtain ⟨inner, before, alone, ended, innerRun⟩ := inGroup_of_parse? whole parsed
    refine ⟨inner, parse?_eq_some.mpr ⟨before, alone, ended⟩, ?_,
      Option.some.inj (parsed.symm.trans (parse?_of_inGroup innerRun ended))⟩
    rw [Option.eq_none_iff_forall_ne_some]
    intro piece also
    obtain ⟨swallowed, alsoRun, gone⟩ := parse?_eq_some.mp also
    cases (inGroup_of_reading alsoRun).symm.trans innerRun
    rw [Scanner.followed_rest, ended] at gone
    cases gone
  · rintro ⟨piece, parsed, notSwallowed, rfl⟩
    obtain ⟨before, alone, ended⟩ := parse?_eq_some.mp parsed
    -- If nothing were left in the group, the text with its ending would be a pattern.
    have kept := (agrees_inGroup text.toList 0).forward alone |>.resolve_right fun gone => by
      have swallowed : parse? (text ++ ")$") = some piece := by
        refine parse?_eq_some.mpr ⟨before, ?_, ended⟩
        rw [String.toList_append, reading, List.length_append]
        exact gone.2.2
      rw [swallowed] at notSwallowed
      cases notSwallowed
    exact parse?_of_inGroup
      (Scan.alternatives_extends _ _ _ _ _ (Scan.alternatives_extends _ _ _ _ _ kept)) ended

/-- Only a comment can go on over the end of the group. -/
theorem endsInComment_of_swallowed {text : String} {piece : Piece}
    (parsed : parse? text = some piece) (swallowed : parse? (text ++ ")$") ≠ none) :
    EndsInComment text.toList := by
  obtain ⟨before, alone, -⟩ := parse?_eq_some.mp parsed
  rcases (agrees_inGroup text.toList 0).forward alone with kept | ⟨-, comment, -⟩
  · obtain ⟨piece, also⟩ := Option.ne_none_iff_exists'.mp swallowed
    obtain ⟨after, run, none⟩ := parse?_eq_some.mp also
    rw [String.toList_append, reading, List.length_append] at run
    obtain ⟨rfl, rfl⟩ := Prod.mk.inj (Option.some.inj (kept.symm.trans run))
    rw [Scanner.followed_rest] at none
    cases List.append_eq_nil_iff.mp none |>.2
  · exact comment

theorem parse?_of_hasStray {text : String} (stray : HasStray text) : parse? text = none := by
  obtain ⟨piece, scanner, run, left⟩ := stray
  rw [Option.eq_none_iff_forall_ne_some]
  intro other parsed
  obtain ⟨after, alsoRun, none⟩ := parse?_eq_some.mp parsed
  obtain ⟨rfl, rfl⟩ := Prod.mk.inj (Option.some.inj (run.symm.trans alsoRun))
  exact left none

/-- A text writes a pattern that can stand between anchors: the end behind it does not fall into a
comment, and the limits leave room for the group and the anchors. -/
structure Fits (text : String) (piece : Piece) : Prop where
  parsed : parse? text = some piece
  notSwallowed : parse? (text ++ ")$") = none
  shallow : piece.depth + 2 ≤ depthLimit
  small : piece.expr.size + 64 ≤ Expr.sizeLimit

theorem compile?_anchored {text : String} (whole : ¬ HasStray text) {pattern : Pattern} :
    compile? ("^(?:" ++ text ++ ")$") = some pattern ↔
      ∃ piece, Fits text piece ∧ pattern = ⟨piece.anchored.expr⟩ := by
  rw [compile?, Option.bind_eq_bind, Option.bind_eq_some_iff]
  constructor
  · rintro ⟨result, parsed, limited⟩
    obtain ⟨piece, alone, notSwallowed, rfl⟩ := (parse?_anchored whole).mp parsed
    obtain ⟨⟨shallow, small⟩, ⟨⟩⟩ := Option.ite_none_right_eq_some.mp limited
    rw [Piece.anchored_depth] at shallow
    rw [Piece.anchored_size] at small
    exact ⟨piece, ⟨alone, notSwallowed, shallow, small⟩, rfl⟩
  · rintro ⟨piece, ⟨alone, notSwallowed, shallow, small⟩, rfl⟩
    have parsed := (parse?_anchored whole).mpr ⟨piece, alone, notSwallowed, rfl⟩
    refine ⟨piece.anchored, parsed, if_pos ?_⟩
    rw [Piece.anchored_depth, Piece.anchored_size]
    exact ⟨shallow, small⟩

end Pattern

namespace Filters

open Pattern (Fits HasStray)

variable {filters after : Filters} {text : String}

theorem wholeName_eq_ok (whole : ¬ HasStray text) {pattern : Pattern} :
    wholeName text = .ok pattern ↔ ∃ piece, Fits text piece ∧ pattern = ⟨piece.anchored.expr⟩ := by
  rw [← Pattern.compile?_anchored whole, wholeName]
  cases Pattern.compile? ("^(?:" ++ text ++ ")$") <;> simp

/-- A text that is added is refused, or the pattern that it writes is put in its place. -/
theorem added_eq_ok {put : Pattern → Filters} :
    (do return put (← wholeName text) : Except Failure Filters) = .ok after ↔
      ∃ pattern, wholeName text = .ok pattern ∧ after = put pattern := by
  cases wholeName text with
  | error failure => exact ⟨nofun, nofun⟩
  | ok pattern =>
    constructor
    · rintro ⟨⟩
      exact ⟨pattern, rfl, rfl⟩
    · rintro ⟨_, ⟨⟩, rfl⟩
      rfl

theorem exists_added_iff (whole : ¬ HasStray text) {put : Pattern → Filters} :
    (∃ after, (do return put (← wholeName text) : Except Failure Filters) = .ok after) ↔
      ∃ piece, Fits text piece := by
  simp only [added_eq_ok, wholeName_eq_ok whole]
  constructor
  · rintro ⟨after, pattern, ⟨piece, fits, -⟩, -⟩
    exact ⟨piece, fits⟩
  · rintro ⟨piece, fits⟩
    exact ⟨_, _, ⟨piece, fits, rfl⟩, rfl⟩

theorem accepts_added {piece : Piece} {name : String} :
    Filters.accepts { filters with exact := filters.exact ++ [⟨piece.anchored.expr⟩] } name = true ↔
      filters.accepts name = true ∨ piece.expr.Spans name.toList.toArray 0 name.length := by
  simp only [accepts, List.any_append, List.any_cons, List.any_nil, Bool.or_false, Bool.or_eq_true,
    Pattern.isMatch, Piece.anchored_isMatch]
  exact or_right_comm

theorem acceptsTree_added {piece : Piece} {name : String} :
    Filters.acceptsTree { filters with treeExact := filters.treeExact ++ [⟨piece.anchored.expr⟩] }
      name = true ↔
      filters.acceptsTree name = true ∨ piece.expr.Spans name.toList.toArray 0 name.length := by
  simp only [acceptsTree, List.any_append, List.any_cons, List.any_nil, Bool.or_false,
    Bool.or_eq_true, Pattern.isMatch, Piece.anchored_isMatch]
  exact or_right_comm

end Filters

end DebugOutline
