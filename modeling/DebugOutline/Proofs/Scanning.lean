import Mathlib
import DebugOutline.Pattern

/-! Reading a pattern goes forward: what is left is an end of what was there. -/
namespace DebugOutline.Scan

open Unicode (CharSet)

/-- Wherever it starts, a step that succeeds leaves an end of what is behind the first `count`
characters. -/
def Drops (count : Nat) (scan : Scan α) : Prop :=
  ∀ scanner value after, scan.run scanner = some (value, after) →
    after.rest <:+ scanner.rest.drop count

namespace Drops

theorem pure (value : α) : Drops 0 (Pure.pure value) := by
  intro scanner found after run
  cases run
  exact List.suffix_rfl

theorem failure {count : Nat} : Drops count (failure : Scan α) := by
  intro scanner found after run
  cases run

theorem get : Drops 0 get := by
  intro scanner found after run
  cases run
  exact List.suffix_rfl

/-- The characters that the first step goes over count for the whole. -/
theorem bind {count : Nat} {first : Scan α} {next : α → Scan β} (goes : Drops count first)
    (goesOn : ∀ value, Drops 0 (next value)) : Drops count (first >>= next) := by
  intro scanner found after run
  rw [StateT.run_bind] at run
  obtain ⟨⟨value, middle⟩, firstRun, nextRun⟩ := Option.bind_eq_some_iff.mp run
  exact (goesOn value middle found after nextRun).trans (goes scanner value middle firstRun)

/-- Of an end of a text, and of the whole text, the first characters may be left out. -/
theorem suffix_drop {part whole : List Char} (suffix : part <:+ whole) (count : Nat) :
    part.drop count <:+ whole.drop count := by
  obtain ⟨front, rfl⟩ := suffix
  rw [List.drop_append]
  exact (List.drop_suffix_drop_left part (Nat.sub_le count front.length)).trans
    (List.suffix_append _ _)

/-- So do those that the next step goes over. -/
theorem before {count : Nat} {first : Scan α} {next : α → Scan β} (goes : Drops 0 first)
    (goesOn : ∀ value, Drops count (next value)) : Drops count (first >>= next) := by
  intro scanner found after run
  rw [StateT.run_bind] at run
  obtain ⟨⟨value, middle⟩, firstRun, nextRun⟩ := Option.bind_eq_some_iff.mp run
  exact (goesOn value middle found after nextRun).trans
    (suffix_drop (goes scanner value middle firstRun) count)

theorem map {count : Nat} {first : Scan α} (goes : Drops count first) (change : α → β) :
    Drops count (do return change (← first)) := bind goes fun _ => pure _

theorem ite {count : Nat} {condition : Prop} [Decidable condition] {first second : Scan α}
    (goes : Drops count first) (also : Drops count second) :
    Drops count (if condition then first else second) := by
  split
  · exact goes
  · exact also

/-- A step that looks at all that is left, where it is. -/
theorem of_get {count : Nat} {next : Scanner → Scan α}
    (goes : ∀ scanner value after, (next scanner).run scanner = some (value, after) →
      after.rest <:+ scanner.rest.drop count) : Drops count (MonadState.get >>= next) :=
  fun scanner value after run => goes scanner value after run

/-- A step that moves to a place that it has found. -/
theorem set_run {next : Unit → Scan α} (goesOn : Drops 0 (next ())) {place : Scanner}
    (run : (set place >>= next).run scanner = some (value, after)) : after.rest <:+ place.rest :=
  goesOn place value after run

theorem modify_run {next : Unit → Scan α} (goesOn : Drops 0 (next ())) {move : Scanner → Scanner}
    (run : (modify move >>= next).run scanner = some (value, after)) :
    after.rest <:+ (move scanner).rest :=
  goesOn (move scanner) value after run

theorem weaken {count : Nat} {scan : Scan α} (goes : Drops count scan) : Drops 0 scan :=
  fun scanner value after run => (goes scanner value after run).trans (List.drop_suffix _ _)

end Drops

theorem drops_skip (count : Nat) : Drops count (skip count) := by
  intro scanner value after run
  cases run
  exact List.suffix_rfl

theorem drops_next? : Drops 0 next? := .bind .get fun _ => .pure _

theorem next?_run (scanner : Scanner) :
    next?.run scanner = some (scanner.rest.head?, scanner) := rfl

theorem drops_second? : Drops 0 second? := .bind .get fun _ => .pure _

theorem drops_mode : Drops 0 mode := .bind .get fun _ => .pure _

theorem drops_setMode (mode : PatternMode) : Drops 0 (setMode mode) := by
  intro scanner value after run
  cases run
  exact List.suffix_rfl

theorem dropBlanks_suffix (inComment : Bool) (text : List Char) :
    dropBlanks inComment text <:+ text := by
  fun_induction dropBlanks inComment text with
  | case1 => exact List.suffix_rfl
  | case2 c rest ih => exact ih.trans (List.suffix_cons c rest)
  | case3 rest ih => exact ih.trans (List.suffix_cons _ rest)
  | case4 c rest _ _ ih => exact ih.trans (List.suffix_cons c rest)
  | case5 => exact List.suffix_rfl

theorem drops_skipBlanks : Drops 0 skipBlanks := by
  intro scanner value after run
  cases run
  show (if scanner.mode.ignoresBlanks = true then _ else _ : Scanner).rest <:+ _
  split
  · exact dropBlanks_suffix false scanner.rest
  · exact List.suffix_rfl

theorem drops_step : Drops 1 step := .bind (drops_skip 1) fun _ => drops_skipBlanks

theorem drops_skipWord (word : String) : Drops 0 (skipWord word) := by
  refine .bind .get fun scanner => .ite ?_ (.pure _)
  exact .bind (drops_skip _).weaken fun _ => .pure _

theorem drops_expect (c : Char) : Drops 1 (expect c) :=
  .before drops_next? fun _ => .ite (drops_skip 1) .failure

theorem drops_untilBrace (fuel : Nat) : Drops 0 (untilBrace fuel) := by
  induction fuel with
  | zero => exact .failure
  | succ fuel ih =>
    refine .bind drops_next? fun next => ?_
    split
    · exact .failure
    · exact .pure []
    · exact .bind drops_step.weaken fun _ => ih.map _

theorem drops_braced : Drops 1 braced := by
  refine .bind drops_step fun _ => .bind .get fun scanner => ?_
  exact .bind (drops_untilBrace _) fun _ => .bind (drops_skip 1).weaken fun _ => .pure _

theorem drops_hexDigits (count : Nat) : Drops 0 (hexDigits count) := by
  induction count with
  | zero => exact .pure []
  | succ count ih =>
    refine .bind drops_next? fun next => ?_
    split
    · exact .failure
    · exact .bind drops_step.weaken fun _ => ih.map _

theorem drops_decimalDigits (fuel : Nat) : Drops 0 (decimalDigits fuel) := by
  induction fuel with
  | zero => exact .pure []
  | succ fuel ih =>
    refine .bind drops_next? fun next => ?_
    split
    · exact .ite (.bind drops_step.weaken fun _ => ih.map _) (.pure [])
    · exact .pure []

theorem drops_skipOuterBlanks : Drops 0 skipOuterBlanks := by
  intro scanner value after run
  cases run
  exact List.dropWhile_suffix _

theorem drops_count : Drops 0 count := by
  refine .bind drops_skipOuterBlanks fun _ => .bind .get fun scanner => ?_
  refine .bind (drops_decimalDigits _) fun digits => .bind drops_skipOuterBlanks fun _ => ?_
  exact .bind drops_skipBlanks fun _ => .ite .failure (.pure _)

/-! ### Escapes -/

/-- The character with a code. -/
def charOf (width : Nat) (isBraced : Bool) (digits : List Char) : Scan Char := do
  skipBlanks
  match hexValue? digits with
  | some code =>
    if !code.isValidChar then failure
    else if !isBraced && width == 2 && !(← mode).unicode && 0x80 ≤ code then failure
    else return Char.ofNat code
  | none => failure

theorem charCode_eq (width : Nat) : charCode width = (do
    step
    let next ← next?
    if next == some '\x7b' then braced >>= charOf width (next == some '\x7b')
    else hexDigits width >>= charOf width (next == some '\x7b')) := rfl

theorem drops_charOf (width : Nat) (isBraced : Bool) (digits : List Char) :
    Drops 0 (charOf width isBraced digits) := by
  refine .bind drops_skipBlanks fun _ => ?_
  split
  · exact .ite .failure (.bind drops_mode fun _ => .ite .failure (.pure _))
  · exact .failure

theorem drops_charCode (width : Nat) : Drops 1 (charCode width) := by
  rw [charCode_eq]
  exact .bind drops_step fun _ => .bind drops_next? fun _ => .ite
    (.bind drops_braced.weaken (drops_charOf width _))
    (.bind (drops_hexDigits width) (drops_charOf width _))

/-- The class of a property, if there is one. -/
def propertySet (isNegated : Bool) (set? : Option CharSet) : Scan CharSet := do
  let mode ← mode
  match set? with
  | some set =>
    if !mode.unicode then failure
    else if isNegated then return (mode.fold set).complement
    else return mode.fold set
  | none => failure

theorem namedSet_eq (isNegated : Bool) : namedSet isNegated = (do
    step
    match ← next? with
    | some '\x7b' =>
      let name ← braced
      match splitName name with
      | some (property, value) => propertySet isNegated (Unicode.setOf? property value)
      | none => propertySet isNegated (Unicode.setNamed? name)
    | some '\\' | none => failure
    | some c =>
      step
      propertySet isNegated (Unicode.setNamed? [c])) := by
  rfl

theorem drops_propertySet (isNegated : Bool) (set? : Option CharSet) :
    Drops 0 (propertySet isNegated set?) := by
  refine .bind drops_mode fun mode => ?_
  split
  · exact .ite .failure (.ite (.pure _) (.pure _))
  · exact .failure

theorem drops_namedSet (isNegated : Bool) : Drops 1 (namedSet isNegated) := by
  rw [namedSet_eq]
  refine .bind drops_step fun _ => .bind drops_next? fun next => ?_
  split
  · refine .bind drops_braced.weaken fun name => ?_
    split <;> exact drops_propertySet _ _
  · exact .failure
  · exact .failure
  · exact .bind drops_step.weaken fun _ => drops_propertySet _ _

theorem drops_shortSet (c : Char) : Drops 0 (shortSet c) := by
  refine .bind drops_mode fun mode => .ite ?_ (.pure _)
  split
  · exact .pure _
  · exact .failure

theorem drops_boundaryName (fuel : Nat) : Drops 0 (boundaryName fuel) := by
  induction fuel with
  | zero => exact .failure
  | succ fuel ih =>
    refine .bind drops_next? fun next => ?_
    split
    · exact .failure
    · exact .ite (.bind drops_step.weaken fun _ => ih.map _) (.pure [])

/-- The boundary with a name. -/
def boundaryNamed (name : List Char) : Scan Look :=
  match String.ofList name with
  | "start" => return .wordStart
  | "end" => return .wordEnd
  | "start-half" => return .wordStartHalf
  | "end-half" => return .wordEndHalf
  | _ => failure

/-- A boundary by its name, with the closing brace behind it. -/
def namedBoundary : Scan Look := do
  let name ← boundaryName ((← get).rest.length + 1)
  expect '\x7d'
  boundaryNamed name

/-- What an opening brace behind a boundary is the start of, if it is not left for counts. -/
def bracedBoundary (before : Scanner) : Scan Look := do
  step
  match ← next? with
  | none => failure
  | some c =>
    if !isBoundaryLetter c then
      set before
      return .wordBoundary
    else namedBoundary

theorem boundary_eq : boundary = (do
    if (← next?) ≠ some '\x7b' then return .wordBoundary
    else bracedBoundary (← get)) := rfl

theorem bracedBoundary_run (before : Scanner) (stepRun : step.run scanner = some (value, stepped))
    (behind : stepped.rest.head? = some c) : (bracedBoundary before).run scanner =
      if isBoundaryLetter c then namedBoundary.run stepped else some (.wordBoundary, before) := by
  simp only [bracedBoundary, StateT.run_bind, stepRun, next?_run, behind, Option.bind_eq_bind,
    Option.bind_some]
  cases isBoundaryLetter c <;> rfl

theorem drops_boundaryNamed (name : List Char) : Drops 0 (boundaryNamed name) := by
  unfold boundaryNamed
  split
  iterate 4 exact .pure _
  · exact .failure

theorem drops_namedBoundary : Drops 0 namedBoundary :=
  .bind .get fun _ => .bind (drops_boundaryName _) fun name =>
    .bind (drops_expect _).weaken fun _ => drops_boundaryNamed name

/-- A boundary may go back to where it began, but not further. -/
theorem drops_boundary : Drops 0 boundary := by
  rw [boundary_eq]
  refine .bind drops_next? fun next => .ite (.pure _) (.of_get fun scanner value after run => ?_)
  rw [bracedBoundary, StateT.run_bind] at run
  obtain ⟨⟨_, stepped⟩, stepRun, run⟩ := Option.bind_eq_some_iff.mp run
  rw [StateT.run_bind] at run
  obtain ⟨⟨next, _⟩, nextRun, run⟩ := Option.bind_eq_some_iff.mp run
  cases nextRun
  split at run
  · cases run
  · split at run
    · refine Drops.set_run ?_ run
      exact .pure _
    · exact (drops_namedBoundary stepped value after run).trans
        (drops_step.weaken scanner _ stepped stepRun)

/-- What a letter introduces behind a backslash, if it is not the mark of a code or a property. -/
def letterEscape (c : Char) : Scan PatternItem :=
  match c with
  | 'd' | 's' | 'w' | 'D' | 'S' | 'W' => return .set (← shortSet c)
  | 'A' => return .look .textStart
  | 'z' => return .look .textEnd
  | 'b' => return .look (← boundary)
  | 'B' => return .look .notWordBoundary
  | '<' => return .look .wordStart
  | '>' => return .look .wordEnd
  | _ =>
    match controlCode? c with
    | some code => return .literal code
    | none => if isMeta c || isPlain c then return .literal c else failure

/-- What a backslash introduces by the character behind it, which comes next. -/
def markedEscape (c : Char) : Scan PatternItem :=
  match c with
  | 'x' => return .literal (← charCode 2)
  | 'u' => return .literal (← charCode 4)
  | 'U' => return .literal (← charCode 8)
  | 'p' => return .set (← namedSet false)
  | 'P' => return .set (← namedSet true)
  | _ => do
    skip 1
    letterEscape c

theorem escape_eq : escape = (do
    skip 1
    match ← next? with
    | none => failure
    | some c => markedEscape c) := rfl

theorem drops_letterEscape (c : Char) : Drops 0 (letterEscape c) := by
  unfold letterEscape
  split
  iterate 6 exact (drops_shortSet _).map _
  iterate 2 exact .pure _
  · exact drops_boundary.map _
  iterate 3 exact .pure _
  · split
    · exact .pure _
    · exact .ite (.pure _) .failure

theorem drops_markedEscape (c : Char) : Drops 1 (markedEscape c) := by
  unfold markedEscape
  split
  · exact (drops_charCode 2).map _
  · exact (drops_charCode 4).map _
  · exact (drops_charCode 8).map _
  · exact (drops_namedSet false).map _
  · exact (drops_namedSet true).map _
  · exact .bind (drops_skip 1) fun _ => drops_letterEscape c

theorem drops_escape : Drops 1 escape := by
  rw [escape_eq]
  refine .bind (drops_skip 1) fun _ => .bind drops_next? fun next => ?_
  split
  · exact .failure
  · exact (drops_markedEscape _).weaken

/-! ### Classes -/

theorem asciiClassAhead?_suffix {text rest : List Char} {set : CharSet}
    (found : asciiClassAhead? text = some (isNegated, set, rest)) : rest <:+ text.drop 1 := by
  unfold asciiClassAhead? at found
  split at found
  · rename_i inner
    dsimp only at found
    split at found
    · rename_i remainder _ ended _
      cases found
      have named : (':' :: ']' :: rest) <:+ inner := by
        rw [← ended]
        refine (List.dropWhile_suffix _).trans ?_
        split
        · exact List.drop_suffix _ _
        · exact List.suffix_rfl
      exact (List.suffix_append [':', ']'] rest).trans (named.trans (List.suffix_cons ':' inner))
    · cases found
  · cases found

/-- A class of ASCII in the mode in force. -/
def asciiClassSet (isNegated : Bool) (found : CharSet) : Scan (Option CharSet) := do
  let mode ← mode
  if isNegated then
    match mode.negate? (mode.fold found) with
    | some negated => return some negated
    | none => failure
  else return some (mode.fold found)

theorem asciiClass?_eq : asciiClass? = (do
    match asciiClassAhead? (← get).rest with
    | none => return none
    | some (isNegated, found, rest) =>
      modify fun scanner => { scanner with rest }
      asciiClassSet isNegated found) := rfl

theorem asciiClassSet_ne_none {isNegated : Bool} {found : CharSet}
    (run : (asciiClassSet isNegated found).run scanner = some (value, after)) : value ≠ none := by
  change (if isNegated = true then match scanner.mode.negate? (scanner.mode.fold found) with
    | some negated => pure (some negated)
    | none => failure
    else pure (some (scanner.mode.fold found)) : Scan _).run scanner = _ at run
  split at run
  · split at run
    · cases run
      nofun
    · cases run
  · cases run
    nofun

theorem drops_asciiClassSet (isNegated : Bool) (found : CharSet) :
    Drops 0 (asciiClassSet isNegated found) := by
  refine .bind drops_mode fun mode => .ite ?_ (.pure _)
  split
  · exact .pure _
  · exact .failure

/-- A class of ASCII is gone over if there is one; otherwise nothing is. -/
theorem asciiClass?_run (run : asciiClass?.run scanner = some (value, after)) :
    value = none ∧ after = scanner ∨ value ≠ none ∧ after.rest <:+ scanner.rest.drop 1 := by
  change (match asciiClassAhead? scanner.rest with
    | none => pure none
    | some (isNegated, found, rest) => do
      modify fun scanner => { scanner with rest }
      asciiClassSet isNegated found : Scan _).run scanner = _ at run
  split at run
  · cases run
    exact .inl ⟨rfl, rfl⟩
  · rename_i isNegated found rest ahead
    refine .inr ⟨?_, (Drops.modify_run (drops_asciiClassSet isNegated found) run).trans
      (asciiClassAhead?_suffix ahead)⟩
    have given : (asciiClassSet isNegated found).run { scanner with rest } =
        some (value, after) := run
    exact asciiClassSet_ne_none given

theorem drops_asciiClass? : Drops 0 asciiClass? := by
  intro scanner value after run
  rcases asciiClass?_run run with ⟨-, rfl⟩ | ⟨-, suffix⟩
  · exact List.suffix_rfl
  · exact suffix.trans (List.drop_suffix _ _)

theorem drops_classLiteral (c : Char) : Drops 0 (classLiteral c) :=
  .bind drops_mode fun _ => .ite .failure (.pure _)

theorem drops_classItem : Drops 1 classItem := by
  refine .before drops_next? fun next => ?_
  split
  · exact .failure
  · exact drops_escape
  · exact .bind (drops_skip 1) fun _ => .pure _

theorem drops_afterNext? : Drops 0 afterNext? := by
  refine .bind .get fun scanner => .bind drops_mode fun mode => .ite ?_ (.pure _)
  split <;> exact .pure _

/-- A span of characters from the first one on; its last one comes next. -/
def spanTo (first : PatternItem) : Scan CharSet := do
  match first, ← classItem with
  | .literal first, .literal last =>
    let first ← classLiteral first
    let last ← classLiteral last
    if first ≤ last then return .ofSpan first last else failure
  | _, _ => failure

/-- What begins with an item of a class, when `next` comes behind it and `after` behind that. -/
def spanBefore (first : PatternItem) (next after : Option Char) : Scan CharSet := do
  if next ≠ some '-' ∨ after = some ']' ∨ after = some '-' then
    match first with
    | .literal c => return .singleton (← classLiteral c)
    | .set set => return set
    | .look _ => failure
  else
    step
    spanTo first

theorem classSpan_eq : classSpan = (do
    let first ← classItem
    skipBlanks
    let next ← next?
    if next.isNone then failure else afterNext? >>= spanBefore first next) := rfl

theorem drops_spanTo (first : PatternItem) : Drops 1 (spanTo first) := by
  refine .bind drops_classItem fun last => ?_
  split
  · exact .bind (drops_classLiteral _) fun _ => .bind (drops_classLiteral _) fun _ =>
      .ite (.pure _) .failure
  · exact .failure

theorem drops_spanBefore (first : PatternItem) (next after : Option Char) :
    Drops 0 (spanBefore first next after) := by
  refine .ite ?_ (.bind drops_step.weaken fun _ => (drops_spanTo first).weaken)
  split
  · exact (drops_classLiteral _).map _
  · exact .pure _
  · exact .failure

theorem drops_classSpan : Drops 1 classSpan := by
  rw [classSpan_eq]
  exact .bind drops_classItem fun first => .bind drops_skipBlanks fun _ => .bind drops_next?
    fun next => .ite .failure (.bind drops_afterNext? fun _ => drops_spanBefore first next _)

theorem drops_leadingDashes (fuel : Nat) : Drops 0 (leadingDashes fuel) := by
  induction fuel with
  | zero => exact .failure
  | succ fuel ih =>
    refine .bind drops_next? fun next => ?_
    split
    · exact .failure
    · exact .bind drops_step.weaken fun _ => ih.map _
    · exact .pure []

/-- What stands for itself at the start of a class. -/
def classStart (isNegated : Bool) : Scan (Bool × List ClassPart) := do
  let dashes ← leadingDashes ((← get).rest.length + 1)
  if dashes.isEmpty ∧ (← next?) = some ']' then
    step
    return (isNegated, [⟨.singleton ']'.toNat, 0⟩])
  else return (isNegated, dashes)

theorem classOpening_eq : classOpening = (do
    step
    let next ← next?
    if next == some '^' then step >>= fun _ => classStart (next == some '^')
    else classStart (next == some '^')) := rfl

theorem drops_classStart (isNegated : Bool) : Drops 0 (classStart isNegated) :=
  .bind .get fun _ => .bind (drops_leadingDashes _) fun _ => .bind drops_next? fun _ => .ite
    (.bind drops_step.weaken fun _ => .pure _) (.pure _)

theorem drops_classOpening : Drops 1 classOpening := by
  rw [classOpening_eq]
  exact .bind drops_step fun _ => .bind drops_next? fun _ => .ite
    (.bind drops_step.weaken fun _ => drops_classStart _) (drops_classStart _)

theorem drops_closeClass (isNegated : Bool) (inner : ClassPart) :
    Drops 0 (closeClass isNegated inner) := by
  refine .bind drops_mode fun mode => .ite ?_ (.pure _)
  split
  · exact .pure _
  · exact .failure

/-- What is done about an operation if its character is doubled, or else about the character. -/
def operateOr (operate : SetOperation → Scan α) (otherwise : Scan α)
    (operation? : Option SetOperation) (isDoubled : Bool) : Scan α :=
  match operation?, isDoubled with
  | some operation, true => operate operation
  | _, _ => otherwise

/-- The same for the character that comes next. -/
def operationOr (operate : SetOperation → Scan α) (otherwise : Scan α) (c : Char) : Scan α := do
  operateOr operate otherwise (SetOperation.ofChar? c) ((← second?) == some c)

theorem drops_operationOr {count : Nat} {operate : SetOperation → Scan α} {otherwise : Scan α}
    (goes : ∀ operation, Drops count (operate operation)) (also : Drops count otherwise)
    (c : Char) : Drops count (operationOr operate otherwise c) := by
  refine .before drops_second? fun second => ?_
  unfold operateOr
  split
  · exact goes _
  · exact also

/-- The parts of a class from one that a character begins, up to the closing bracket. -/
def classPartsAt (fuel : Nat) (mode : PatternMode) (left : Option (SetOperation × ClassPart))
    (parts : List ClassPart) (c : Char) : Scan ClassPart :=
  match c with
  | ']' => do
    skip 1
    return .combine mode left (.join parts)
  | '[' => do
    match ← asciiClass? with
    | some set => classParts fuel left (parts ++ [⟨set, 0⟩])
    | none =>
      let (isNegated, first) ← classOpening
      let nested ← closeClass isNegated (← classParts fuel none first)
      classParts fuel left (parts ++ [nested])
  | c =>
    operationOr
      (fun operation => do
        skip 2
        classParts fuel (some (operation, .combine mode left (.join parts))) [])
      (do
        let set ← classSpan
        classParts fuel left (parts ++ [⟨set, 0⟩])) c

theorem classParts_succ (fuel : Nat) (left : Option (SetOperation × ClassPart))
    (parts : List ClassPart) : classParts (fuel + 1) left parts = (do
      skipBlanks
      let mode ← mode
      match ← next? with
      | none => failure
      | some c => classPartsAt fuel mode left parts c) := by
  refine bind_congr fun _ => bind_congr fun mode => bind_congr fun next => ?_
  split
  · rfl
  · rfl
  · rfl
  · rename_i c notClosing notOpening
    dsimp only
    unfold classPartsAt
    split
    · exact (notClosing rfl).elim
    · exact (notOpening rfl).elim
    · rfl

/-- Parts from behind what opens a class in the class on. -/
def behindClassOpening (fuel : Nat) (left : Option (SetOperation × ClassPart))
    (parts : List ClassPart) (opened : Bool × List ClassPart) : Scan ClassPart := do
  let nested ← closeClass opened.1 (← classParts fuel none opened.2)
  classParts fuel left (parts ++ [nested])

/-- Parts from behind an opening bracket on, which may have begun a class that is known by name. -/
def behindBracket (fuel : Nat) (left : Option (SetOperation × ClassPart))
    (parts : List ClassPart) : Option CharSet → Scan ClassPart
  | some set => classParts fuel left (parts ++ [⟨set, 0⟩])
  | none => do behindClassOpening fuel left parts (← classOpening)

theorem classPartsAt_bracket (fuel : Nat) (mode : PatternMode)
    (left : Option (SetOperation × ClassPart)) (parts : List ClassPart) :
    classPartsAt fuel mode left parts '[' =
      (do behindBracket fuel left parts (← asciiClass?)) := by
  refine bind_congr fun named => ?_
  cases named <;> rfl

section ClassParts

variable {fuel : Nat} {left : Option (SetOperation × ClassPart)} {parts : List ClassPart}
  (goes : ∀ left parts, Drops 1 (classParts fuel left parts))
include goes

theorem drops_behindClassOpening (opened : Bool × List ClassPart) :
    Drops 1 (behindClassOpening fuel left parts opened) :=
  .before (goes _ _).weaken fun _ => .before (drops_closeClass _ _) fun _ => goes _ _

theorem drops_behindBracket (named : Option CharSet) :
    Drops 1 (behindBracket fuel left parts named) := by
  cases named with
  | none => exact .before drops_classOpening.weaken (drops_behindClassOpening goes)
  | some set => exact goes _ _

theorem drops_classPartsAt {mode : PatternMode} (c : Char) :
    Drops 1 (classPartsAt fuel mode left parts c) := by
  by_cases opens : c = '['
  · subst opens
    rw [classPartsAt_bracket]
    exact .before drops_asciiClass? (drops_behindBracket goes)
  unfold classPartsAt
  split
  · exact .bind (drops_skip 1) fun _ => .pure _
  · exact absurd rfl opens
  · exact drops_operationOr (fun _ => .before (drops_skip 2).weaken fun _ => goes _ _)
      (.before drops_classSpan.weaken fun _ => goes _ _) _

end ClassParts

theorem drops_classParts (fuel : Nat) (left : Option (SetOperation × ClassPart))
    (parts : List ClassPart) : Drops 1 (classParts fuel left parts) := by
  induction fuel generalizing left parts with
  | zero => exact .failure
  | succ fuel ih =>
    rw [classParts_succ]
    refine .before drops_skipBlanks fun _ => .before drops_mode fun mode => ?_
    refine .before drops_next? fun next => ?_
    split
    · exact .failure
    · exact drops_classPartsAt ih _

theorem drops_bracketed : Drops 1 bracketed := by
  refine .before .get fun scanner => .bind drops_classOpening fun opened => ?_
  exact .bind (drops_classParts _ _ _).weaken fun _ => drops_closeClass _ _

/-! ### Whole patterns -/

theorem drops_flags (fuel : Nat) (before : List Char) (mode : PatternMode) :
    Drops 0 (flags fuel before mode) := by
  induction fuel generalizing before mode with
  | zero => exact .failure
  | succ fuel ih =>
    refine .bind drops_next? fun next => ?_
    split
    · exact .failure
    · refine .ite (.ite .failure (.pure _)) (.ite .failure ?_)
      refine .bind (drops_skip 1).weaken fun _ => ?_
      split
      · exact ih _ _
      · dsimp only
        split
        · exact ih _ _
        · exact .failure

theorem drops_groupName : Drops 0 groupName := by
  refine .of_get fun scanner value after run => ?_
  refine (Drops.set_run ?_ run).trans (List.drop_suffix _ _)
  exact .bind (drops_expect _).weaken fun _ => .ite .failure (.pure _)

/-- What opens with flags, up to the colon of a group or to the closing parenthesis. -/
def flaggedOpening (letters : List Char) (inner : PatternMode) : Scan Opening := do
  if (← next?) = some ')' then
    skip 1
    if letters.isEmpty then failure else return .flags inner
  else
    skip 1
    return .group false inner

/-- What comes before the name of a group. -/
def groupMark : Scan Bool := skipWord "?P<" <||> skipWord "?<"

/-- What opens, behind the parenthesis. -/
def openingBehind (mode : PatternMode) : Scan Opening := do
  if ← groupMark then
    groupName
    return .group true mode
  else if ← skipWord "?" then
    let read ← flags ((← get).rest.length + 1) [] mode
    flaggedOpening read.1 read.2
  else return .group true mode

/-- Whether a text looks ahead or behind. -/
def looksAround (text : List Char) : Bool :=
  ["?=", "?!", "?<=", "?<!"].any fun word => word.toList.isPrefixOf text

theorem opening_eq : opening = (do
    step
    let mode ← mode
    if looksAround (← get).rest then failure else openingBehind mode) := rfl

theorem drops_flaggedOpening (letters : List Char) (inner : PatternMode) :
    Drops 1 (flaggedOpening letters inner) :=
  .before drops_next? fun _ => .ite (.bind (drops_skip 1) fun _ => .ite .failure (.pure _))
    (.bind (drops_skip 1) fun _ => .pure _)

theorem drops_groupMark : Drops 0 groupMark := by
  refine .bind (drops_skipWord _) fun named => ?_
  split
  · exact .pure _
  · exact drops_skipWord _

theorem drops_openingBehind (mode : PatternMode) : Drops 0 (openingBehind mode) :=
  .bind drops_groupMark fun _ => .ite (.bind drops_groupName fun _ => .pure _)
    (.bind (drops_skipWord _) fun _ => .ite (.bind .get fun _ => .bind (drops_flags _ _ _)
      fun _ => (drops_flaggedOpening _ _).weaken) (.pure _))

theorem drops_opening : Drops 1 opening := by
  rw [opening_eq]
  exact .bind drops_step fun _ => .bind drops_mode fun mode => .bind .get fun scanner =>
    .ite .failure (drops_openingBehind mode)

theorem drops_skipLazyMark : Drops 0 skipLazyMark :=
  .bind drops_next? fun _ => .ite (drops_skip 1).weaken (.pure _)

/-- Counts once they are known; the closing brace comes next. -/
def keepCounts (least : Nat) (most : Option Nat) : Scan (Nat × Option Nat) := do
  if (← next?) ≠ some '\x7d' then failure
  step
  skipLazyMark
  if most.any (· < least) then failure else return (least, most)

theorem counts_eq : counts = (do
    step
    let least ← count
    if (← next?) = some ',' then
      step
      if (← next?) = some '\x7d' then keepCounts least none
      else (some <$> count) >>= keepCounts least
    else keepCounts least (some least)) := rfl

theorem drops_keepCounts (least : Nat) (most : Option Nat) : Drops 0 (keepCounts least most) :=
  .bind drops_next? fun _ => .ite .failure (.bind drops_step.weaken fun _ =>
    .bind drops_skipLazyMark fun _ => .ite .failure (.pure _))

theorem drops_counts : Drops 1 counts := by
  rw [counts_eq]
  exact .bind drops_step fun _ => .bind drops_count fun _ => .bind drops_next? fun _ => .ite
    (.bind drops_step.weaken fun _ => .bind drops_next? fun _ => .ite (drops_keepCounts _ _)
      (.bind (drops_count.map some) fun _ => drops_keepCounts _ _)) (drops_keepCounts _ _)

/-- A repetition is gone over if there is one; otherwise nothing is. -/
theorem repetition?_run (run : repetition?.run scanner = some (value, after)) :
    value = none ∧ after = scanner ∨ value ≠ none ∧ after.rest <:+ scanner.rest.drop 1 := by
  have plain (least : Nat) (most : Option Nat)
      (run : (skip 1 >>= fun _ => skipLazyMark >>= fun _ => pure (some (least, most))).run scanner =
        some (value, after)) : value ≠ none ∧ after.rest <:+ scanner.rest.drop 1 := by
    rw [StateT.run_bind] at run
    obtain ⟨⟨_, middle⟩, skipped, run⟩ := Option.bind_eq_some_iff.mp run
    rw [StateT.run_bind] at run
    obtain ⟨⟨_, last⟩, marked, run⟩ := Option.bind_eq_some_iff.mp run
    cases run
    exact ⟨nofun, (drops_skipLazyMark middle _ _ marked).trans (drops_skip 1 scanner _ _ skipped)⟩
  rw [repetition?, StateT.run_bind, next?_run] at run
  obtain ⟨⟨_, _⟩, ⟨⟩, run⟩ := Option.bind_eq_some_iff.mp run
  split at run
  · exact .inr (plain _ _ run)
  · exact .inr (plain _ _ run)
  · exact .inr (plain _ _ run)
  · rw [StateT.run_bind] at run
    obtain ⟨⟨_, last⟩, counted, run⟩ := Option.bind_eq_some_iff.mp run
    cases run
    exact .inr ⟨nofun, drops_counts scanner _ _ counted⟩
  · cases run
    exact .inl ⟨rfl, rfl⟩

theorem drops_repetition? : Drops 0 repetition? := by
  intro scanner value after run
  rcases repetition?_run run with ⟨-, rfl⟩ | ⟨-, suffix⟩
  · exact List.suffix_rfl
  · exact suffix.trans (List.drop_suffix _ _)

theorem drops_simplePiece : Drops 1 simplePiece := by
  refine .before drops_mode fun mode => .before drops_next? fun next => ?_
  split
  · exact .failure
  · refine .bind drops_escape fun item => ?_
    split <;> exact .pure _
  · refine .bind (drops_skip 1) fun _ => ?_
    split
    · split
      · exact .pure _
      · exact .failure
    · exact .pure _
    · exact .pure _
    · exact .pure _

/-- Alternatives from a piece on that a character begins. -/
def piecesAt (fuel : Nat) (choices pieces : List Piece) (c : Char) : Scan Piece :=
  match c with
  | ')' => return .inChoice (.inSequence pieces :: choices)
  | '|' => do
    skip 1
    alternatives fuel (.inSequence pieces :: choices) []
  | '(' => do
    let outer ← mode
    match ← opening with
    | .flags mode =>
      setMode mode
      alternatives fuel choices (⟨.empty, 0, false⟩ :: pieces)
    | .group isKept mode =>
      setMode mode
      let inner ← alternatives fuel [] []
      expect ')'
      setMode outer
      let expr := if isKept then .group inner.expr else inner.expr
      alternatives fuel choices (⟨expr, inner.depth + 1, true⟩ :: pieces)
  | '[' => do
    let part ← bracketed
    alternatives fuel choices (⟨.chars part.set, part.depth, true⟩ :: pieces)
  | _ => do
    match ← repetition?, pieces with
    | some (least, most), piece :: before =>
      if piece.repeats then alternatives fuel choices (piece.times least most :: before)
      else failure
    | some _, [] => failure
    | none, _ =>
      let piece ← simplePiece
      alternatives fuel choices (piece :: pieces)

theorem alternatives_succ (fuel : Nat) (choices pieces : List Piece) :
    alternatives (fuel + 1) choices pieces = (do
      skipBlanks
      match ← next? with
      | none => return .inChoice (.inSequence pieces :: choices)
      | some c => piecesAt fuel choices pieces c) := by
  refine bind_congr fun _ => bind_congr fun next => ?_
  split
  iterate 5 rfl
  · dsimp only
    unfold piecesAt
    split
    iterate 4 contradiction
    · rfl

/-- Alternatives from behind the closing parenthesis of a group on, which comes next. -/
def behindGroup (fuel : Nat) (choices pieces : List Piece) (outer : PatternMode) (isKept : Bool)
    (inner : Piece) : Scan Piece := do
  expect ')'
  setMode outer
  let expr := if isKept then .group inner.expr else inner.expr
  alternatives fuel choices (⟨expr, inner.depth + 1, true⟩ :: pieces)

/-- Alternatives from behind what opens a group or sets flags on. -/
def behindOpening (fuel : Nat) (choices pieces : List Piece) (outer : PatternMode) :
    Opening → Scan Piece
  | .flags mode => do
    setMode mode
    alternatives fuel choices (⟨.empty, 0, false⟩ :: pieces)
  | .group isKept mode => do
    setMode mode
    behindGroup fuel choices pieces outer isKept (← alternatives fuel [] [])

/-- Alternatives from behind what repeats the piece before it on, or from another piece on. -/
def behindRepetition (fuel : Nat) (choices pieces : List Piece)
    (repetition : Option (Nat × Option Nat)) : Scan Piece :=
  match repetition, pieces with
  | some (least, most), piece :: before =>
    if piece.repeats then alternatives fuel choices (piece.times least most :: before)
    else failure
  | some _, [] => failure
  | none, _ => do
    let piece ← simplePiece
    alternatives fuel choices (piece :: pieces)

theorem piecesAt_opening (fuel : Nat) (choices pieces : List Piece) :
    piecesAt fuel choices pieces '(' =
      (do behindOpening fuel choices pieces (← mode) (← opening)) := by
  refine bind_congr fun outer => bind_congr fun opened => ?_
  cases opened <;> rfl

section Alternatives

variable {fuel : Nat} {choices pieces : List Piece}
  (goes : ∀ choices pieces, Drops 0 (alternatives fuel choices pieces))
include goes

theorem drops_behindGroup (outer : PatternMode) (isKept : Bool) (inner : Piece) :
    Drops 0 (behindGroup fuel choices pieces outer isKept inner) :=
  .bind (drops_expect _).weaken fun _ => .bind (drops_setMode _) fun _ => goes _ _

theorem drops_behindOpening (outer : PatternMode) (opened : Opening) :
    Drops 0 (behindOpening fuel choices pieces outer opened) := by
  cases opened with
  | flags mode => exact .bind (drops_setMode _) fun _ => goes _ _
  | group isKept mode =>
    exact .bind (drops_setMode _) fun _ => .bind (goes _ _) fun _ => drops_behindGroup goes _ _ _

theorem drops_behindRepetition (repetition : Option (Nat × Option Nat)) :
    Drops 0 (behindRepetition fuel choices pieces repetition) := by
  unfold behindRepetition
  split
  · exact .ite (goes _ _) .failure
  · exact .failure
  · exact .bind drops_simplePiece.weaken fun piece => goes _ _

theorem drops_piecesAt (c : Char) : Drops 0 (piecesAt fuel choices pieces c) := by
  by_cases opens : c = '('
  · subst opens
    rw [piecesAt_opening]
    exact .bind drops_mode fun _ => .bind drops_opening.weaken fun _ => drops_behindOpening goes _ _
  unfold piecesAt
  split
  · exact .pure _
  · exact .bind (drops_skip 1).weaken fun _ => goes _ _
  · exact absurd rfl opens
  · exact .bind drops_bracketed.weaken fun part => goes _ _
  · exact .bind drops_repetition? (drops_behindRepetition goes)

end Alternatives

theorem drops_alternatives (fuel : Nat) (choices pieces : List Piece) :
    Drops 0 (alternatives fuel choices pieces) := by
  induction fuel generalizing choices pieces with
  | zero => exact .failure
  | succ fuel ih =>
    rw [alternatives_succ]
    refine .bind drops_skipBlanks fun _ => .bind drops_next? fun next => ?_
    split
    · exact .pure _
    · exact drops_piecesAt ih _

end DebugOutline.Scan
