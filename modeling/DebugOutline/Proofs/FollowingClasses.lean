import DebugOutline.Proofs.Following

/-! Escapes and classes are read alike on their own and in front of a closing parenthesis. -/
namespace DebugOutline.Scan

open Unicode (CharSet)

variable {tail : List Char} {slack : Nat} {scanner : Scanner}

/-! ### Escapes -/

theorem agrees_charOf (closing : Closing tail) (width : Nat) (isBraced : Bool)
    (digits : List Char) :
    Agrees tail slack (charOf width isBraced digits) (charOf width isBraced digits) scanner := by
  refine .bind closing (agrees_skipBlanks closing) drops_skipBlanks (fun _ => ?_) fun _ _ _ => ?_
  · split
    · exact .ite .failure (.bind drops_mode fun _ => .ite .failure (.pure _))
    · exact .failure
  · split
    · exact .ite .failure (.mode (.ite .failure (.pure _)))
    · exact .failure

theorem agrees_charCode (closing : Closing tail) (width : Nat) (more : scanner.rest ≠ []) :
    Agrees tail slack (charCode width) (charCode width) scanner := by
  rw [charCode_eq]
  have plain (isBraced : Bool) (scanner : Scanner) :
      Agrees tail slack (hexDigits width >>= charOf width isBraced)
        (hexDigits width >>= charOf width isBraced) scanner :=
    .bind closing (agrees_hexDigits closing width) (drops_hexDigits width) (drops_charOf width _)
      fun _ _ _ => agrees_charOf closing width _ _
  refine .bind closing (agrees_step closing more) drops_step.weaken (fun _ =>
      .bind drops_next? fun _ => .ite (.bind drops_braced.weaken (drops_charOf width _))
        (.bind (drops_hexDigits width) (drops_charOf width _)))
    fun _ _ _ => .next closing (fun c rest here => .ite ?_ (plain _ _)) rfl fun _ => plain _ _
  exact .bind closing (agrees_braced closing (rest_ne_nil here)) drops_braced.weaken
    (drops_charOf width _) fun _ _ _ => agrees_charOf closing width _ _

theorem agrees_propertySet (isNegated : Bool) (set? : Option Unicode.CharSet) :
    Agrees tail slack (propertySet isNegated set?) (propertySet isNegated set?) scanner := by
  refine .mode ?_
  split
  · exact .ite .failure (.ite (.pure _) (.pure _))
  · exact .failure

theorem agrees_namedSet (closing : Closing tail) (isNegated : Bool) (more : scanner.rest ≠ []) :
    Agrees tail slack (namedSet isNegated) (namedSet isNegated) scanner := by
  rw [namedSet_eq]
  refine .bind closing (agrees_step closing more) drops_step.weaken (fun _ => ?_) fun _ _ _ =>
    .next_needed 1 closing (fun c rest here => ?_) rfl rfl ?_ (Nat.le_add_left 1 slack)
  · refine .bind drops_next? fun next => ?_
    split
    · refine .bind drops_braced.weaken fun name => ?_
      split <;> exact drops_propertySet _ _
    · exact .failure
    · exact .failure
    · exact .bind drops_step.weaken fun _ => drops_propertySet _ _
  · split
    · refine .bind closing (agrees_braced closing (rest_ne_nil here)) drops_braced.weaken
        (fun name => ?_) fun name _ _ => ?_
      · split <;> exact drops_propertySet _ _
      · split <;> exact agrees_propertySet _ _
    · exact .failure
    · exact .failure
    · exact .bind closing (agrees_step closing (rest_ne_nil here)) drops_step.weaken
        (fun _ => drops_propertySet _ _) fun _ _ _ => agrees_propertySet _ _
  · exact .bind drops_step fun _ => drops_propertySet _ _

theorem agrees_shortSet (c : Char) : Agrees tail slack (shortSet c) (shortSet c) scanner := by
  refine .mode (.ite ?_ (.pure _))
  split
  · exact .pure _
  · exact .failure

theorem agrees_boundaryName (closing : Closing tail) {fuel fuel' : Nat} (positive : 0 < slack)
    (enough : scanner.rest.length < fuel) (enough' : scanner.rest.length + tail.length < fuel') :
    Agrees tail slack (boundaryName fuel) (boundaryName fuel') scanner := by
  induction fuel generalizing fuel' scanner with
  | zero => exact absurd enough (Nat.not_lt_zero _)
  | succ fuel ih =>
    obtain ⟨fuel', rfl⟩ := Nat.exists_eq_add_one_of_ne_zero (Nat.ne_zero_of_lt enough')
    refine .next_needed 0 closing (fun c rest here => ?_) rfl rfl ?_ positive
    · have more := rest_ne_nil here
      refine .ite (.bind closing (agrees_step closing more) drops_step.weaken
        (fun _ => (drops_boundaryName _).map _) fun _ middle run => ?_) (.pure [])
      have shorter := length_lt_of_drops drops_step run more
      exact .map closing (ih (by omega) (by omega)) (drops_boundaryName _) _
    · exact .ite (.bind drops_step.weaken fun _ => (drops_boundaryName _).map _) (.pure [])

/-- An opening brace that has nothing behind it, apart from blanks that do not count. -/
def BraceLast (scanner : Scanner) : Prop :=
  scanner.rest.head? = some '\x7b' ∧ ∀ value after, step.run scanner = some (value, after) →
    after.rest = []

theorem agrees_namedBoundary (closing : Closing tail) :
    Agrees tail slack namedBoundary namedBoundary scanner := by
  refine .get (.bind_dropping 1 closing.length_pos
    (agrees_boundaryName closing (Nat.succ_pos slack) (Nat.lt_succ_self _) ?_)
    (drops_boundaryName _) (fun name => .bind (drops_expect _) fun _ => drops_boundaryNamed name)
    fun name _ _ => ?_)
  · rw [Scanner.followed_rest, List.length_append]
    exact Nat.lt_succ_self _
  · refine .bind closing (agrees_expect closing _) (drops_expect _).weaken
      (fun _ => drops_boundaryNamed name) fun _ _ _ => ?_
    unfold boundaryNamed
    split
    iterate 4 exact .pure _
    · exact .failure

theorem agrees_boundary (closing : Closing tail) (notLast : ¬ BraceLast scanner) :
    Agrees tail slack boundary boundary scanner := by
  rw [boundary_eq]
  refine .next closing (fun c rest here => .ite_of (fun _ => .pure _) fun isBrace => .get ?_) rfl
    fun _ => .ite_of (fun _ => .pure _) fun isBrace => absurd (by decide) isBrace
  have more := rest_ne_nil here
  obtain ⟨⟨_, stepped⟩, stepRun⟩ : ∃ read, step.run scanner = some read := ⟨_, rfl⟩
  -- The first character behind the brace decides what the brace begins, so there has to be one.
  have left : stepped.rest ≠ [] := by
    intro none
    refine notLast ⟨by rw [here, List.head?_cons]; exact not_not.mp isBrace, fun _ after run => ?_⟩
    rw [stepRun] at run
    cases run
    exact none
  have agrees : Agrees tail slack step step scanner := agrees_step closing more
  have alsoStepped := (agrees.forward stepRun).resolve_right fun gone => left gone.1
  obtain ⟨d, others, behind⟩ := List.exists_cons_of_ne_nil left
  have alone := bracedBoundary_run scanner stepRun (by rw [behind, List.head?_cons])
  have among := bracedBoundary_run (scanner.followed tail) alsoStepped
    (by rw [Scanner.followed_rest, behind, List.cons_append, List.head?_cons])
  cases letter : isBoundaryLetter d with
  | true =>
    rw [letter, if_pos rfl] at alone among
    exact .of_run alone among (drops_step.weaken scanner _ stepped stepRun)
      (agrees_namedBoundary closing) fun ended => absurd ended more
  | false =>
    rw [letter, if_neg Bool.false_ne_true] at alone among
    have given (before : Scanner) : (pure Look.wordBoundary : Scan Look).run before =
        some (.wordBoundary, before) := rfl
    exact .of_run (alone.trans (given _).symm) (among.trans (given _).symm) List.suffix_rfl
      (.pure _) fun ended => absurd ended more

theorem agrees_letterEscape (closing : Closing tail) {c : Char}
    (notLast : c = 'b' → ¬ BraceLast scanner) :
    Agrees tail slack (letterEscape c) (letterEscape c) scanner := by
  unfold letterEscape
  split
  iterate 6 exact .map closing (agrees_shortSet _) (drops_shortSet _) _
  iterate 2 exact .pure _
  · exact .map closing (agrees_boundary closing (notLast rfl)) drops_boundary _
  iterate 3 exact .pure _
  · split
    · exact .pure _
    · exact .ite (.pure _) .failure

theorem agrees_markedEscape (closing : Closing tail) {c : Char} (more : scanner.rest ≠ [])
    (notLast : c = 'b' → ¬ BraceLast { scanner with rest := scanner.rest.drop 1 }) :
    Agrees tail slack (markedEscape c) (markedEscape c) scanner := by
  unfold markedEscape
  split
  · exact .map closing (agrees_charCode closing 2 more) (drops_charCode 2).weaken _
  · exact .map closing (agrees_charCode closing 4 more) (drops_charCode 4).weaken _
  · exact .map closing (agrees_charCode closing 8 more) (drops_charCode 8).weaken _
  · exact .map closing (agrees_namedSet closing false more) (drops_namedSet false).weaken _
  · exact .map closing (agrees_namedSet closing true more) (drops_namedSet true).weaken _
  · refine .bind closing (agrees_skip (List.length_pos_iff.mpr more)) (drops_skip 1).weaken
      (fun _ => drops_letterEscape c) fun _ last run => ?_
    cases run
    exact agrees_letterEscape closing notLast

/-- An escape that writes a boundary, and then an opening brace that is the last in the text. -/
def BoundaryLast (scanner : Scanner) : Prop :=
  ∃ rest, scanner.rest = '\\' :: 'b' :: rest ∧ BraceLast { scanner with rest }

/-- An escape is read as it is on its own, unless the brace behind a boundary is the last: whether
a name begins there depends on what follows it. -/
theorem agrees_escape (closing : Closing tail) (here : scanner.rest = '\\' :: behind)
    (notLast : ¬ BoundaryLast scanner) : Agrees tail slack escape escape scanner := by
  have more := rest_ne_nil here
  rw [escape_eq]
  refine .bind closing (agrees_skip (List.length_pos_iff.mpr more)) (drops_skip 1).weaken
    (fun _ => .bind drops_next? fun next => ?_) fun _ middle run => ?_
  · split
    · exact .failure
    · exact (drops_markedEscape _).weaken
  · cases run
    refine .next_needed 1 closing (fun c rest marked => ?_) rfl rfl (drops_markedEscape ')')
      (Nat.le_add_left 1 slack)
    refine agrees_markedEscape closing (rest_ne_nil marked) fun isBoundary last => ?_
    change scanner.rest.drop 1 = c :: rest at marked
    change BraceLast { scanner with rest := (scanner.rest.drop 1).drop 1 } at last
    rw [marked, List.drop_succ_cons, List.drop_zero] at last
    rw [here, List.drop_succ_cons, List.drop_zero] at marked
    exact notLast ⟨rest, by rw [here, marked, isBoundary], last⟩

theorem bracedBoundary_none (before : Scanner) (stepRun : step.run scanner = some (value, stepped))
    (ended : stepped.rest.head? = none) : (bracedBoundary before).run scanner = none := by
  simp only [bracedBoundary, StateT.run_bind, stepRun, next?_run, ended, Option.bind_eq_bind,
    Option.bind_some]
  rfl

theorem boundary_run (brace : scanner.rest.head? = some '\x7b') :
    boundary.run scanner = (bracedBoundary scanner).run scanner := by
  simp only [boundary_eq, StateT.run_bind, next?_run, brace, Option.bind_eq_bind, Option.bind_some]
  rfl

theorem brace_followed (brace : scanner.rest.head? = some '\x7b') :
    (scanner.followed tail).rest.head? = some '\x7b' := by
  rw [Scanner.followed_rest, List.head?_append, brace, Option.some_or]

/-- Behind a brace that is the last comes what follows the text, or nothing. -/
theorem step_last (closing : Closing tail) (last : BraceLast scanner) :
    ∃ after, step.run (scanner.followed tail) = some ((), after) ∧
      (after.rest.head? = none ∨ after.rest.head? = some ')') := by
  obtain ⟨brace, ends⟩ := last
  have more : scanner.rest ≠ [] := by
    intro none
    rw [none] at brace
    cases brace
  obtain ⟨⟨_, stepped⟩, stepRun⟩ : ∃ read, step.run scanner = some read := ⟨_, rfl⟩
  have ended := ends _ _ stepRun
  have agrees : Agrees tail 0 step step scanner := agrees_step closing more
  rcases agrees.forward stepRun with kept | ⟨-, -, gone⟩
  · obtain ⟨extra, rfl, -⟩ := closing
    refine ⟨_, kept, .inr ?_⟩
    rw [Scanner.followed_rest, ended]
    rfl
  · exact ⟨_, gone, .inl (by rw [ended, List.head?_nil])⟩

/-- A brace that is the last leaves it open what it begins; if a parenthesis follows it, it begins
nothing that belongs to the boundary. -/
theorem boundary_last (closing : Closing tail) (last : BraceLast scanner) :
    boundary.run scanner = none ∧ (boundary.run (scanner.followed tail) = none ∨
      boundary.run (scanner.followed tail) = some (.wordBoundary, scanner.followed tail)) := by
  obtain ⟨⟨_, stepped⟩, stepRun⟩ : ∃ read, step.run scanner = some read := ⟨_, rfl⟩
  obtain ⟨after, alsoStepped, ended⟩ := step_last closing last
  rw [boundary_run last.1, boundary_run (brace_followed last.1)]
  refine ⟨bracedBoundary_none scanner stepRun ?_, ?_⟩
  · rw [last.2 _ _ stepRun, List.head?_nil]
  · rcases ended with none | closed
    · exact .inl (bracedBoundary_none _ alsoStepped none)
    · exact .inr (bracedBoundary_run _ alsoStepped closed)

theorem escape_boundary (here : scanner.rest = '\\' :: 'b' :: behind) : escape.run scanner =
    (do return PatternItem.look (← boundary) : Scan PatternItem).run
      { scanner with rest := behind } := by
  obtain ⟨rest, mode, names⟩ := scanner
  obtain rfl : rest = '\\' :: 'b' :: behind := here
  rfl

/-- An escape that such a boundary is in. -/
theorem escape_last (closing : Closing tail) (last : BoundaryLast scanner) :
    escape.run scanner = none ∧ ∃ rest, BraceLast { scanner with rest } ∧
      (escape.run (scanner.followed tail) = none ∨ escape.run (scanner.followed tail) =
        some (.look .wordBoundary, { scanner with rest }.followed tail)) := by
  obtain ⟨rest, here, last⟩ := last
  obtain ⟨alone, among⟩ := boundary_last closing last
  have alsoHere : (scanner.followed tail).rest = '\\' :: 'b' :: (rest ++ tail) := by
    rw [Scanner.followed_rest, here, List.cons_append, List.cons_append]
  refine ⟨by rw [escape_boundary here, StateT.run_bind, alone]; rfl, rest, last, ?_⟩
  have opened : escape.run (scanner.followed tail) =
      (boundary.run ({ scanner with rest }.followed tail)).bind fun read =>
        some (.look read.1, read.2) := escape_boundary alsoHere
  rw [opened]
  rcases among with none | kept
  · exact .inl (by rw [none]; rfl)
  · exact .inr (by rw [kept]; rfl)

/-! ### Classes -/

/-- A class of ASCII whose name is followed by what closes it. -/
def asciiClassClosed? (isNegated : Bool) (set? : Option CharSet) (behind : List Char) :
    Option (Bool × CharSet × List Char) :=
  match behind, set? with
  | ':' :: ']' :: rest, some set => some (isNegated, set, rest)
  | _, _ => none

/-- A class of ASCII by the name that a text begins with. -/
def asciiClassNamed? (isNegated : Bool) (text : List Char) :
    Option (Bool × CharSet × List Char) :=
  asciiClassClosed? isNegated
    (asciiClasses.lookup (String.ofList (text.takeWhile (· != ':')))) (text.dropWhile (· != ':'))

theorem asciiClassAhead?_opened (inner : List Char) : asciiClassAhead? ('[' :: ':' :: inner) =
    asciiClassNamed? (inner.head? == some '^')
      (if inner.head? == some '^' then inner.drop 1 else inner) := rfl

theorem asciiClassClosed?_tail (closing : Closing tail) (isNegated : Bool)
    (set? : Option CharSet) (behind : List Char) :
    asciiClassClosed? isNegated set? (behind ++ tail) =
      (asciiClassClosed? isNegated set? behind).map fun found =>
        (found.1, found.2.1, found.2.2 ++ tail) := by
  obtain ⟨extra, rfl, -⟩ := closing
  rcases behind with _ | ⟨c, _ | ⟨d, rest⟩⟩
  · simp [asciiClassClosed?]
  · simp [asciiClassClosed?]
  · simp only [asciiClassClosed?, List.cons_append]
    split
    · rename_i ended
      cases ended
      rfl
    · rename_i refused
      split
      · rename_i rest set ended
        cases ended
        exact absurd rfl (refused _ _ rfl)
      · rfl

theorem asciiClassNamed?_tail (closing : Closing tail) (isNegated : Bool) (text : List Char) :
    asciiClassNamed? isNegated (text ++ tail) =
      (asciiClassNamed? isNegated text).map fun found =>
        (found.1, found.2.1, found.2.2 ++ tail) := by
  unfold asciiClassNamed?
  by_cases none : text.dropWhile (· != ':') = []
  · have noColon : tail.dropWhile (· != ':') = [] := by
      rw [List.dropWhile_eq_nil_iff]
      intro c member
      exact bne_iff_ne.mpr fun same => closing.not_mem (by decide) (by decide) (same ▸ member)
    rw [List.dropWhile_append, none, List.isEmpty_nil, if_pos rfl, noColon]
    rfl
  · rw [List.dropWhile_append, if_neg (mt List.isEmpty_iff.mp none), takeWhile_tail none]
    exact asciiClassClosed?_tail closing isNegated _ _

/-- A class of ASCII ends before what follows the text. -/
theorem asciiClassAhead?_tail (closing : Closing tail) (text : List Char) :
    asciiClassAhead? (text ++ tail) =
      (asciiClassAhead? text).map fun found => (found.1, found.2.1, found.2.2 ++ tail) := by
  by_cases opened : ∃ inner, text = '[' :: ':' :: inner
  · obtain ⟨inner, rfl⟩ := opened
    rw [List.cons_append, List.cons_append, asciiClassAhead?_opened, asciiClassAhead?_opened]
    cases inner with
    | nil =>
      obtain ⟨extra, rfl, plain⟩ := closing
      exact asciiClassNamed?_tail ⟨extra, rfl, plain⟩ false []
    | cons c inner =>
      rw [List.cons_append, List.head?_cons, List.head?_cons]
      split
      · exact asciiClassNamed?_tail closing _ inner
      · exact asciiClassNamed?_tail closing _ (c :: inner)
  · have alone : asciiClassAhead? text = none := by
      unfold asciiClassAhead?
      split
      · exact absurd ⟨_, rfl⟩ opened
      · rfl
    have among : asciiClassAhead? (text ++ tail) = none := by
      obtain ⟨extra, rfl, -⟩ := closing
      unfold asciiClassAhead?
      split
      · rename_i inner same
        rcases text with _ | ⟨c, _ | ⟨d, text⟩⟩
        · cases same
        · cases same
        · obtain ⟨rfl, rfl, -⟩ : c = '[' ∧ d = ':' ∧ _ := by simpa using same
          exact absurd ⟨text, rfl⟩ opened
      · rfl
    rw [alone, among]
    rfl

theorem agrees_asciiClassSet (isNegated : Bool) (found : CharSet) :
    Agrees tail slack (asciiClassSet isNegated found) (asciiClassSet isNegated found) scanner := by
  refine .mode (.ite ?_ (.pure _))
  split
  · exact .pure _
  · exact .failure

theorem agrees_asciiClass? (closing : Closing tail) (more : scanner.rest ≠ []) :
    Agrees tail slack asciiClass? asciiClass? scanner := by
  rw [asciiClass?_eq]
  refine .get ?_
  rw [Scanner.followed_rest, asciiClassAhead?_tail closing]
  cases ahead : asciiClassAhead? scanner.rest with
  | none => exact .pure none
  | some found =>
    obtain ⟨isNegated, set, rest⟩ := found
    have suffix := (asciiClassAhead?_suffix ahead).trans (List.drop_suffix _ _)
    have agrees : Agrees tail slack (asciiClassSet isNegated set) (asciiClassSet isNegated set)
        { scanner with rest } := agrees_asciiClassSet isNegated set
    refine .of_run ?_ ?_ suffix agrees (fun ended => absurd ended more) <;> rfl

theorem agrees_classLiteral (c : Char) :
    Agrees tail slack (classLiteral c) (classLiteral c) scanner :=
  .mode (.ite .failure (.pure _))

theorem agrees_classItem (closing : Closing tail) (notLast : ¬ BoundaryLast scanner) :
    Agrees tail slack classItem classItem scanner := by
  refine .next_needed 1 closing (fun c rest here => ?_) rfl rfl
    (.bind (drops_skip 1) fun _ => .pure _) (Nat.le_add_left 1 slack)
  split
  · exact .failure
  · rename_i found
    cases found
    exact agrees_escape closing here notLast
  · have fits := List.length_pos_iff.mpr (rest_ne_nil here)
    exact .bind closing (agrees_skip fits) (drops_skip 1).weaken (fun _ => .pure _)
      fun _ _ _ => .pure _

theorem classItem_run (here : scanner.rest = '\\' :: behind) :
    classItem.run scanner = escape.run scanner := by
  obtain ⟨rest, mode, names⟩ := scanner
  obtain rfl : rest = '\\' :: behind := here
  rfl

theorem classItem_last (closing : Closing tail) (last : BoundaryLast scanner) :
    classItem.run scanner = none ∧ ∃ rest, BraceLast { scanner with rest } ∧
      (classItem.run (scanner.followed tail) = none ∨ classItem.run (scanner.followed tail) =
        some (.look .wordBoundary, { scanner with rest }.followed tail)) := by
  have ⟨rest, here, _⟩ := last
  have alsoHere : (scanner.followed tail).rest = '\\' :: ('b' :: rest ++ tail) := by
    rw [Scanner.followed_rest, here, List.cons_append]
  rw [classItem_run here, classItem_run alsoHere]
  exact escape_last closing last

/-- The first character of a text. Of a comment, it is the first one behind the mark that is no
blank. -/
def unmarkedHead? (text : List Char) : Option Char :=
  match text with
  | '#' :: comment => (comment.dropWhile Unicode.isBlank).head?
  | text => text.head?

theorem unmarkedHead?_of_ne {text : List Char} (noMark : ∀ comment, text ≠ '#' :: comment) :
    unmarkedHead? text = text.head? := by
  unfold unmarkedHead?
  split
  · exact absurd rfl (noMark _)
  · rfl

/-- The character behind the next one, as `afterNext?` finds it. -/
def afterNextOf (scanner : Scanner) : Option Char :=
  if scanner.mode.ignoresBlanks then
    unmarkedHead? ((scanner.rest.drop 1).dropWhile Unicode.isBlank)
  else (scanner.rest.drop 1).head?

theorem afterNext?_run (scanner : Scanner) :
    afterNext?.run scanner = some (afterNextOf scanner, scanner) := by
  show StateT.run (ite _ _ _) scanner = _
  unfold afterNextOf
  split
  · generalize (scanner.rest.drop 1).dropWhile Unicode.isBlank = text
    split
    · rfl
    · rename_i noMark
      rw [unmarkedHead?_of_ne noMark]
      rfl
  · rfl

theorem head?_tail (closing : Closing tail) (text : List Char) :
    (text ++ tail).head? = text.head? ∨ text.head? = none ∧ (text ++ tail).head? = some ')' := by
  obtain ⟨extra, rfl, -⟩ := closing
  cases text with
  | nil => exact .inr ⟨rfl, rfl⟩
  | cons c text => exact .inl rfl

theorem unmarkedHead?_tail (closing : Closing tail) (text : List Char) :
    unmarkedHead? (text ++ tail) = unmarkedHead? text ∨
      unmarkedHead? text = none ∧ unmarkedHead? (text ++ tail) = some ')' := by
  cases text with
  | nil =>
    obtain ⟨extra, rfl, -⟩ := closing
    exact .inr ⟨rfl, rfl⟩
  | cons c rest =>
    by_cases isMark : c = '#'
    · subst isMark
      have behind := head?_tail closing (rest.dropWhile Unicode.isBlank)
      rw [← dropWhile_tail closing isBlank_closing] at behind
      exact behind
    · left
      have noMark (behind comment : List Char) : c :: behind ≠ '#' :: comment :=
        fun same => isMark (List.cons.inj same).1
      rw [List.cons_append, unmarkedHead?_of_ne (noMark _), unmarkedHead?_of_ne (noMark _)]
      rfl

theorem afterNextOf_followed (closing : Closing tail) (more : scanner.rest ≠ []) :
    afterNextOf (scanner.followed tail) = afterNextOf scanner ∨
      afterNextOf scanner = none ∧ afterNextOf (scanner.followed tail) = some ')' := by
  have behind : (scanner.followed tail).rest.drop 1 = scanner.rest.drop 1 ++ tail :=
    List.drop_append_of_le_length (List.length_pos_iff.mpr more)
  unfold afterNextOf
  rw [behind, Scanner.followed_mode, dropWhile_tail closing isBlank_closing]
  split
  · exact unmarkedHead?_tail closing _
  · exact head?_tail closing _

theorem agrees_spanTo (closing : Closing tail) (first : PatternItem) :
    Agrees tail slack (spanTo first) (spanTo first) scanner := by
  by_cases last : BoundaryLast scanner
  · obtain ⟨alone, rest, -, among⟩ := classItem_last closing last
    refine .of_none ?_ ?_ fun _ => rfl
    · rw [spanTo, StateT.run_bind, alone]
      rfl
    · rw [spanTo, StateT.run_bind]
      rcases among with none | kept
      · rw [none]
        rfl
      · rw [kept]
        cases first <;> rfl
  · refine .bind closing (agrees_classItem closing last) drops_classItem.weaken (fun item => ?_)
      fun item _ _ => ?_
    · split
      · exact .bind (drops_classLiteral _) fun _ => .bind (drops_classLiteral _) fun _ =>
          .ite (.pure _) .failure
      · exact .failure
    · split
      · exact .bind closing (agrees_classLiteral _) (drops_classLiteral _)
          (fun _ => .bind (drops_classLiteral _) fun _ => .ite (.pure _) .failure) fun _ _ _ =>
            .bind closing (agrees_classLiteral _) (drops_classLiteral _)
              (fun _ => .ite (.pure _) .failure) fun _ _ _ => .ite (.pure _) .failure
      · exact .failure

theorem agrees_spanBefore (closing : Closing tail) (first : PatternItem) (next after : Option Char)
    (more : scanner.rest ≠ []) :
    Agrees tail slack (spanBefore first next after) (spanBefore first next after) scanner := by
  refine .ite ?_ (.bind closing (agrees_step closing more) drops_step.weaken
    (fun _ => (drops_spanTo first).weaken) fun _ _ _ => agrees_spanTo closing first)
  split
  · exact .map closing (agrees_classLiteral _) (drops_classLiteral _) _
  · exact .pure _
  · exact .failure

theorem spanBefore_closing (first : PatternItem) (next : Option Char) :
    spanBefore first next (some ')') = spanBefore first next none := by
  simp [spanBefore]

theorem agrees_spanFrom (closing : Closing tail) (first : PatternItem) (next : Option Char)
    (more : scanner.rest ≠ []) :
    Agrees tail slack (afterNext? >>= spanBefore first next) (afterNext? >>= spanBefore first next)
      scanner := by
  have looked (scanner : Scanner) : (afterNext? >>= spanBefore first next).run scanner =
      (spanBefore first next (afterNextOf scanner)).run scanner := by
    rw [StateT.run_bind, afterNext?_run]
    rfl
  have same : spanBefore first next (afterNextOf (scanner.followed tail)) =
      spanBefore first next (afterNextOf scanner) := by
    rcases afterNextOf_followed closing more with kept | ⟨none, closed⟩
    · rw [kept]
    · rw [none, closed, spanBefore_closing]
  exact .of_run (looked scanner) (same ▸ looked (scanner.followed tail)) List.suffix_rfl
    (agrees_spanBefore closing first next _ more) fun _ => rfl

theorem skipBlanks_brace (brace : scanner.rest.head? = some '\x7b') :
    skipBlanks.run scanner = some ((), scanner) := by
  obtain ⟨rest, mode, names⟩ := scanner
  obtain ⟨behind, rfl⟩ := List.head?_eq_some_iff.mp brace
  show some ((), if mode.ignoresBlanks = true then _ else _) = _
  have kept : dropBlanks false ('\x7b' :: behind) = '\x7b' :: behind := by
    rw [dropBlanks, if_neg (by decide), if_neg (by decide)]
  split
  · rw [kept]
  · rfl

/-- A boundary begins nothing in a class. -/
theorem spanBefore_look (condition : Look) (scanner : Scanner) :
    (afterNext? >>= spanBefore (.look condition) (some '\x7b')).run scanner = none := by
  rw [StateT.run_bind, afterNext?_run]
  rfl

theorem agrees_classSpan (closing : Closing tail) (positive : 0 < slack) :
    Agrees tail slack classSpan classSpan scanner := by
  rw [classSpan_eq]
  have goesOn (first : PatternItem) : Drops 0 (skipBlanks >>= fun _ => next? >>= fun next =>
      if next.isNone then failure else afterNext? >>= spanBefore first next) :=
    .bind drops_skipBlanks fun _ => .bind drops_next? fun next => .ite .failure
      (.bind drops_afterNext? fun _ => drops_spanBefore first next _)
  by_cases last : BoundaryLast scanner
  · -- What is cut off alone is a boundary in front of the rest, and then has no place in a class.
    obtain ⟨alone, rest, ⟨brace, -⟩, among⟩ := classItem_last closing last
    refine .of_none ?_ ?_ fun _ => rfl
    · rw [StateT.run_bind, alone]
      rfl
    · rw [StateT.run_bind]
      rcases among with none | kept
      · rw [none]
        rfl
      · have alsoBrace : ({ scanner with rest }.followed tail).rest.head? = some '\x7b' :=
          brace_followed brace
        simp only [kept, StateT.run_bind, skipBlanks_brace alsoBrace, next?_run, alsoBrace,
          Option.bind_eq_bind, Option.bind_some]
        exact spanBefore_look _ _
  · refine .bind closing (agrees_classItem closing last) drops_classItem.weaken goesOn
      fun first _ _ => ?_
    refine .bind closing (agrees_skipBlanks closing) drops_skipBlanks (fun _ => .bind drops_next?
      fun next => .ite .failure (.bind drops_afterNext? fun _ => drops_spanBefore first next _))
      fun _ _ _ => ?_
    refine .next_needed 0 closing (fun c rest here => ?_) rfl rfl (.ite .failure
      (.bind drops_afterNext? fun _ => drops_spanBefore first _ _)) positive
    exact agrees_spanFrom closing first (some c) (rest_ne_nil here)

theorem agrees_leadingDashes (closing : Closing tail) {fuel fuel' : Nat} (positive : 0 < slack)
    (enough : scanner.rest.length < fuel) (enough' : scanner.rest.length + tail.length < fuel') :
    Agrees tail slack (leadingDashes fuel) (leadingDashes fuel') scanner := by
  induction fuel generalizing fuel' scanner with
  | zero => exact absurd enough (Nat.not_lt_zero _)
  | succ fuel ih =>
    obtain ⟨fuel', rfl⟩ := Nat.exists_eq_add_one_of_ne_zero (Nat.ne_zero_of_lt enough')
    refine .next_needed 0 closing (fun c rest here => ?_) rfl rfl (.pure []) positive
    have more := rest_ne_nil here
    split
    · exact .failure
    · refine .bind closing (agrees_step closing more) drops_step.weaken
        (fun _ => (drops_leadingDashes _).map _) fun _ middle run => ?_
      have shorter := length_lt_of_drops drops_step run more
      exact .map closing (ih (by omega) (by omega)) (drops_leadingDashes _) _
    · exact .pure []

theorem agrees_classStart (closing : Closing tail) (isNegated : Bool) (positive : 0 < slack) :
    Agrees tail slack (classStart isNegated) (classStart isNegated) scanner := by
  refine .get (.bind closing (agrees_leadingDashes closing positive (Nat.lt_succ_self _) ?_)
    (drops_leadingDashes _) (fun dashes => .bind drops_next? fun _ => .ite
      (.bind drops_step.weaken fun _ => .pure _) (.pure _)) fun dashes _ _ => ?_)
  · rw [Scanner.followed_rest, List.length_append]
    exact Nat.lt_succ_self _
  · refine .next closing (fun c rest here => .ite ?_ (.pure _)) ?_
      fun _ => .ite_of (fun closed => nomatch closed.2) fun _ => .pure _
    · exact .bind closing (agrees_step closing (rest_ne_nil here)) drops_step.weaken
        (fun _ => .pure _) fun _ _ _ => .pure _
    · rw [if_neg (fun closed => nomatch closed.2), if_neg (fun closed => nomatch closed.2)]

theorem agrees_classOpening (closing : Closing tail) (positive : 0 < slack)
    (more : scanner.rest ≠ []) : Agrees tail slack classOpening classOpening scanner := by
  rw [classOpening_eq]
  refine .bind closing (agrees_step closing more) drops_step.weaken (fun _ => .bind drops_next?
      fun _ => .ite (.bind drops_step.weaken fun _ => drops_classStart _) (drops_classStart _))
    fun _ _ _ => .next closing (fun c rest here => .ite ?_ (agrees_classStart closing _ positive))
      rfl fun _ => agrees_classStart closing _ positive
  exact .bind closing (agrees_step closing (rest_ne_nil here)) drops_step.weaken
    (fun _ => drops_classStart _) fun _ _ _ => agrees_classStart closing _ positive

theorem agrees_closeClass (isNegated : Bool) (inner : ClassPart) :
    Agrees tail slack (closeClass isNegated inner) (closeClass isNegated inner) scanner := by
  refine .mode (.ite ?_ (.pure _))
  split
  · exact .pure _
  · exact .failure

/-- The operation that a doubled character at the start of a text writes. -/
def operationAhead? (text : List Char) : Option SetOperation :=
  match text with
  | c :: d :: _ => if d = c then SetOperation.ofChar? c else none
  | _ => none

theorem operationAhead?_tail (closing : Closing tail) (more : text ≠ []) :
    operationAhead? (text ++ tail) = operationAhead? text := by
  obtain ⟨extra, rfl, -⟩ := closing
  rcases text with _ | ⟨c, _ | ⟨d, rest⟩⟩
  · exact absurd rfl more
  · show (if ')' = c then SetOperation.ofChar? c else none) = none
    split
    · rename_i same
      rw [← same]
      rfl
    · rfl
  · rfl

theorem operationOr_run (operate : SetOperation → Scan α) (otherwise : Scan α)
    (here : scanner.rest = c :: rest) : (operationOr operate otherwise c).run scanner =
      ((operationAhead? scanner.rest).elim otherwise operate).run scanner := by
  obtain ⟨text, mode, names⟩ := scanner
  obtain rfl : text = c :: rest := here
  have looked (second : Option Char) (same : rest.head? = second) :
      (operationOr operate otherwise c).run ⟨c :: rest, mode, names⟩ =
        (operateOr operate otherwise (SetOperation.ofChar? c) (second == some c)).run
          ⟨c :: rest, mode, names⟩ := by
    subst same
    cases rest <;> rfl
  cases rest with
  | nil =>
    rw [looked none rfl]
    cases SetOperation.ofChar? c <;> rfl
  | cons d rest =>
    rw [looked (some d) rfl]
    by_cases doubled : d = c
    · subst doubled
      rw [beq_self_eq_true, operationAhead?, if_pos rfl]
      cases SetOperation.ofChar? d <;> rfl
    · rw [beq_eq_false_iff_ne.mpr (mt Option.some.inj doubled), operationAhead?, if_neg doubled]
      cases SetOperation.ofChar? c <;> rfl

theorem agrees_operationOr (closing : Closing tail) {operate operate' : SetOperation → Scan α}
    {otherwise otherwise' : Scan α} (here : scanner.rest = c :: rest)
    (agrees : ∀ operation, operationAhead? scanner.rest = some operation →
      Agrees tail slack (operate operation) (operate' operation) scanner)
    (also : Agrees tail slack otherwise otherwise' scanner) :
    Agrees tail slack (operationOr operate otherwise c) (operationOr operate' otherwise' c)
      scanner := by
  have more := rest_ne_nil here
  have alsoHere : (scanner.followed tail).rest = c :: (rest ++ tail) := by
    rw [Scanner.followed_rest, here, List.cons_append]
  have among := operationOr_run operate' otherwise' alsoHere
  rw [Scanner.followed_rest, operationAhead?_tail closing more] at among
  refine .of_run (operationOr_run operate otherwise here) among List.suffix_rfl ?_
    fun ended => absurd ended more
  cases ahead : operationAhead? scanner.rest with
  | none => exact also
  | some operation => exact agrees operation ahead

theorem two_le_of_operationAhead? (ahead : operationAhead? text = some operation) :
    2 ≤ text.length := by
  rcases text with _ | ⟨c, _ | ⟨d, rest⟩⟩
  · cases ahead
  · cases ahead
  · exact Nat.le_add_left 2 rest.length

/-- With so much fuel, the parts of a class are read alike from wherever less text than that is
left. -/
def PartsAlikeWithin (tail : List Char) (slack fuel fuel' : Nat) : Prop :=
  ∀ left parts scanner, scanner.rest.length < fuel → scanner.rest.length + tail.length < fuel' →
    Agrees tail slack (classParts fuel left parts) (classParts fuel' left parts) scanner

namespace PartsAlikeWithin

variable {fuel fuel' : Nat} (alike : PartsAlikeWithin tail slack fuel fuel')
  (closing : Closing tail)
include alike closing

theorem behindClassOpening (enough : scanner.rest.length < fuel)
    (enough' : scanner.rest.length + tail.length < fuel')
    (left : Option (SetOperation × ClassPart)) (parts : List ClassPart)
    (opened : Bool × List ClassPart) :
    Agrees tail slack (Scan.behindClassOpening fuel left parts opened)
      (Scan.behindClassOpening fuel' left parts opened) scanner := by
  refine .bind closing (alike _ _ _ enough enough') (drops_classParts _ _ _).weaken
    (fun _ => .bind (drops_closeClass _ _) fun _ => (drops_classParts _ _ _).weaken)
    fun inner behind closed => ?_
  have fewer := length_le_of_drops (drops_classParts _ _ _) closed
  refine .bind closing (agrees_closeClass _ _) (drops_closeClass _ _)
    (fun _ => (drops_classParts _ _ _).weaken) fun nested last run => ?_
  have same := length_le_of_drops (drops_closeClass _ _) run
  exact alike _ _ _ (by omega) (by omega)

/-- A class in the class may be known by name, and then ends with the name. -/
theorem behindBracket (more : scanner.rest ≠ []) (enough : scanner.rest.length ≤ fuel)
    (enough' : scanner.rest.length + tail.length ≤ fuel')
    (left : Option (SetOperation × ClassPart)) (parts : List ClassPart) {named : Option CharSet}
    {last : Scanner} (run : asciiClass?.run scanner = some (named, last)) :
    Agrees tail slack (Scan.behindBracket fuel left parts named)
      (Scan.behindBracket fuel' left parts named) last := by
  rcases asciiClass?_run run with ⟨rfl, rfl⟩ | ⟨given, suffix⟩
  · refine .bind_dropping 1 closing.length_pos
      (agrees_classOpening closing (Nat.succ_pos slack) more) drops_classOpening.weaken
      (drops_behindClassOpening (drops_classParts fuel')) fun opened inside opening => ?_
    have shorter := length_lt_of_drops drops_classOpening opening more
    exact alike.behindClassOpening closing (by omega) (by omega) _ _ _
  · obtain ⟨set, rfl⟩ := Option.ne_none_iff_exists'.mp given
    have shorter := suffix.length_le
    have positive := List.length_pos_iff.mpr more
    rw [List.length_drop] at shorter
    exact alike _ _ _ (by omega) (by omega)

/-- Parts are read alike from the character on that begins the first of them. -/
theorem classPartsAt {rest : List Char} (here : scanner.rest = c :: rest)
    (enough : scanner.rest.length ≤ fuel) (enough' : scanner.rest.length + tail.length ≤ fuel')
    (mode : PatternMode) (left : Option (SetOperation × ClassPart)) (parts : List ClassPart) :
    Agrees tail slack (Scan.classPartsAt fuel mode left parts c)
      (Scan.classPartsAt fuel' mode left parts c) scanner := by
  have more := rest_ne_nil here
  by_cases opens : c = '['
  · subst opens
    rw [classPartsAt_bracket, classPartsAt_bracket]
    exact .bind closing (agrees_asciiClass? closing more) drops_asciiClass?
      (fun named => (drops_behindBracket (drops_classParts fuel') named).weaken)
      fun named last run => alike.behindBracket closing more enough enough' _ _ run
  unfold Scan.classPartsAt
  split
  · exact .bind closing (agrees_skip (List.length_pos_iff.mpr more)) (drops_skip 1).weaken
      (fun _ => .pure _) fun _ _ _ => .pure _
  · exact absurd rfl opens
  · refine agrees_operationOr closing here (fun operation ahead => ?_) ?_
    · refine .bind closing (agrees_skip (two_le_of_operationAhead? ahead)) (drops_skip 2).weaken
        (fun _ => (drops_classParts _ _ _).weaken) fun _ last run => ?_
      have shorter := length_lt_of_drops (drops_skip 2) run more
      exact alike _ _ _ (by omega) (by omega)
    · refine .bind_dropping 1 closing.length_pos (agrees_classSpan closing (Nat.succ_pos slack))
        drops_classSpan.weaken (fun _ => drops_classParts _ _ _) fun _ last run => ?_
      have shorter := length_lt_of_drops drops_classSpan run more
      exact alike _ _ _ (by omega) (by omega)

end PartsAlikeWithin

/-- The parts of a class are read alike on their own and in a group. -/
theorem partsAlikeWithin (closing : Closing tail) (fuel fuel' : Nat) :
    PartsAlikeWithin tail slack fuel fuel' := by
  induction fuel generalizing fuel' with
  | zero => exact fun _ _ _ enough => absurd enough (Nat.not_lt_zero _)
  | succ fuel ih =>
    intro left parts scanner enough enough'
    obtain ⟨fuel', rfl⟩ := Nat.exists_eq_add_one_of_ne_zero (Nat.ne_zero_of_lt enough')
    rw [classParts_succ, classParts_succ]
    have goes (mode : PatternMode) : ∀ c, Drops 1 (classPartsAt fuel' mode left parts c) :=
      drops_classPartsAt (drops_classParts fuel')
    refine .bind closing (agrees_skipBlanks closing) drops_skipBlanks (fun _ => .bind drops_mode
      fun mode => .bind drops_next? fun next => ?_) fun _ first blanks => .mode (.next_needed 1
        closing (fun c rest here => ?_) rfl rfl (goes _ ')') (Nat.le_add_left 1 slack))
    · split
      · exact .failure
      · exact (goes mode _).weaken
    · have fewer := length_le_of_drops drops_skipBlanks blanks
      exact (ih fuel').classPartsAt closing here (by omega) (by omega) _ _ _

theorem agrees_bracketed (closing : Closing tail) (more : scanner.rest ≠ []) :
    Agrees tail slack bracketed bracketed scanner := by
  refine .get (.bind_dropping 1 closing.length_pos
    (agrees_classOpening closing (Nat.succ_pos slack) more) drops_classOpening.weaken
    (fun _ => .bind (drops_classParts _ _ _) fun _ => drops_closeClass _ _)
    fun opened inside run => ?_)
  have shorter := length_lt_of_drops drops_classOpening run more
  refine .bind closing (partsAlikeWithin closing _ _ _ _ _ (by omega) ?_)
    (drops_classParts _ _ _).weaken (fun _ => drops_closeClass _ _)
    fun _ _ _ => agrees_closeClass _ _
  rw [Scanner.followed_rest, List.length_append]
  omega

end DebugOutline.Scan
