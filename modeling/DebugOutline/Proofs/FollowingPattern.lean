import DebugOutline.Proofs.FollowingClasses

/-! Whole patterns are read alike on their own and in front of a closing parenthesis. -/
namespace DebugOutline.Scan

variable {tail : List Char} {slack : Nat} {scanner : Scanner}

/-! ### Groups -/

/-- A word without a closing parenthesis does not go on into what follows. -/
theorem isPrefixOf_tail (closing : Closing tail) {word : List Char} (plain : ')' ∉ word)
    (text : List Char) : word.isPrefixOf (text ++ tail) = word.isPrefixOf text := by
  induction word generalizing text with
  | nil => rfl
  | cons c word ih =>
    rw [List.mem_cons, not_or] at plain
    cases text with
    | nil =>
      obtain ⟨extra, rfl, -⟩ := closing
      have other : (c == ')') = false := beq_eq_false_iff_ne.mpr (Ne.symm plain.1)
      rw [List.nil_append, List.isPrefixOf_cons_cons, other]
      rfl
    | cons d text =>
      rw [List.cons_append, List.isPrefixOf_cons_cons, List.isPrefixOf_cons_cons, ih plain.2]

theorem agrees_skipWord (closing : Closing tail) {word : String} (plain : ')' ∉ word.toList) :
    Agrees tail slack (skipWord word) (skipWord word) scanner := by
  refine .get ?_
  rw [Scanner.followed_rest, isPrefixOf_tail closing plain]
  refine .ite_of (fun begins => ?_) fun _ => .pure _
  have fits : word.length ≤ scanner.rest.length := (List.isPrefixOf_iff_prefix.mp begins).length_le
  exact .bind closing (agrees_skip fits) (drops_skip _).weaken (fun _ => .pure _)
    fun _ _ _ => .pure _

theorem agrees_flags (closing : Closing tail) {fuel fuel' : Nat} {before : List Char}
    {mode : PatternMode} (positive : 0 < slack) (enough : scanner.rest.length < fuel)
    (enough' : scanner.rest.length + tail.length < fuel') :
    Agrees tail slack (flags fuel before mode) (flags fuel' before mode) scanner := by
  induction fuel generalizing fuel' before mode scanner with
  | zero => exact absurd enough (Nat.not_lt_zero _)
  | succ fuel ih =>
    obtain ⟨fuel', rfl⟩ := Nat.exists_eq_add_one_of_ne_zero (Nat.ne_zero_of_lt enough')
    refine .next_needed 0 closing (fun c rest here => ?_) rfl rfl ?_ positive
    · have more := rest_ne_nil here
      refine .ite (.ite .failure (.pure _)) (.ite .failure ?_)
      refine .bind closing (agrees_skip (List.length_pos_iff.mpr more)) (drops_skip 1).weaken
        (fun _ => ?_) fun _ middle run => ?_
      · split
        · exact drops_flags _ _ _
        · dsimp only
          split
          · exact drops_flags _ _ _
          · exact .failure
      · have shorter := length_lt_of_drops (drops_skip 1) run more
        split
        · exact ih (by omega) (by omega)
        · dsimp only
          split
          · exact ih (by omega) (by omega)
          · exact .failure
    · dsimp only
      rw [if_pos (.inr rfl)]
      exact .ite .failure (.pure _)

/-- The character that ends flags stays. -/
theorem rest_flags {fuel : Nat} {before : List Char} {inner : PatternMode}
    (run : (flags fuel before inner).run scanner = some (value, after)) : after.rest ≠ [] := by
  induction fuel generalizing scanner before inner with
  | zero => cases run
  | succ fuel ih =>
    rw [flags, StateT.run_bind, next?_run] at run
    obtain ⟨⟨_, _⟩, ⟨⟩, run⟩ := Option.bind_eq_some_iff.mp run
    split at run
    · cases run
    · rename_i c here
      split at run
      · split at run
        · cases run
        · cases run
          intro none
          rw [none] at here
          cases here
      · split at run
        · cases run
        · rw [StateT.run_bind] at run
          obtain ⟨⟨_, _⟩, -, run⟩ := Option.bind_eq_some_iff.mp run
          split at run
          · exact ih run
          · dsimp only at run
            split at run
            · exact ih run
            · cases run

/-- The bracket behind the name of a group, which may not be among the names before it. -/
def groupNameEnd (name : List Char) (before : List (List Char)) : Scan Unit := do
  expect '>'
  let isName := name.head?.any isNameStart && (name.drop 1).all isNamePart
  if !isName || before.contains name then failure

theorem drop_takeWhile (test : Char → Bool) (text : List Char) :
    text.drop (text.takeWhile test).length = text.dropWhile test :=
  calc text.drop (text.takeWhile test).length
    _ = (text.takeWhile test ++ text.dropWhile test).drop (text.takeWhile test).length := by
      rw [List.takeWhile_append_dropWhile]
    _ = text.dropWhile test := List.drop_left

theorem groupName_run (scanner : Scanner) : groupName.run scanner =
    (groupNameEnd (scanner.rest.takeWhile (· != '>')) scanner.groupNames).run
      { scanner with
        rest := scanner.rest.dropWhile (· != '>')
        groupNames := scanner.rest.takeWhile (· != '>') :: scanner.groupNames } := by
  rw [← drop_takeWhile]
  rfl

theorem agrees_groupName (closing : Closing tail) :
    Agrees tail slack groupName groupName scanner := by
  have among := groupName_run (scanner.followed tail)
  rw [Scanner.followed_rest] at among
  by_cases none : scanner.rest.dropWhile (· != '>') = []
  · have noBracket : tail.dropWhile (· != '>') = [] := by
      rw [List.dropWhile_eq_nil_iff]
      intro c member
      exact bne_iff_ne.mpr fun same => closing.not_mem (by decide) (by decide) (same ▸ member)
    rw [List.dropWhile_append, none, List.isEmpty_nil, if_pos rfl, noBracket] at among
    refine .of_none ?_ (among.trans rfl) fun _ => rfl
    rw [groupName_run, none]
    rfl
  · rw [List.dropWhile_append, if_neg (mt List.isEmpty_iff.mp none), takeWhile_tail none] at among
    refine .of_run (groupName_run scanner) among (List.dropWhile_suffix _) ?_ fun _ => rfl
    exact .bind closing (agrees_expect closing _) (drops_expect _).weaken
      (fun _ => .ite .failure (.pure _)) fun _ _ _ => .ite .failure (.pure _)

theorem agrees_flaggedOpening (closing : Closing tail) (more : scanner.rest ≠ [])
    (letters : List Char) (inner : PatternMode) : Agrees tail slack (flaggedOpening letters inner)
      (flaggedOpening letters inner) scanner := by
  have skips : Agrees tail slack (skip 1) (skip 1) scanner :=
    agrees_skip (List.length_pos_iff.mpr more)
  refine .next_of_more more fun c rest here => .ite ?_ ?_
  · exact .bind closing skips (drops_skip 1).weaken (fun _ => .ite .failure (.pure _))
      fun _ _ _ => .ite .failure (.pure _)
  · exact .bind closing skips (drops_skip 1).weaken (fun _ => .pure _) fun _ _ _ => .pure _

theorem looksAround_tail (closing : Closing tail) (text : List Char) :
    looksAround (text ++ tail) = looksAround text := by
  simp only [looksAround, List.any_cons, List.any_nil]
  rw [isPrefixOf_tail closing (by decide), isPrefixOf_tail closing (by decide),
    isPrefixOf_tail closing (by decide), isPrefixOf_tail closing (by decide)]

theorem agrees_groupMark (closing : Closing tail) :
    Agrees tail slack groupMark groupMark scanner := by
  refine .bind closing (agrees_skipWord closing (by decide)) (drops_skipWord _) (fun named => ?_)
    fun named _ _ => ?_
  · split
    · exact .pure _
    · exact drops_skipWord _
  · split
    · exact .pure _
    · exact agrees_skipWord closing (by decide)

theorem agrees_openingBehind (closing : Closing tail) (mode : PatternMode) :
    Agrees tail slack (openingBehind mode) (openingBehind mode) scanner := by
  have goesOn : Drops 0 (get >>= fun scanner : Scanner => flags (scanner.rest.length + 1) [] mode
      >>= fun read => flaggedOpening read.1 read.2) :=
    .bind .get fun _ => .bind (drops_flags _ _ _) fun _ => (drops_flaggedOpening _ _).weaken
  refine .bind closing (agrees_groupMark closing) drops_groupMark
    (fun _ => .ite (.bind drops_groupName fun _ => .pure _)
      (.bind (drops_skipWord _) fun _ => .ite goesOn (.pure _))) fun named _ _ => .ite ?_ ?_
  · exact .bind closing (agrees_groupName closing) drops_groupName (fun _ => .pure _)
      fun _ _ _ => .pure _
  · refine .bind closing (agrees_skipWord closing (by decide)) (drops_skipWord _)
      (fun _ => .ite goesOn (.pure _)) fun special middle _ => .ite (.get ?_) (.pure _)
    refine .bind_dropping 1 closing.length_pos
      (agrees_flags closing (Nat.succ_pos slack) (Nat.lt_succ_self _) ?_) (drops_flags _ _ _)
      (fun _ => drops_flaggedOpening _ _) fun read last run =>
        agrees_flaggedOpening closing (rest_flags run) _ _
    rw [Scanner.followed_rest, List.length_append]
    exact Nat.lt_succ_self _

theorem agrees_opening (closing : Closing tail) (more : scanner.rest ≠ []) :
    Agrees tail slack opening opening scanner := by
  rw [opening_eq]
  refine .bind closing (agrees_step closing more) drops_step.weaken (fun _ => .bind drops_mode
    fun mode => .bind .get fun scanner => .ite .failure (drops_openingBehind mode))
    fun _ middle _ => .mode (.get ?_)
  rw [Scanner.followed_rest, looksAround_tail closing]
  exact .ite .failure (agrees_openingBehind closing _)

/-! ### Repetitions -/

theorem agrees_skipLazyMark (closing : Closing tail) :
    Agrees tail slack skipLazyMark skipLazyMark scanner :=
  .next closing (fun _ _ here => .ite (agrees_skip (List.length_pos_iff.mpr (rest_ne_nil here)))
    (.pure _)) rfl fun _ => .pure _

theorem agrees_keepCounts (closing : Closing tail) (least : Nat) (most : Option Nat) :
    Agrees tail slack (keepCounts least most) (keepCounts least most) scanner := by
  refine .next closing (fun c rest here => .ite .failure ?_) rfl fun _ => .failure
  refine .bind closing (agrees_step closing (rest_ne_nil here)) drops_step.weaken
    (fun _ => .bind drops_skipLazyMark fun _ => .ite .failure (.pure _)) fun _ _ _ => ?_
  exact .bind closing (agrees_skipLazyMark closing) drops_skipLazyMark
    (fun _ => .ite .failure (.pure _)) fun _ _ _ => .ite .failure (.pure _)

theorem agrees_counts (closing : Closing tail) (more : scanner.rest ≠ []) :
    Agrees tail slack counts counts scanner := by
  have goesOn (least : Nat) : Drops 0 (step >>= fun _ => next? >>= fun next =>
      if next = some '\x7d' then keepCounts least none
      else (some <$> count) >>= keepCounts least) :=
    .bind drops_step.weaken fun _ => .bind drops_next? fun _ => .ite (drops_keepCounts _ _)
      (.bind (drops_count.map some) fun _ => drops_keepCounts _ _)
  rw [counts_eq]
  refine .bind closing (agrees_step closing more) drops_step.weaken
    (fun _ => .bind drops_count fun _ => .bind drops_next? fun _ => .ite (goesOn _)
      (drops_keepCounts _ _)) fun _ _ _ => ?_
  refine .bind closing (agrees_count closing) drops_count
    (fun _ => .bind drops_next? fun _ => .ite (goesOn _) (drops_keepCounts _ _))
    fun least _ _ => ?_
  refine .next closing (fun c rest here => .ite ?_ (agrees_keepCounts closing _ _)) rfl
    fun _ => agrees_keepCounts closing _ _
  refine .bind closing (agrees_step closing (rest_ne_nil here)) drops_step.weaken
    (fun _ => .bind drops_next? fun _ => .ite (drops_keepCounts _ _)
      (.bind (drops_count.map some) fun _ => drops_keepCounts _ _)) fun _ _ _ => ?_
  have counted (scanner : Scanner) : Agrees tail slack ((some <$> count) >>= keepCounts least)
      ((some <$> count) >>= keepCounts least) scanner :=
    .bind closing (.map closing (agrees_count closing) drops_count some) (drops_count.map some)
      (fun _ => drops_keepCounts _ _) fun _ _ _ => agrees_keepCounts closing _ _
  exact .next closing (fun c rest here => .ite (agrees_keepCounts closing _ _) (counted _)) rfl
    fun _ => counted _

theorem agrees_repetition? (closing : Closing tail) :
    Agrees tail slack repetition? repetition? scanner := by
  refine .next closing (fun c rest here => ?_) rfl fun _ => .pure _
  have more := rest_ne_nil here
  have plain (least : Nat) (most : Option Nat) : Agrees tail slack
      (skip 1 >>= fun _ => skipLazyMark >>= fun _ => pure (some (least, most)))
      (skip 1 >>= fun _ => skipLazyMark >>= fun _ => pure (some (least, most))) scanner :=
    .bind closing (agrees_skip (List.length_pos_iff.mpr more)) (drops_skip 1).weaken
      (fun _ => .bind drops_skipLazyMark fun _ => .pure _) fun _ _ _ =>
        .bind closing (agrees_skipLazyMark closing) drops_skipLazyMark (fun _ => .pure _)
          fun _ _ _ => .pure _
  split
  iterate 3 exact plain _ _
  · exact .map closing (agrees_counts closing more) drops_counts.weaken _
  · exact .pure _

/-! ### Pieces -/

theorem agrees_simplePiece (closing : Closing tail) (notLast : ¬ BoundaryLast scanner) :
    Agrees tail slack simplePiece simplePiece scanner := by
  refine .mode (.next_needed 1 closing (fun c rest here => ?_) rfl rfl
    (.bind (drops_skip 1) fun _ => .pure _) (Nat.le_add_left 1 slack))
  have more := rest_ne_nil here
  split
  · exact .failure
  · rename_i found
    cases found
    refine .bind closing (agrees_escape closing here notLast) drops_escape.weaken (fun item => ?_)
      fun item _ _ => ?_
    · cases item <;> exact .pure _
    · cases item <;> exact .pure _
  · refine .bind closing (agrees_skip (List.length_pos_iff.mpr more)) (drops_skip 1).weaken
      (fun _ => ?_) fun _ _ _ => ?_
    · split
      · split
        · exact .pure _
        · exact .failure
      iterate 3 exact .pure _
    · split
      · split
        · exact .pure _
        · exact .failure
      iterate 3 exact .pure _

/-- The piece for what a backslash introduces. -/
def escapedPiece (mode : PatternMode) : PatternItem → Piece
  | .literal c => ⟨mode.literal c, 0, true⟩
  | .set set => ⟨.chars set, 0, true⟩
  | .look condition => ⟨mode.look condition, 0, true⟩

theorem simplePiece_run (here : scanner.rest = '\\' :: behind) : simplePiece.run scanner =
    (do return escapedPiece scanner.mode (← escape) : Scan Piece).run scanner := by
  have moded : mode.run scanner = some (scanner.mode, scanner) := rfl
  simp only [simplePiece, StateT.run_bind, moded, next?_run, here, List.head?_cons,
    Option.bind_eq_bind, Option.bind_some]
  congr 1
  funext ⟨item, after⟩
  cases item <;> rfl

theorem simplePiece_last (closing : Closing tail) (last : BoundaryLast scanner) :
    simplePiece.run scanner = none ∧ ∃ rest, BraceLast { scanner with rest } ∧
      (simplePiece.run (scanner.followed tail) = none ∨ ∃ piece,
        simplePiece.run (scanner.followed tail) =
          some (piece, { scanner with rest }.followed tail)) := by
  obtain ⟨alone, rest, braceLast, among⟩ := escape_last closing last
  obtain ⟨behind, here, -⟩ := last
  have alsoHere : (scanner.followed tail).rest = '\\' :: ('b' :: behind ++ tail) := by
    rw [Scanner.followed_rest, here, List.cons_append]
  rw [simplePiece_run here, simplePiece_run alsoHere, StateT.run_bind, StateT.run_bind, alone]
  refine ⟨rfl, rest, braceLast, ?_⟩
  rcases among with none | kept
  · exact .inl (by rw [none]; rfl)
  · exact .inr ⟨_, by rw [kept]; rfl⟩

/-- No number comes before a closing parenthesis. -/
theorem count_none (ended : scanner.rest.head? = none ∨ scanner.rest.head? = some ')') :
    count.run scanner = none := by
  obtain ⟨text, mode, names⟩ := scanner
  rcases text with _ | ⟨c, text⟩
  · rfl
  · rcases ended with ended | ended
    · cases ended
    · cases ended
      rfl

theorem counts_last (closing : Closing tail) (last : BraceLast scanner) :
    counts.run (scanner.followed tail) = none := by
  obtain ⟨after, stepped, ended⟩ := step_last closing last
  rw [counts_eq, StateT.run_bind, stepped]
  simp only [Option.bind_eq_bind, Option.bind_some, StateT.run_bind, count_none ended,
    Option.bind_none]

/-- The brace behind such a boundary then begins no counts either. -/
theorem alternatives_last (closing : Closing tail) (last : BraceLast scanner) (fuel : Nat)
    (choices pieces : List Piece) :
    (alternatives fuel choices pieces).run (scanner.followed tail) = none := by
  have brace : (scanner.followed tail).rest.head? = some '\x7b' := brace_followed last.1
  have repeated : repetition?.run (scanner.followed tail) = none := by
    simp only [repetition?, StateT.run_bind, next?_run, brace, Option.bind_eq_bind,
      Option.bind_some, counts_last closing last, Option.bind_none]
  cases fuel with
  | zero => rfl
  | succ fuel =>
    simp only [alternatives_succ, StateT.run_bind, skipBlanks_brace brace, next?_run, brace,
      Option.bind_eq_bind, Option.bind_some]
    change (repetition? >>= _).run _ = none
    rw [StateT.run_bind, repeated]
    rfl

theorem agrees_simplePieces (closing : Closing tail) {fuel fuel' : Nat}
    {choices pieces : List Piece} (more : scanner.rest ≠ [])
    (later : ∀ piece middle, simplePiece.run scanner = some (piece, middle) →
      Agrees tail slack (alternatives fuel choices (piece :: pieces))
        (alternatives fuel' choices (piece :: pieces)) middle) :
    Agrees tail slack (simplePiece >>= fun piece => alternatives fuel choices (piece :: pieces))
      (simplePiece >>= fun piece => alternatives fuel' choices (piece :: pieces)) scanner := by
  by_cases last : BoundaryLast scanner
  · -- What is cut off alone is a boundary in front of the rest; the brace then begins no counts.
    obtain ⟨alone, rest, braceLast, among⟩ := simplePiece_last closing last
    refine .of_none ?_ ?_ fun ended => absurd ended more
    · rw [StateT.run_bind, alone]
      rfl
    · rw [StateT.run_bind]
      rcases among with none | ⟨piece, kept⟩
      · rw [none]
        rfl
      · rw [kept]
        exact alternatives_last closing braceLast _ _ _
  · exact .bind closing (agrees_simplePiece closing last) drops_simplePiece.weaken
      (fun _ => drops_alternatives _ _ _) later

/-- With so much fuel, alternatives are read alike from wherever less text than that is left. -/
def AlikeWithin (tail : List Char) (slack fuel fuel' : Nat) : Prop :=
  ∀ choices pieces scanner, scanner.rest.length < fuel →
    scanner.rest.length + tail.length < fuel' →
    Agrees tail slack (alternatives fuel choices pieces) (alternatives fuel' choices pieces) scanner

namespace AlikeWithin

variable {fuel fuel' : Nat} (alike : AlikeWithin tail slack fuel fuel') (closing : Closing tail)
include alike closing

/-- A piece goes over a character at least, so there is fuel for what is behind it. -/
theorem behind {first : Scan α} (goes : Drops 1 first) (more : scanner.rest ≠ [])
    (enough : scanner.rest.length ≤ fuel) (enough' : scanner.rest.length + tail.length ≤ fuel')
    (agrees : Agrees tail slack first first scanner) (choices pieces : α → List Piece) :
    Agrees tail slack (do let value ← first; alternatives fuel (choices value) (pieces value))
      (do let value ← first; alternatives fuel' (choices value) (pieces value)) scanner := by
  refine .bind closing agrees goes.weaken (fun _ => drops_alternatives _ _ _) fun _ last run => ?_
  have shorter := length_lt_of_drops goes run more
  exact alike _ _ _ (by omega) (by omega)

/-- The same behind a change of mode, which goes over nothing. -/
theorem behindMode (enough : scanner.rest.length < fuel)
    (enough' : scanner.rest.length + tail.length < fuel') (mode : PatternMode)
    (choices pieces : List Piece) :
    Agrees tail slack (do setMode mode; alternatives fuel choices pieces)
      (do setMode mode; alternatives fuel' choices pieces) scanner := by
  refine .bind closing (agrees_setMode mode) (drops_setMode mode)
    (fun _ => drops_alternatives _ _ _) fun _ last run => ?_
  have same := length_le_of_drops (drops_setMode mode) run
  exact alike _ _ _ (by omega) (by omega)

theorem behindGroup (enough : scanner.rest.length < fuel)
    (enough' : scanner.rest.length + tail.length < fuel') (choices pieces : List Piece)
    (outer : PatternMode) (isKept : Bool) (inner : Piece) :
    Agrees tail slack (Scan.behindGroup fuel choices pieces outer isKept inner)
      (Scan.behindGroup fuel' choices pieces outer isKept inner) scanner := by
  refine .bind closing (agrees_expect closing ')') (drops_expect ')').weaken
    (fun _ => .bind (drops_setMode _) fun _ => drops_alternatives _ _ _) fun _ last run => ?_
  have shorter := length_le_of_drops (drops_expect ')') run
  exact alike.behindMode closing (by omega) (by omega) _ _ _

/-- The mode of a group is in force inside it, that of flags up to the end. -/
theorem behindOpening (enough : scanner.rest.length < fuel)
    (enough' : scanner.rest.length + tail.length < fuel') (choices pieces : List Piece)
    (outer : PatternMode) (opened : Opening) :
    Agrees tail slack (Scan.behindOpening fuel choices pieces outer opened)
      (Scan.behindOpening fuel' choices pieces outer opened) scanner := by
  cases opened with
  | flags mode => exact alike.behindMode closing enough enough' _ _ _
  | group isKept mode =>
    have goesOn (inner : Piece) :
        Drops 0 (Scan.behindGroup fuel' choices pieces outer isKept inner) :=
      drops_behindGroup (drops_alternatives fuel') outer isKept inner
    refine .bind closing (agrees_setMode mode) (drops_setMode mode)
      (fun _ => .bind (drops_alternatives _ _ _) goesOn) fun _ inside run => ?_
    have same := length_le_of_drops (drops_setMode mode) run
    refine .bind closing (alike _ _ _ (by omega) (by omega)) (drops_alternatives _ _ _) goesOn
      fun inner ended run => ?_
    have fewer := length_le_of_drops (drops_alternatives _ _ _) run
    exact alike.behindGroup closing (by omega) (by omega) _ _ _ _ _

/-- A piece that no other character announces, or what repeats the one before it. -/
theorem behindRepetition (more : scanner.rest ≠ []) (enough : scanner.rest.length ≤ fuel)
    (enough' : scanner.rest.length + tail.length ≤ fuel') (choices pieces : List Piece)
    {repetition : Option (Nat × Option Nat)} {last : Scanner}
    (run : repetition?.run scanner = some (repetition, last)) :
    Agrees tail slack (Scan.behindRepetition fuel choices pieces repetition)
      (Scan.behindRepetition fuel' choices pieces repetition) last := by
  rcases repetition?_run run with ⟨rfl, rfl⟩ | ⟨given, suffix⟩
  · refine agrees_simplePieces closing more fun piece last run => ?_
    have shorter := length_lt_of_drops drops_simplePiece run more
    exact alike _ _ _ (by omega) (by omega)
  · have shorter := suffix.length_le
    have positive := List.length_pos_iff.mpr more
    rw [List.length_drop] at shorter
    obtain ⟨⟨least, most⟩, rfl⟩ := Option.ne_none_iff_exists'.mp given
    cases pieces with
    | nil => exact .failure
    | cons piece before => exact .ite (alike _ _ _ (by omega) (by omega)) .failure

/-- Pieces are read alike from the character on that begins the first of them. -/
theorem piecesAt (more : scanner.rest ≠ []) (enough : scanner.rest.length ≤ fuel)
    (enough' : scanner.rest.length + tail.length ≤ fuel') (choices pieces : List Piece) (c : Char) :
    Agrees tail slack (Scan.piecesAt fuel choices pieces c) (Scan.piecesAt fuel' choices pieces c)
      scanner := by
  by_cases opens : c = '('
  · subst opens
    rw [piecesAt_opening, piecesAt_opening]
    refine .mode (.bind closing (agrees_opening closing more) drops_opening.weaken
      (drops_behindOpening (drops_alternatives fuel') _) fun opened last run => ?_)
    have shorter := length_lt_of_drops drops_opening run more
    exact alike.behindOpening closing (by omega) (by omega) _ _ _ _
  unfold Scan.piecesAt
  split
  · exact .pure _
  · exact alike.behind closing (drops_skip 1) more enough enough'
      (agrees_skip (List.length_pos_iff.mpr more)) _ _
  · exact absurd rfl opens
  · exact alike.behind closing drops_bracketed more enough enough'
      (agrees_bracketed closing more) _ _
  · exact .bind closing (agrees_repetition? closing) drops_repetition?
      (drops_behindRepetition (drops_alternatives fuel'))
      fun repetition last run => alike.behindRepetition closing more enough enough' _ _ run

end AlikeWithin

/-- Alternatives are read alike on their own and in a group. The induction is on the fuel; there is
enough of it as each piece goes over a character at least. -/
theorem alikeWithin (closing : Closing tail) (fuel fuel' : Nat) :
    AlikeWithin tail slack fuel fuel' := by
  induction fuel generalizing fuel' with
  | zero => exact fun _ _ _ enough => absurd enough (Nat.not_lt_zero _)
  | succ fuel ih =>
    intro choices pieces scanner enough enough'
    obtain ⟨fuel', rfl⟩ := Nat.exists_eq_add_one_of_ne_zero (Nat.ne_zero_of_lt enough')
    rw [alternatives_succ, alternatives_succ]
    refine .bind closing (agrees_skipBlanks closing) drops_skipBlanks
      (fun _ => .bind drops_next? fun next => ?_)
      fun _ first blanks => .next closing (fun c rest here => ?_) rfl fun _ => .pure _
    · split
      · exact .pure _
      · exact drops_piecesAt (drops_alternatives fuel') _
    · have fewer := length_le_of_drops drops_skipBlanks blanks
      exact (ih fuel').piecesAt closing (rest_ne_nil here) (by omega) (by omega) _ _ c

end DebugOutline.Scan
