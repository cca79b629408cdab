import DebugOutline.Proofs.Scanning

/-! What stands behind a text does not change how the text is read, if it begins with a closing
parenthesis: the same is read and the parenthesis is left, unless a comment that is still open
takes in all that follows. -/
namespace DebugOutline

/-- What may follow a pattern that is put into a group: the end of the group, and of the text. -/
def Closing (tail : List Char) : Prop := ∃ extra, tail = ')' :: extra ∧ ∀ c ∈ extra, c = '$'

theorem Closing.length_pos (closing : Closing tail) : 0 < tail.length := by
  obtain ⟨extra, rfl, -⟩ := closing
  exact Nat.succ_pos _

theorem Closing.not_mem (closing : Closing tail) (other : c ≠ ')') (alsoOther : c ≠ '$') :
    c ∉ tail := by
  obtain ⟨extra, rfl, plain⟩ := closing
  rw [List.mem_cons, not_or]
  exact ⟨other, fun member => alsoOther (plain c member)⟩

/-- A comment that runs to the end of a text. -/
def EndsInComment (text : List Char) : Prop := ∃ comment, '#' :: comment <:+ text ∧ '\n' ∉ comment

theorem EndsInComment.of_suffix {part whole : List Char} (ends : EndsInComment part)
    (suffix : part <:+ whole) : EndsInComment whole := by
  obtain ⟨comment, opened, unended⟩ := ends
  exact ⟨comment, opened.trans suffix, unended⟩

/-- The scanner with more behind the text. -/
def Scanner.followed (scanner : Scanner) (tail : List Char) : Scanner :=
  { scanner with rest := scanner.rest ++ tail }

@[simp] theorem Scanner.followed_rest (scanner : Scanner) (tail : List Char) :
    (scanner.followed tail).rest = scanner.rest ++ tail := rfl

@[simp] theorem Scanner.followed_mode (scanner : Scanner) (tail : List Char) :
    (scanner.followed tail).mode = scanner.mode := rfl

/-- One step of reading is made on a text alone, the other one with more behind it, and both read the
same. -/
structure Agrees (tail : List Char) (slack : Nat) (alone among : Scan α) (scanner : Scanner) :
    Prop where
  /-- What is read alone is read in front of the rest too. The rest is left there, unless the text
  ends in a comment and the rest falls into it. -/
  forward : ∀ {value after}, alone.run scanner = some (value, after) →
    among.run (scanner.followed tail) = some (value, after.followed tail) ∨
      after.rest = [] ∧ EndsInComment scanner.rest ∧
        among.run (scanner.followed tail) = some (value, after)
  /-- What is read in front of the rest is read alone too, if the rest is left there, with `slack`
  characters of the text or more. -/
  backward : ∀ {value after}, among.run (scanner.followed tail) = some (value, after) →
    tail.length + slack ≤ after.rest.length →
      ∃ before : Scanner, after = before.followed tail ∧ alone.run scanner = some (value, before)
  /-- Behind a comment that took in the rest, both go on in the same way. -/
  atEnd : scanner.rest = [] → among.run scanner = alone.run scanner

namespace Agrees

open Scan (Drops next?)

variable {tail : List Char} {slack : Nat} {scanner : Scanner}

theorem pure (value : α) : Agrees tail slack (Pure.pure value) (Pure.pure value) scanner where
  forward run := by
    cases run
    exact .inl rfl
  backward run _ := by
    cases run
    exact ⟨scanner, rfl, rfl⟩
  atEnd _ := rfl

theorem failure : Agrees tail slack (failure : Scan α) failure scanner where
  forward run := by cases run
  backward run := by cases run
  atEnd _ := rfl

/-- Steps that both fail agree. -/
theorem of_none {alone among : Scan α} (refused : alone.run scanner = none)
    (alsoRefused : among.run (scanner.followed tail) = none)
    (atEnd : scanner.rest = [] → among.run scanner = alone.run scanner) :
    Agrees tail slack alone among scanner where
  forward run := by
    rw [refused] at run
    cases run
  backward run := by
    rw [alsoRefused] at run
    cases run
  atEnd := atEnd

theorem ite {condition : Prop} [Decidable condition] {first first' second second' : Scan α}
    (agrees : Agrees tail slack first first' scanner)
    (also : Agrees tail slack second second' scanner) :
    Agrees tail slack (if condition then first else second)
      (if condition then first' else second') scanner := by
  split
  · exact agrees
  · exact also

/-- The same where only one of the branches is taken. -/
theorem ite_of {condition : Prop} [Decidable condition] {first first' second second' : Scan α}
    (agrees : condition → Agrees tail slack first first' scanner)
    (also : ¬ condition → Agrees tail slack second second' scanner) :
    Agrees tail slack (if condition then first else second)
      (if condition then first' else second') scanner := by
  split
  · exact agrees ‹_›
  · exact also ‹_›

/-- Steps one after another agree. Of the characters that the next one goes over, the first one may
ask to be left. -/
theorem bind_dropping (count : Nat) {first first' : Scan α} {next next' : α → Scan β}
    (positive : 0 < tail.length)
    (agrees : Agrees tail (slack + count) first first' scanner) (goes : Drops 0 first)
    (goesOn : ∀ value, Drops count (next' value))
    (later : ∀ value middle, first.run scanner = some (value, middle) →
      Agrees tail slack (next value) (next' value) middle) :
    Agrees tail slack (first >>= next) (first' >>= next') scanner where
  forward run := by
    rw [StateT.run_bind] at run
    obtain ⟨⟨value, middle⟩, firstRun, nextRun⟩ := Option.bind_eq_some_iff.mp run
    have later := later value middle firstRun
    rcases agrees.forward firstRun with same | ⟨ended, comment, same⟩
    · -- The comment of the next step is one of the whole text.
      rcases later.forward nextRun with kept | ⟨ended, comment, gone⟩
      · exact .inl (by rw [StateT.run_bind, same]; exact kept)
      · refine .inr ⟨ended, comment.of_suffix (goes scanner value middle firstRun), ?_⟩
        rw [StateT.run_bind, same]
        exact gone
    · -- The first step took in the rest, so the next one starts at the end either way.
      have gone := later.atEnd ended
      rw [nextRun] at gone
      refine .inr ⟨?_, comment, by rw [StateT.run_bind, same]; exact gone⟩
      have none := (goesOn value).weaken middle _ _ gone
      rw [ended] at none
      exact List.suffix_nil.mp none
  backward run left := by
    rw [StateT.run_bind] at run
    obtain ⟨⟨value, middle⟩, firstRun, nextRun⟩ := Option.bind_eq_some_iff.mp run
    have shorter := (goesOn value middle _ _ nextRun).length_le
    rw [List.length_drop] at shorter
    obtain ⟨before, rfl, alone⟩ := agrees.backward firstRun (by omega)
    obtain ⟨last, rfl, rest⟩ := (later value before alone).backward nextRun left
    exact ⟨last, rfl, by rw [StateT.run_bind, alone]; exact rest⟩
  atEnd ended := by
    rw [StateT.run_bind, StateT.run_bind, agrees.atEnd ended]
    cases firstRun : first.run scanner with
    | none => rfl
    | some read =>
      obtain ⟨value, middle⟩ := read
      have none := goes scanner value middle firstRun
      rw [ended] at none
      exact (later value middle firstRun).atEnd (List.suffix_nil.mp none)

theorem bind {first first' : Scan α} {next next' : α → Scan β} (closing : Closing tail)
    (agrees : Agrees tail slack first first' scanner) (goes : Drops 0 first)
    (goesOn : ∀ value, Drops 0 (next' value))
    (later : ∀ value middle, first.run scanner = some (value, middle) →
      Agrees tail slack (next value) (next' value) middle) :
    Agrees tail slack (first >>= next) (first' >>= next') scanner :=
  bind_dropping 0 closing.length_pos agrees goes goesOn later

theorem map {first first' : Scan α} (closing : Closing tail)
    (agrees : Agrees tail slack first first' scanner) (goes : Drops 0 first) (change : α → β) :
    Agrees tail slack (do return change (← first)) (do return change (← first')) scanner :=
  .bind closing agrees goes (fun _ => .pure _) fun _ _ _ => .pure _

/-- A look at the next character agrees if what is done about it does. -/
theorem next_of_more {look look' : Option Char → Scan α} (more : scanner.rest ≠ [])
    (here : ∀ c rest, scanner.rest = c :: rest →
      Agrees tail slack (look (some c)) (look' (some c)) scanner) :
    Agrees tail slack (next? >>= look) (next? >>= look') scanner := by
  obtain ⟨rest, mode, names⟩ := scanner
  obtain ⟨c, rest, rfl⟩ := List.exists_cons_of_ne_nil more
  obtain ⟨forward, backward, -⟩ := here c rest rfl
  exact ⟨forward, backward, fun ended => absurd ended more⟩

/-- At the end of a text, where the closing parenthesis comes next instead, it is enough to treat
the two alike. -/
theorem next {look look' : Option Char → Scan α} (closing : Closing tail)
    (here : ∀ c rest, scanner.rest = c :: rest →
      Agrees tail slack (look (some c)) (look' (some c)) scanner)
    (same : look' (some ')') = look' none)
    (ended : scanner.rest = [] → Agrees tail slack (look none) (look' none) scanner) :
    Agrees tail slack (next? >>= look) (next? >>= look') scanner := by
  by_cases none : scanner.rest = []
  · obtain ⟨extra, rfl, -⟩ := closing
    obtain ⟨rest, mode, names⟩ := scanner
    obtain rfl : rest = [] := none
    obtain ⟨forward, backward, atEnd⟩ := ended rfl
    rw [← same] at forward backward
    exact ⟨forward, backward, atEnd⟩
  · exact .next_of_more none here

/-- A step that needs a character takes the closing parenthesis at the end of the text, and leaves
too little. -/
theorem next_needed (count : Nat) {look look' : Option Char → Scan α} (closing : Closing tail)
    (here : ∀ c rest, scanner.rest = c :: rest →
      Agrees tail slack (look (some c)) (look' (some c)) scanner)
    (needed : look none = Alternative.failure) (alsoNeeded : look' none = Alternative.failure)
    (goes : Drops count (look' (some ')'))) (enough : 1 ≤ slack + count) :
    Agrees tail slack (next? >>= look) (next? >>= look') scanner := by
  by_cases none : scanner.rest = []
  · have positive := closing.length_pos
    obtain ⟨extra, rfl, -⟩ := closing
    obtain ⟨rest, mode, names⟩ := scanner
    obtain rfl : rest = [] := none
    refine ⟨fun {value after} run => ?_, fun {value after} run left => ?_, fun _ => ?_⟩
    · have none : (look none).run _ = some (value, after) := run
      rw [needed] at none
      cases none
    · have shorter := (goes _ value after run).length_le
      rw [List.length_drop, Scanner.followed_rest, List.nil_append] at shorter
      omega
    · show (look' none).run _ = (look none).run _
      rw [alsoNeeded, needed]
  · exact .next_of_more none here

theorem get {next : Scanner → Scan α}
    (later : Agrees tail slack (next scanner) (next (scanner.followed tail)) scanner) :
    Agrees tail slack (MonadState.get >>= next) (MonadState.get >>= next) scanner where
  forward run := later.forward run
  backward run left := later.backward run left
  atEnd _ := rfl

theorem mode {next next' : PatternMode → Scan α}
    (later : Agrees tail slack (next scanner.mode) (next' scanner.mode) scanner) :
    Agrees tail slack (Scan.mode >>= next) (Scan.mode >>= next') scanner where
  forward run := later.forward run
  backward run left := later.backward run left
  atEnd ended := later.atEnd ended

/-- Steps agree where others do that they come down to, further on. -/
theorem of_run {alone among alone' among' : Scan α} {middle : Scanner}
    (moved : alone.run scanner = alone'.run middle)
    (alsoMoved : among.run (scanner.followed tail) = among'.run (middle.followed tail))
    (suffix : middle.rest <:+ scanner.rest) (agrees : Agrees tail slack alone' among' middle)
    (atEnd : scanner.rest = [] → among.run scanner = alone.run scanner) :
    Agrees tail slack alone among scanner where
  forward run := by
    rcases agrees.forward (moved ▸ run) with kept | ⟨ended, comment, gone⟩
    · exact .inl (alsoMoved.trans kept)
    · exact .inr ⟨ended, comment.of_suffix suffix, alsoMoved.trans gone⟩
  backward run left := by
    obtain ⟨before, same, alone⟩ := agrees.backward (alsoMoved ▸ run) left
    exact ⟨before, same, moved.trans alone⟩
  atEnd := atEnd

end Agrees

namespace Scan

variable {tail : List Char} {slack : Nat} {scanner : Scanner}

theorem agrees_move {move : List Char → List Char}
    (moved : move (scanner.rest ++ tail) = move scanner.rest ++ tail) :
    Agrees tail slack (modify fun scanner : Scanner => { scanner with rest := move scanner.rest })
      (modify fun scanner => { scanner with rest := move scanner.rest }) scanner := by
  have run : (modify fun scanner : Scanner => { scanner with rest := move scanner.rest } :
      Scan Unit).run (scanner.followed tail) =
        some ((), { scanner with rest := move scanner.rest ++ tail }) := by
    rw [← moved]
    rfl
  refine ⟨fun {value after} alone => ?_, fun {value after} among _ => ?_, fun _ => rfl⟩
  · cases alone
    exact .inl run
  · rw [run] at among
    cases among
    exact ⟨{ scanner with rest := move scanner.rest }, rfl, rfl⟩

theorem agrees_skip {count : Nat} (fits : count ≤ scanner.rest.length) :
    Agrees tail slack (skip count) (skip count) scanner :=
  agrees_move (List.drop_append_of_le_length fits)

theorem agrees_setMode (mode : PatternMode) :
    Agrees tail slack (setMode mode) (setMode mode) scanner := by
  refine ⟨fun {value after} alone => ?_, fun {value after} among _ => ?_, fun _ => rfl⟩
  · cases alone
    exact .inl rfl
  · cases among
    exact ⟨{ scanner with mode }, rfl, rfl⟩

/-! ### Blanks and comments -/

theorem dropBlanks_comment (unended : '\n' ∉ text) : dropBlanks true text = [] := by
  induction text with
  | nil => rfl
  | cons c rest ih =>
    rw [List.mem_cons, not_or] at unended
    have inside : (c != '\n') = true := bne_iff_ne.mpr (Ne.symm unended.1)
    rw [dropBlanks, inside, ih unended.2]

theorem isBlank_closing : Unicode.isBlank ')' = false := by decide

theorem dropBlanks_tail (closing : Closing tail) (inComment : Bool) (text : List Char) :
    dropBlanks inComment (text ++ tail) = dropBlanks inComment text ++ tail ∨
      dropBlanks inComment (text ++ tail) = [] ∧ dropBlanks inComment text = [] ∧
        (EndsInComment text ∨ inComment = true ∧ '\n' ∉ text) := by
  obtain ⟨extra, rfl, plain⟩ := closing
  fun_induction dropBlanks inComment text with
  | case1 inComment =>
    cases inComment with
    | false =>
      exact .inl (by simp [dropBlanks, isBlank_closing])
    | true =>
      have unended : '\n' ∉ ')' :: extra := by
        rw [List.mem_cons, not_or]
        exact ⟨by decide, fun member => absurd (plain _ member) (by decide)⟩
      exact .inr ⟨dropBlanks_comment unended, rfl, .inr ⟨rfl, List.not_mem_nil⟩⟩
  | case2 c rest ih =>
    rcases ih with kept | ⟨gone, none, comment | ⟨inside, unended⟩⟩
    · exact .inl kept
    · exact .inr ⟨gone, none, .inl (comment.of_suffix (List.suffix_cons c rest))⟩
    · refine .inr ⟨gone, none, .inr ⟨rfl, ?_⟩⟩
      rw [List.mem_cons, not_or]
      exact ⟨(bne_iff_ne.mp inside).symm, unended⟩
  | case3 rest ih =>
    rcases ih with kept | ⟨gone, none, comment | ⟨-, unended⟩⟩
    · exact .inl kept
    · exact .inr ⟨gone, none, .inl (comment.of_suffix (List.suffix_cons _ rest))⟩
    · exact .inr ⟨gone, none, .inl ⟨rest, List.suffix_rfl, unended⟩⟩
  | case4 c rest notMark blank ih =>
    have opened : dropBlanks false (c :: rest ++ ')' :: extra) =
        dropBlanks false (rest ++ ')' :: extra) := by
      rw [List.cons_append, dropBlanks, if_neg notMark, if_pos blank]
    rw [opened]
    rcases ih with kept | ⟨gone, none, comment | ⟨inside, -⟩⟩
    · exact .inl kept
    · exact .inr ⟨gone, none, .inl (comment.of_suffix (List.suffix_cons c rest))⟩
    · exact absurd inside Bool.false_ne_true
  | case5 c rest notMark notBlank =>
    exact .inl (by rw [List.cons_append, dropBlanks, if_neg notMark, if_neg notBlank])

theorem agrees_skipBlanks (closing : Closing tail) :
    Agrees tail slack skipBlanks skipBlanks scanner := by
  cases ignores : scanner.mode.ignoresBlanks with
  | false =>
    have stays (scanner : Scanner) (off : scanner.mode.ignoresBlanks = false) :
        skipBlanks.run scanner = (pure () : Scan Unit).run scanner := by
      show some ((), if scanner.mode.ignoresBlanks = true then _ else _) = _
      rw [off, if_neg Bool.false_ne_true]
      rfl
    exact .of_run (stays scanner ignores) (stays _ ignores) List.suffix_rfl (.pure ()) fun _ => rfl
  | true =>
    have moves (scanner : Scanner) (on : scanner.mode.ignoresBlanks = true) :
        skipBlanks.run scanner =
          some ((), { scanner with rest := dropBlanks false scanner.rest }) := by
      show some ((), if scanner.mode.ignoresBlanks = true then _ else _) = _
      rw [on, if_pos rfl]
    have alone := moves scanner ignores
    have among := moves (scanner.followed tail) ignores
    have positive := closing.length_pos
    rw [Scanner.followed_rest] at among
    rcases dropBlanks_tail closing false scanner.rest with kept | ⟨gone, none, unended⟩
    · refine ⟨fun {value after} run => ?_, fun {value after} run _ => ?_, fun _ => rfl⟩
      · cases alone.symm.trans run
        exact .inl (by rw [among, kept]; rfl)
      · cases among.symm.trans run
        exact ⟨{ scanner with rest := dropBlanks false scanner.rest }, by rw [kept]; rfl, alone⟩
    · have comment := unended.resolve_right fun inside => absurd inside.1 Bool.false_ne_true
      refine ⟨fun {value after} run => ?_, fun {value after} run left => ?_, fun _ => rfl⟩
      · cases alone.symm.trans run
        exact .inr ⟨none, comment, by rw [among, gone, none]; rfl⟩
      · cases among.symm.trans run
        rw [gone, List.length_nil] at left
        omega

theorem agrees_step (closing : Closing tail) (more : scanner.rest ≠ []) :
    Agrees tail slack step step scanner :=
  .bind closing (agrees_skip (List.length_pos_iff.mpr more)) (drops_skip 1).weaken
    (fun _ => drops_skipBlanks) fun _ _ _ => agrees_skipBlanks closing

/-! ### Words and numbers -/

theorem rest_ne_nil (here : scanner.rest = c :: rest) : scanner.rest ≠ [] :=
  here ▸ List.cons_ne_nil c rest

theorem agrees_expect (closing : Closing tail) (c : Char) :
    Agrees tail slack (expect c) (expect c) scanner := by
  refine .next_needed 1 closing (fun next rest here => ?_) rfl rfl
    (.ite (drops_skip 1) .failure) (Nat.le_add_left 1 slack)
  exact .ite (agrees_skip (List.length_pos_iff.mpr (rest_ne_nil here))) .failure

/-- What is left behind a step that goes over some characters is shorter. -/
theorem length_lt_of_drops {count : Nat} {scan : Scan α} (goes : Drops (count + 1) scan)
    (run : scan.run scanner = some (value, after)) (more : scanner.rest ≠ []) :
    after.rest.length < scanner.rest.length := by
  have shorter := (goes scanner value after run).length_le
  have positive := List.length_pos_iff.mpr more
  rw [List.length_drop] at shorter
  omega

theorem length_le_of_drops {count : Nat} {scan : Scan α} (goes : Drops count scan)
    (run : scan.run scanner = some (value, after)) : after.rest.length ≤ scanner.rest.length :=
  (goes.weaken scanner value after run).length_le

theorem agrees_untilBrace (closing : Closing tail) {fuel fuel' : Nat}
    (enough : scanner.rest.length < fuel) (enough' : scanner.rest.length + tail.length < fuel') :
    Agrees tail slack (untilBrace fuel) (untilBrace fuel') scanner := by
  induction fuel generalizing fuel' scanner with
  | zero => exact absurd enough (Nat.not_lt_zero _)
  | succ fuel ih =>
    obtain ⟨fuel', rfl⟩ := Nat.exists_eq_add_one_of_ne_zero (Nat.ne_zero_of_lt enough')
    refine .next_needed 1 closing (fun c rest here => ?_) rfl rfl ?_ (Nat.le_add_left 1 slack)
    · have more := rest_ne_nil here
      split
      · exact .failure
      · exact .pure []
      · refine .bind closing (agrees_step closing more) drops_step.weaken
          (fun _ => (drops_untilBrace _).map _) fun _ middle run => ?_
        have shorter := length_lt_of_drops drops_step run more
        exact .map closing (ih (by omega) (by omega)) (drops_untilBrace _) _
    · exact .bind drops_step fun _ => (drops_untilBrace _).map _

/-- The brace that ends a text in braces stays. -/
theorem rest_untilBrace (run : (untilBrace fuel).run scanner = some (value, after)) :
    after.rest ≠ [] := by
  induction fuel generalizing scanner value after with
  | zero => cases run
  | succ fuel ih =>
    rw [untilBrace, StateT.run_bind] at run
    obtain ⟨⟨next, _⟩, nextRun, run⟩ := Option.bind_eq_some_iff.mp run
    cases nextRun
    split at run
    · cases run
    · rename_i here
      cases run
      intro none
      rw [none] at here
      cases here
    · rw [StateT.run_bind] at run
      obtain ⟨⟨_, stepped⟩, -, run⟩ := Option.bind_eq_some_iff.mp run
      rw [StateT.run_bind] at run
      obtain ⟨⟨text, last⟩, readRun, run⟩ := Option.bind_eq_some_iff.mp run
      cases run
      exact ih readRun

theorem agrees_braced (closing : Closing tail) (more : scanner.rest ≠ []) :
    Agrees tail slack braced braced scanner := by
  refine .bind closing (agrees_step closing more) drops_step.weaken
    (fun _ => .bind .get fun _ => .bind (drops_untilBrace _) fun _ =>
      .bind (drops_skip 1).weaken fun _ => .pure _) fun _ middle _ => .get ?_
  have enough := Nat.lt_succ_self middle.rest.length
  refine .bind closing (agrees_untilBrace closing enough ?_) (drops_untilBrace _)
    (fun _ => .bind (drops_skip 1).weaken fun _ => .pure _) fun text last run => ?_
  · rw [Scanner.followed_rest, List.length_append]
    exact Nat.lt_succ_self _
  · exact .bind closing (agrees_skip (List.length_pos_iff.mpr (rest_untilBrace run)))
      (drops_skip 1).weaken (fun _ => .pure _) fun _ _ _ => .pure _

theorem agrees_hexDigits (closing : Closing tail) (count : Nat) :
    Agrees tail slack (hexDigits count) (hexDigits count) scanner := by
  induction count generalizing scanner with
  | zero => exact .pure []
  | succ count ih =>
    refine .next_needed 1 closing (fun c rest here => ?_) rfl rfl ?_ (Nat.le_add_left 1 slack)
    · exact .bind closing (agrees_step closing (rest_ne_nil here)) drops_step.weaken
        (fun _ => (drops_hexDigits _).map _) fun _ _ _ => .map closing ih (drops_hexDigits _) _
    · exact .bind drops_step fun _ => (drops_hexDigits _).map _

theorem agrees_decimalDigits (closing : Closing tail) {fuel fuel' : Nat}
    (enough : scanner.rest.length ≤ fuel) (enough' : scanner.rest.length + tail.length ≤ fuel') :
    Agrees tail slack (decimalDigits fuel) (decimalDigits fuel') scanner := by
  have positive := closing.length_pos
  have notDigit : (digitValue? 10 ')').isSome = false := by decide
  induction fuel generalizing fuel' scanner with
  | zero =>
    obtain ⟨fuel', rfl⟩ := Nat.exists_eq_add_one_of_ne_zero (by omega : fuel' ≠ 0)
    change Agrees tail slack (next? >>= fun _ => pure []) _ scanner
    refine .next closing (fun c rest here => ?_) rfl fun _ => .pure []
    rw [here] at enough
    exact absurd enough (Nat.not_succ_le_zero _)
  | succ fuel ih =>
    obtain ⟨fuel', rfl⟩ := Nat.exists_eq_add_one_of_ne_zero (by omega : fuel' ≠ 0)
    refine .next closing (fun c rest here => ?_) rfl fun _ => .pure []
    have more := rest_ne_nil here
    refine .ite (.bind closing (agrees_step closing more) drops_step.weaken
      (fun _ => (drops_decimalDigits _).map _) fun _ middle run => ?_) (.pure [])
    have shorter := length_lt_of_drops drops_step run more
    exact .map closing (ih (by omega) (by omega)) (drops_decimalDigits _) _

/-- A closing parenthesis ends what consists of other characters only. -/
theorem dropWhile_tail (closing : Closing tail) {test : Char → Bool} (other : test ')' = false)
    (text : List Char) : (text ++ tail).dropWhile test = text.dropWhile test ++ tail := by
  obtain ⟨extra, rfl, -⟩ := closing
  rw [List.dropWhile_append]
  split
  · rename_i none
    rw [List.isEmpty_iff.mp none, List.dropWhile_cons_of_neg (Bool.eq_false_iff.mp other)]
    rfl
  · rfl

/-- What begins a text and has an end within it is not longer because of what follows. -/
theorem takeWhile_tail {test : Char → Bool} {text : List Char}
    (ended : text.dropWhile test ≠ []) (tail : List Char) :
    (text ++ tail).takeWhile test = text.takeWhile test := by
  have positive := List.length_pos_iff.mpr ended
  have whole := congrArg List.length (List.takeWhile_append_dropWhile (p := test) (l := text))
  rw [List.length_append] at whole
  rw [List.takeWhile_append, if_neg (by omega)]

theorem agrees_skipOuterBlanks (closing : Closing tail) :
    Agrees tail slack skipOuterBlanks skipOuterBlanks scanner :=
  agrees_move (dropWhile_tail closing isBlank_closing scanner.rest)

theorem agrees_count (closing : Closing tail) : Agrees tail slack count count scanner := by
  refine .bind closing (agrees_skipOuterBlanks closing) drops_skipOuterBlanks
    (fun _ => .bind .get fun _ => .bind (drops_decimalDigits _) fun _ =>
      .bind drops_skipOuterBlanks fun _ => .bind drops_skipBlanks fun _ => .ite .failure (.pure _))
    fun _ middle _ => .get ?_
  refine .bind closing (agrees_decimalDigits closing (Nat.le_refl _) ?_) (drops_decimalDigits _)
    (fun _ => .bind drops_skipOuterBlanks fun _ => .bind drops_skipBlanks fun _ =>
      .ite .failure (.pure _)) fun digits _ _ => ?_
  · rw [Scanner.followed_rest, List.length_append]
  · refine .bind closing (agrees_skipOuterBlanks closing) drops_skipOuterBlanks
      (fun _ => .bind drops_skipBlanks fun _ => .ite .failure (.pure _)) fun _ _ _ => ?_
    exact .bind closing (agrees_skipBlanks closing) drops_skipBlanks
      (fun _ => .ite .failure (.pure _)) fun _ _ _ => .ite .failure (.pure _)

end Scan

end DebugOutline
