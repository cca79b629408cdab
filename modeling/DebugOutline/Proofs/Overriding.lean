import Mathlib
import DebugOutline.CommandLine.Scan

/-! Every switch stands where the last instruction that touches it puts it. An instruction that is
given again counts where it is given last, and nothing is lost by that; whatever else a command line
asks for leaves the switches alone. -/
namespace DebugOutline

/-- What an instruction turns a switch to, if it touches the switch at all. -/
def ShowAction.value? (action : ShowAction) (option : ShowOption) : Option Bool :=
  match action with
  | .all => if option.isKind then some true else none
  | .brief => if option.isKind then some option.isBrief else none
  | .hideKinds => if option.isKind then some false else none
  | .set other value => if option = other then some value else none

/-! ### Instructions in a row -/

namespace ShowFlags

/-- What the last instruction that touches a switch turns it to. -/
def lastValue? (actions : List ShowAction) (option : ShowOption) : Option Bool :=
  (actions.filterMap fun action => action.value? option).getLast?

variable {actions : List ShowAction} {action : ShowAction} {option : ShowOption}

theorem lastValue?_cons : lastValue? (action :: actions) option =
    (lastValue? actions option).or (action.value? option) := by
  unfold lastValue?
  cases touched : action.value? option with
  | none => simp [touched]
  | some value =>
    simp only [List.filterMap_cons, touched, List.getLast?_cons]
    cases (actions.filterMap fun action => action.value? option).getLast? <;> rfl

/-- An instruction that is given again decides nothing before it is given last. -/
theorem lastValue?_cons_of_mem (again : action ∈ actions) :
    lastValue? (action :: actions) option = lastValue? actions option := by
  rw [lastValue?_cons]
  cases touched : action.value? option with
  | none => exact Option.or_none
  | some value =>
    have known : value ∈ actions.filterMap fun action => action.value? option :=
      List.mem_filterMap.mpr ⟨action, again, touched⟩
    rw [lastValue?, List.getLast?_eq_some_getLast (List.ne_nil_of_mem known), Option.some_or]

theorem lastValue?_lastOccurrences (actions : List ShowAction) (option : ShowOption) :
    lastValue? (Invocation.lastOccurrences actions) option = lastValue? actions option := by
  induction actions with
  | nil => rfl
  | cons action rest ih =>
    rw [Invocation.lastOccurrences]
    split
    · rename_i again
      rw [ih, lastValue?_cons_of_mem (List.contains_iff_mem.mp again)]
    · rw [lastValue?_cons, lastValue?_cons, ih]

theorem on_apply (flags : ShowFlags) (action : ShowAction) (option : ShowOption) :
    (flags.apply action).on option = (action.value? option).getD (flags.on option) := by
  cases action <;> simp only [apply, setKinds, set, ShowAction.value?] <;> split <;> rfl

theorem on_foldl_apply (actions : List ShowAction) (flags : ShowFlags) (option : ShowOption) :
    (actions.foldl apply flags).on option =
      (lastValue? actions option).getD (flags.on option) := by
  induction actions generalizing flags with
  | nil => rfl
  | cons action rest ih =>
    rw [List.foldl_cons, ih, lastValue?_cons, on_apply]
    cases lastValue? rest option <;> rfl

theorem eq_of_on {flags other : ShowFlags}
    (same : ∀ option, flags.on option = other.on option) : flags = other := by
  cases flags
  cases other
  exact congrArg ShowFlags.mk (funext same)

/-- Replaying every instruction where it is given last is replaying all of them. -/
theorem foldl_lastOccurrences (actions : List ShowAction) (flags : ShowFlags) :
    (Invocation.lastOccurrences actions).foldl apply flags = actions.foldl apply flags := by
  apply eq_of_on
  intro option
  rw [on_foldl_apply, on_foldl_apply, lastValue?_lastOccurrences]

end ShowFlags

/-! ### Flags -/

namespace ShowAction

/-- The long name of the flag for an instruction. -/
def longName : ShowAction → String
  | .all => "show-all"
  | .brief => "show-brief"
  | .hideKinds => "show-none"
  | .set option true => "show-" ++ option.word
  | .set option false => "no-show-" ++ option.word

/-- The arguments that give an instruction. -/
inductive IsFlag : ShowAction → String → Prop
  | long (action : ShowAction) : IsFlag action ("--" ++ action.longName)
  | all : IsFlag .all "-a"
  | brief : IsFlag .brief "-b"

end ShowAction

namespace Argument

variable {name text : String} {argument : Argument} {action : ShowAction}

/-- The instruction that an option gives, if it is about what is shown. -/
def instruction? : Argument → Option ShowAction
  | .ofSwitch (.shows action) => some action
  | _ => none

/-- The instructions that letters in a row give; what follows an equals sign is a value. -/
def letterInstructions (letters : List Char) : List ShowAction :=
  (letters.takeWhile (· != '=')).filterMap fun letter => (ofLetter? letter).bind instruction?

/-- The instructions that one argument gives. -/
def instructions (text : String) : List ShowAction :=
  match text.toList with
  | '-' :: '-' :: name => ((ofLong? (String.ofList name)).bind instruction?).toList
  | '-' :: letters => letterInstructions letters
  | _ => []

theorem instructions_long {text : String} {name : List Char}
    (spelled : text.toList = '-' :: '-' :: name) :
    instructions text = ((ofLong? (String.ofList name)).bind instruction?).toList := by
  rw [instructions, spelled]
  rfl

theorem instructions_letters {text : String} {letter : Char} {rest : List Char}
    (spelled : text.toList = '-' :: letter :: rest) (single : letter ≠ '-') :
    instructions text = letterInstructions (letter :: rest) := by
  rw [instructions, spelled]
  split
  · rename_i opened
    cases opened
    contradiction
  · rename_i opened
    cases opened
    rfl
  · rename_i closed
    exact absurd rfl (closed (letter :: rest))

/-- A dash alone is no option, nor is anything without a dash in front. -/
theorem instructions_plain {text : String}
    (short : ∀ letter rest, text.toList ≠ '-' :: letter :: rest) : instructions text = [] := by
  unfold instructions
  split
  · rename_i name spelled
    exact absurd spelled (short '-' name)
  · rename_i letters _ spelled
    cases letters with
    | nil => rfl
    | cons letter rest => exact absurd spelled (short letter rest)
  · rfl

theorem letterInstructions_cons {letter : Char} (found : ofLetter? letter = some argument)
    (letters : List Char) : letterInstructions (letter :: letters) =
      argument.instruction?.toList ++ letterInstructions letters := by
  have plain : (letter != '=') = true := by
    rw [bne_iff_ne]
    rintro rfl
    cases found
  have opened : (letter :: letters).takeWhile (· != '=') = letter :: letters.takeWhile (· != '=') :=
    List.takeWhile_cons_of_pos plain
  unfold letterInstructions
  rw [opened, List.filterMap_cons, found]
  cases named : argument.instruction? <;> simp [named]

theorem ofLong?_of_mem : ∀ item ∈ longNames, ofLong? item.1 = some item.2 := by
  decide +kernel

private theorem longName_mem (action : ShowAction) :
    (action.longName, ofSwitch (.shows action)) ∈ longNames := by
  cases action with
  | set option value =>
    refine List.mem_append_right _ (List.mem_flatMap.mpr ⟨option, ?_, ?_⟩)
    · cases option <;> decide
    · cases value <;> simp [ShowAction.longName]
  | _ => simp [longNames, ShowAction.longName]

theorem ofLong?_longName (action : ShowAction) :
    ofLong? action.longName = some (.ofSwitch (.shows action)) :=
  ofLong?_of_mem _ (longName_mem action)

private theorem word_plain (option : ShowOption) : '=' ∉ option.word.toList := by
  cases option <;> simp [ShowOption.word]

private theorem longNames_plain : ∀ item ∈ longNames, '=' ∉ item.1.toList := by
  refine List.forall_mem_append.mpr ⟨by simp, ?_⟩
  intro item shown
  obtain ⟨option, -, spelled⟩ := List.mem_flatMap.mp shown
  have plain := word_plain option
  rcases List.mem_pair.mp spelled with rfl | rfl <;> simp [plain]

theorem longName_ne_empty (action : ShowAction) : action.longName ≠ "" := by
  intro empty
  have missing : ofLong? "" = none := by decide
  rw [← empty, ofLong?_longName] at missing
  cases missing

theorem longName_plain (action : ShowAction) : '=' ∉ action.longName.toList :=
  longNames_plain _ (longName_mem action)

/-- No option has an equals sign in its name: what follows one is a value. -/
theorem ofLong?_eq_none (valued : '=' ∈ name.toList) : ofLong? name = none := by
  rw [ofLong?, List.lookup_eq_none_iff]
  intro item member
  rw [bne_iff_ne]
  rintro rfl
  exact longNames_plain item member valued

end Argument

/-! ### The scanner -/

theorem Except.bind_eq_ok {ε α β : Type} {first : Except ε α} {next : α → Except ε β} {result : β} :
    (first >>= next) = .ok result ↔ ∃ value, first = .ok value ∧ next value = .ok result := by
  cases first <;> simp [bind, Except.bind]

namespace ArgumentScanner

variable {before after : ArgumentScanner} {invocation next : Invocation} {option : Setting}
  {value : Option String} {text : String}

/-- The scanner has taken these instructions in, and expects options as it did. -/
structure Takes (actions : List ShowAction) (before after : ArgumentScanner) : Prop where
  shows : after.invocation.shows = before.invocation.shows ++ actions
  onlyInputs : after.onlyInputs = before.onlyInputs

theorem Takes.none (shows : after.invocation.shows = before.invocation.shows)
    (onlyInputs : after.onlyInputs = before.onlyInputs) : Takes [] before after :=
  ⟨shows.trans (List.append_nil _).symm, onlyInputs⟩

theorem Takes.trans {first second : List ShowAction} {middle : ArgumentScanner}
    (takes : Takes first before middle) (also : Takes second middle after) :
    Takes (first ++ second) before after where
  shows := by rw [also.shows, takes.shows, List.append_assoc]
  onlyInputs := also.onlyInputs.trans takes.onlyInputs

theorem shows_accept (accepted : accept invocation option value = .ok next) :
    next.shows = invocation.shows := by
  unfold accept at accepted
  repeat' split at accepted
  all_goals cases accepted <;> rfl

theorem takes_resolve (resolved : before.resolve = .ok after) : Takes [] before after := by
  unfold resolve at resolved
  split at resolved
  · cases resolved
    exact .none rfl rfl
  · split at resolved <;> cases resolved
    exact .none rfl rfl
  · dsimp only at resolved
    split at resolved
    · cases resolved
    · obtain ⟨invocation, accepted, resolved⟩ := Except.bind_eq_ok.mp resolved
      cases resolved
      exact .none (shows_accept accepted) rfl

theorem takes_turn {option : Switch} (turned : before.turn option = .ok after) :
    Takes (Argument.instruction? (.ofSwitch option)).toList before after := by
  obtain ⟨middle, resolved, turned⟩ := Except.bind_eq_ok.mp turned
  refine (takes_resolve resolved).trans ?_
  cases option with
  | help => cases turned
  | version => cases turned
  | quiet =>
    dsimp only at turned
    split at turned <;> cases turned
    exact .none rfl rfl
  | summary =>
    dsimp only at turned
    split at turned <;> cases turned
    exact .none rfl rfl
  | shows action =>
    cases turned
    exact ⟨rfl, rfl⟩

theorem takes_assign (assigned : before.assign option value = .ok after) :
    Takes [] before after := by
  obtain ⟨middle, resolved, assigned⟩ := Except.bind_eq_ok.mp assigned
  obtain ⟨invocation, accepted, assigned⟩ := Except.bind_eq_ok.mp assigned
  cases assigned
  exact (takes_resolve resolved).trans (.none (shows_accept accepted) rfl)

theorem takes_plain (scanned : before.plain text = .ok after) : Takes [] before after := by
  unfold plain at scanned
  split at scanned
  · split at scanned <;> cases scanned
    exact .none rfl rfl
  · cases scanned
    exact .none rfl rfl
  · obtain ⟨middle, resolved, scanned⟩ := Except.bind_eq_ok.mp scanned
    cases scanned
    exact (takes_resolve resolved).trans (.none rfl rfl)

/-- A long option with a value gives no instruction. -/
theorem takes_long {name : String} (scanned : before.long name value = .ok after) :
    Takes (if value.isSome then [] else ((Argument.ofLong? name).bind Argument.instruction?).toList)
      before after := by
  unfold long at scanned
  split at scanned
  · cases scanned
  · cases scanned
  · rename_i option named
    rw [named]
    exact takes_turn scanned
  · exact takes_assign scanned
  · rename_i named
    rw [named]
    exact takes_assign scanned
  · rename_i option other named
    rw [named]
    obtain ⟨middle, resolved, scanned⟩ := Except.bind_eq_ok.mp scanned
    cases scanned
    exact (takes_resolve resolved).trans (.none rfl rfl)

theorem takes_letters {letters : List Char} (scanned : before.letters letters = .ok after) :
    Takes (Argument.letterInstructions letters) before after := by
  induction letters generalizing before with
  | nil =>
    cases scanned
    exact .none rfl rfl
  | cons letter rest ih =>
    unfold ArgumentScanner.letters at scanned
    split at scanned
    · cases scanned
    · rename_i found
      obtain ⟨middle, turned, scanned⟩ := Except.bind_eq_ok.mp scanned
      rw [Argument.letterInstructions_cons found]
      exact (takes_turn turned).trans (ih scanned)
    · rename_i found
      rw [Argument.letterInstructions_cons found]
      exact takes_assign scanned
    · rename_i found _
      obtain ⟨middle, assigned, scanned⟩ := Except.bind_eq_ok.mp scanned
      rw [Argument.letterInstructions_cons found]
      exact (takes_assign assigned).trans (ih scanned)

theorem splitValue_of_plain {name : List Char} (plain : '=' ∉ name) :
    splitValue name = (String.ofList name, none) := by
  have whole : name.takeWhile (· != '=') = name := by
    rw [List.takeWhile_eq_self_iff]
    intro letter member
    rw [bne_iff_ne]
    rintro rfl
    exact plain member
  simp [splitValue, whole, plain]

theorem takes_option {name : List Char}
    (scanned : before.long (splitValue name).1 (splitValue name).2 = .ok after) :
    Takes ((Argument.ofLong? (String.ofList name)).bind Argument.instruction?).toList
      before after := by
  by_cases valued : '=' ∈ name
  · have takes := takes_long scanned
    rw [Argument.ofLong?_eq_none (by simpa using valued)]
    simpa [splitValue, valued] using takes
  · rw [splitValue_of_plain valued] at scanned
    exact takes_long scanned

/-- Behind two dashes alone, nothing is an option any more. -/
theorem takes_step (scanned : before.step text = .ok after) :
    after.invocation.shows =
        before.invocation.shows ++ (if before.onlyInputs then [] else Argument.instructions text) ∧
      after.onlyInputs = (before.onlyInputs || text == "--") := by
  have of_takes (options : before.onlyInputs = false) (other : text.toList ≠ ['-', '-'])
      (takes : Takes (Argument.instructions text) before after) :
      after.invocation.shows =
          before.invocation.shows ++ (if before.onlyInputs then [] else Argument.instructions text) ∧
        after.onlyInputs = (before.onlyInputs || text == "--") := by
    have noDashes : text ≠ "--" := by
      rintro rfl
      exact other rfl
    exact ⟨by simp [takes.shows, options], by simp [takes.onlyInputs, noDashes]⟩
  unfold step at scanned
  split at scanned
  · rename_i only
    have takes := takes_plain scanned
    exact ⟨by simp [takes.shows, only], by simp [takes.onlyInputs, only]⟩
  · rename_i options
    rw [Bool.not_eq_true] at options
    split at scanned
    · rename_i dashes
      cases scanned
      have same : text = "--" := String.toList_inj.mp dashes
      subst same
      exact ⟨by simp [options, Argument.instructions]; decide, by simp⟩
    · rename_i name other spelled
      refine of_takes options (fun dashes => other (by simpa [dashes] using spelled)) ?_
      rw [Argument.instructions_long spelled]
      exact takes_option scanned
    · rename_i letter rest _ same spelled
      have single : letter ≠ '-' := same
      refine of_takes options (by simp [spelled, single]) ?_
      rw [Argument.instructions_letters spelled single]
      exact takes_letters scanned
    · rename_i dashes long short
      refine of_takes options dashes ?_
      rw [Argument.instructions_plain short]
      exact takes_plain scanned

end ArgumentScanner

namespace Invocation

/-- The instructions that a command line gives, in order. Behind two dashes alone there are only
input files. -/
def instructions (arguments : List String) : List ShowAction :=
  (arguments.takeWhile (· != "--")).flatMap Argument.instructions

theorem shows_scan {arguments : List String} {before after : ArgumentScanner}
    (scanned : arguments.foldlM ArgumentScanner.step before = .ok after) :
    after.invocation.shows =
      before.invocation.shows ++ if before.onlyInputs then [] else instructions arguments := by
  induction arguments generalizing before with
  | nil =>
    cases scanned
    simp [instructions]
  | cons text rest ih =>
    rw [List.foldlM_cons] at scanned
    obtain ⟨middle, stepped, scanned⟩ := Except.bind_eq_ok.mp scanned
    obtain ⟨shows, onlyInputs⟩ := ArgumentScanner.takes_step stepped
    rw [ih scanned, shows, onlyInputs]
    cases before.onlyInputs with
    | true => simp
    | false =>
      by_cases dashes : text = "--"
      · subst dashes
        have none : Argument.instructions "--" = [] := by decide
        simp [instructions, none]
      · simp [instructions, dashes]

/-- A command line gives the instructions that its arguments give, whatever else it asks for. -/
theorem shows_parse {arguments : List String} {invocation : Invocation}
    (parsed : Invocation.parse arguments = .ok invocation) :
    invocation.shows = instructions arguments := by
  obtain ⟨scanner, scanned, parsed⟩ := Except.bind_eq_ok.mp parsed
  obtain ⟨last, resolved, parsed⟩ := Except.bind_eq_ok.mp parsed
  split at parsed
  · cases parsed
  · cases parsed
    rw [(ArgumentScanner.takes_resolve resolved).shows, shows_scan scanned]
    simp

end Invocation

/-! ### Command lines of flags and input files -/

/-- An argument that can only be the name of an input file. -/
structure IsInput (text : String) : Prop where
  named : text ≠ ""
  noOption : text.toList.head? ≠ some '-'

theorem IsInput.ne_dash {text : String} (given : IsInput text) (rest : List Char) :
    text.toList ≠ '-' :: rest :=
  fun spelled => given.noOption (congrArg List.head? spelled)

/-- Arguments that are flags and input files in any order. -/
inductive Spells : List String → List ShowAction → List String → Prop
  | nil : Spells [] [] []
  | flag {text : String} {action : ShowAction} {arguments : List String}
      {actions : List ShowAction} {inputs : List String} (given : action.IsFlag text)
      (rest : Spells arguments actions inputs) : Spells (text :: arguments) (action :: actions) inputs
  | input {text : String} {arguments : List String} {actions : List ShowAction}
      {inputs : List String} (given : IsInput text)
      (rest : Spells arguments actions inputs) : Spells (text :: arguments) actions (text :: inputs)

namespace ArgumentScanner

variable {scanner : ArgumentScanner} {text : String} {action : ShowAction}

/-- The input files met so far, judged or not. -/
def inputs (scanner : ArgumentScanner) : List String :=
  scanner.invocation.inputs ++ match scanner.pending with
    | .inputs names => names
    | _ => []

/-- A scanner that has met no more than flags and input files. -/
structure Ready (scanner : ArgumentScanner) : Prop where
  options : scanner.onlyInputs = false
  noSetting : ∀ option value, scanner.pending ≠ .setting option value
  named : "" ∉ scanner.inputs
  noPatterns : scanner.invocation.filters = [] ∧ scanner.invocation.trees = []

theorem step_flag (options : scanner.onlyInputs = false) (given : action.IsFlag text) :
    scanner.step text = scanner.turn (.shows action) := by
  cases given with
  | long action =>
    have spelled : ("--" ++ action.longName).toList = '-' :: '-' :: action.longName.toList := by simp
    have found := Argument.ofLong?_longName action
    have noValue := splitValue_of_plain (Argument.longName_plain action)
    obtain ⟨letter, rest, name⟩ : ∃ letter rest, action.longName.toList = letter :: rest :=
      List.exists_cons_of_ne_nil fun empty =>
        Argument.longName_ne_empty action (String.toList_eq_nil_iff.mp empty)
    rw [String.ofList_toList, name] at noValue
    unfold step
    rw [if_neg (by simp [options]), spelled, name]
    change scanner.long (splitValue (letter :: rest)).1 (splitValue (letter :: rest)).2 = _
    rw [noValue]
    simp only [long, found]
  | all => simp [step, options, letters, Argument.ofLetter?]
  | brief => simp [step, options, letters, Argument.ofLetter?]

theorem step_input (options : scanner.onlyInputs = false) (given : IsInput text) :
    scanner.step text = scanner.plain text := by
  unfold step
  rw [if_neg (by simp [options])]
  split
  · rename_i spelled
    exact absurd spelled (given.ne_dash _)
  · rename_i spelled
    exact absurd spelled (given.ne_dash _)
  · rename_i spelled
    exact absurd spelled (given.ne_dash _)
  · rfl

/-- Input files with names are taken as they are. -/
theorem Ready.resolve (ready : scanner.Ready) : ∃ after, scanner.resolve = .ok after ∧
    after.Ready ∧ after.pending = .nothing ∧ after.inputs = scanner.inputs := by
  obtain ⟨options, noSetting, named, noPatterns⟩ := ready
  unfold ArgumentScanner.resolve
  split
  · rename_i nothing
    exact ⟨scanner, rfl, ⟨options, noSetting, named, noPatterns⟩, nothing, rfl⟩
  · rename_i names pending
    have known : "" ∉ names := by simp_all [inputs]
    rw [if_neg (by simpa using known)]
    refine ⟨_, rfl, ⟨options, by simp, ?_, noPatterns⟩, rfl, ?_⟩
    · simpa [inputs, pending] using named
    · simp [inputs, pending]
  · rename_i option value pending
    exact absurd pending (noSetting option value)

theorem Ready.flag (ready : scanner.Ready) (given : action.IsFlag text) :
    ∃ after, scanner.step text = .ok after ∧ after.Ready ∧ after.inputs = scanner.inputs := by
  obtain ⟨middle, resolved, ⟨options, noSetting, named, noPatterns⟩, pending, inputs⟩ := ready.resolve
  have turned : scanner.turn (.shows action) = .ok { middle with
      invocation := { middle.invocation with shows := middle.invocation.shows ++ [action] } } := by
    unfold turn
    rw [resolved]
    rfl
  rw [step_flag ready.options given, turned]
  exact ⟨_, rfl, ⟨options, noSetting, named, noPatterns⟩, inputs⟩

theorem Ready.input (ready : scanner.Ready) (given : IsInput text) :
    ∃ after, scanner.step text = .ok after ∧ after.Ready ∧
      after.inputs = scanner.inputs ++ [text] := by
  obtain ⟨options, noSetting, named, noPatterns⟩ := ready
  rw [step_input options given]
  unfold plain
  cases pending : scanner.pending with
  | setting option value => exact absurd pending (noSetting option value)
  | inputs names =>
    refine ⟨_, rfl, ⟨options, by simp, ?_, noPatterns⟩, ?_⟩
    · simpa [inputs, pending, given.named.symm] using named
    · simp [inputs, pending]
  | nothing =>
    have resolved : scanner.resolve = .ok scanner := by
      unfold ArgumentScanner.resolve
      rw [pending]
      rfl
    rw [resolved]
    refine ⟨_, rfl, ⟨options, by simp, ?_, noPatterns⟩, ?_⟩
    · simpa [inputs, pending, given.named.symm] using named
    · simp [inputs, pending]

/-- Flags and input files are no mistake. -/
theorem Ready.scan {arguments : List String} {actions : List ShowAction} {names : List String}
    (spelled : Spells arguments actions names) (ready : scanner.Ready) :
    ∃ after, arguments.foldlM step scanner = .ok after ∧ after.Ready ∧
      after.inputs = scanner.inputs ++ names := by
  induction spelled generalizing scanner with
  | nil => exact ⟨scanner, rfl, ready, (List.append_nil _).symm⟩
  | flag given rest ih =>
    obtain ⟨next, stepped, ready, inputs⟩ := ready.flag given
    obtain ⟨after, scanned, also, all⟩ := ih ready
    exact ⟨after, by rw [List.foldlM_cons, stepped]; exact scanned, also, by rw [all, inputs]⟩
  | input given rest ih =>
    obtain ⟨next, stepped, ready, inputs⟩ := ready.input given
    obtain ⟨after, scanned, also, all⟩ := ih ready
    refine ⟨after, by rw [List.foldlM_cons, stepped]; exact scanned, also, ?_⟩
    rw [all, inputs, List.append_assoc, List.singleton_append]

end ArgumentScanner

namespace Invocation

variable {arguments inputs : List String} {actions : List ShowAction} {text : String}
  {action : ShowAction}

theorem instructions_flag (given : action.IsFlag text) :
    text ≠ "--" ∧ Argument.instructions text = [action] := by
  cases given with
  | long action =>
    have found := Argument.ofLong?_longName action
    have spelled : ("--" ++ action.longName).toList = '-' :: '-' :: action.longName.toList := by simp
    refine ⟨fun same => ?_, ?_⟩
    · have empty : action.longName = "" := by simpa using congrArg String.toList same
      exact Argument.longName_ne_empty action empty
    · rw [Argument.instructions_long spelled, String.ofList_toList, found]
      rfl
  | all => decide
  | brief => decide

theorem instructions_input (given : IsInput text) :
    text ≠ "--" ∧ Argument.instructions text = [] := by
  refine ⟨?_, Argument.instructions_plain fun letter rest => given.ne_dash _⟩
  rintro rfl
  exact given.noOption rfl

theorem instructions_spelled (spelled : Spells arguments actions inputs) :
    instructions arguments = actions := by
  induction spelled with
  | nil => rfl
  | flag given rest ih =>
    obtain ⟨option, gives⟩ := instructions_flag given
    rw [← ih, instructions, List.takeWhile_cons_of_pos (by simpa using option), List.flatMap_cons, gives]
    rfl
  | input given rest ih =>
    obtain ⟨option, gives⟩ := instructions_input given
    rw [← ih, instructions, List.takeWhile_cons_of_pos (by simpa using option), List.flatMap_cons, gives]
    rfl

/-- A command line of flags and at least one input file is understood. -/
theorem exists_options (spelled : Spells arguments actions inputs) (named : inputs ≠ []) :
    ∃ invocation options, Invocation.parse arguments = .ok invocation ∧
      invocation.options = .ok options := by
  have start : ArgumentScanner.Ready {} := ⟨rfl, by simp, by simp [ArgumentScanner.inputs], rfl, rfl⟩
  obtain ⟨scanner, scanned, ready, met⟩ := start.scan spelled
  obtain ⟨last, resolved, ready, pending, same⟩ := ready.resolve
  have known : last.invocation.inputs = inputs := by
    have all : last.inputs = inputs := same.trans met
    simpa [ArgumentScanner.inputs, pending] using all
  obtain ⟨options, chosen⟩ : ∃ options, last.invocation.options = .ok options := by
    unfold Invocation.options
    rw [ready.noPatterns.1, ready.noPatterns.2]
    exact ⟨_, rfl⟩
  refine ⟨last.invocation, options, ?_, chosen⟩
  refine Except.bind_eq_ok.mpr ⟨scanner, scanned, Except.bind_eq_ok.mpr ⟨last, resolved, ?_⟩⟩
  rw [known, if_neg (by simpa using named)]
  rfl

/-! ### The theorem -/

/-- Whatever else a command line asks for, each switch stands where the last flag that touches it
puts it, and as it stood at first if none does: giving every flag where it is given last is giving
all of them. A command line of nothing but flags and input files is never refused. -/
theorem last_flag_wins (arguments : List String) :
    (∀ invocation options, Invocation.parse arguments = .ok invocation →
      invocation.options = .ok options →
      invocation.actions = lastOccurrences (instructions arguments) ∧
      options.flags = (instructions arguments).foldl ShowFlags.apply .initial ∧
      ∀ option, options.shows option =
        (ShowFlags.lastValue? (instructions arguments) option).getD (ShowFlags.initial.on option)) ∧
    ∀ actions inputs, Spells arguments actions inputs → inputs ≠ [] →
      instructions arguments = actions ∧ ∃ invocation options,
        Invocation.parse arguments = .ok invocation ∧ invocation.options = .ok options := by
  refine ⟨fun invocation options parsed chosen => ?_, fun actions inputs spelled named =>
    ⟨instructions_spelled spelled, exists_options spelled named⟩⟩
  have given : invocation.actions = lastOccurrences (instructions arguments) :=
    congrArg lastOccurrences (shows_parse parsed)
  obtain ⟨exact, -, chosen⟩ := Except.bind_eq_ok.mp chosen
  obtain ⟨trees, -, chosen⟩ := Except.bind_eq_ok.mp chosen
  cases chosen
  have flags : invocation.actions.foldl ShowFlags.apply .initial =
      (instructions arguments).foldl ShowFlags.apply .initial := by
    rw [given, ShowFlags.foldl_lastOccurrences]
  refine ⟨given, flags, fun option => ?_⟩
  rw [← ShowFlags.on_foldl_apply, ← flags]
  rfl

/-- Flags given again and again around an input file. -/
private def restlessLine : List String :=
  ["--show-class", "--show-none", "--no-show-indent", "a.o", "-b", "--show-none", "--show-class",
    "--no-show-class", "--show-class"]

theorem last_flag_wins_restless : ∃ invocation options,
    Invocation.parse restlessLine = .ok invocation ∧ invocation.options = .ok options ∧
      options.shows .classType = true ∧ options.shows .function = false ∧
      options.shows .indent = false ∧ options.shows .void = true := by
  have spelled : Spells restlessLine
      [.set .classType true, .hideKinds, .set .indent false, .brief, .hideKinds,
        .set .classType true, .set .classType false, .set .classType true] ["a.o"] :=
    .flag (.long _) <| .flag (.long _) <| .flag (.long _) <| .input ⟨by decide, by decide⟩ <|
      .flag .brief <| .flag (.long _) <| .flag (.long _) <| .flag (.long _) <| .flag (.long _) .nil
  obtain ⟨wins, understood⟩ := last_flag_wins restlessLine
  obtain ⟨given, invocation, options, parsed, chosen⟩ := understood _ _ spelled (by decide)
  obtain ⟨-, -, shows⟩ := wins invocation options parsed chosen
  simp only [given] at shows
  refine ⟨invocation, options, parsed, chosen, ?_⟩
  simp only [shows]
  decide

end Invocation

end DebugOutline
