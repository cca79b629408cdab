import Mathlib
import DebugOutline.Pattern.Expr

/-! What a regular expression matches, told from place to place, and that moving sets of places
through the expression finds just that. -/
namespace DebugOutline

/-! ### Sets of places -/

namespace Positions

instance : Membership Nat Positions := ⟨fun positions place => positions.contains place = true⟩

variable {a b : Positions} {place : Nat}

theorem mem_def : place ∈ a ↔ a.bits.testBit place = true := Iff.rfl

theorem mem_union : place ∈ a.union b ↔ place ∈ a ∨ place ∈ b := by
  simp only [mem_def, union, Nat.testBit_or, Bool.or_eq_true]

theorem mem_without : place ∈ a.without b ↔ place ∈ a ∧ place ∉ b := by
  simp only [mem_def, without, Nat.testBit_xor, Nat.testBit_and]
  cases a.bits.testBit place <;> cases b.bits.testBit place <;> decide

theorem mem_next : place ∈ a.next ↔ ∃ before ∈ a, place = before + 1 := by
  simp only [mem_def, next, Nat.testBit_shiftLeft, Bool.and_eq_true, decide_eq_true_eq]
  constructor
  · rintro ⟨positive, member⟩
    exact ⟨place - 1, member, (Nat.sub_add_cancel positive).symm⟩
  · rintro ⟨before, member, rfl⟩
    exact ⟨Nat.le_add_left 1 before, member⟩

theorem mem_upTo {size : Nat} : place ∈ upTo size ↔ place ≤ size := by
  rw [mem_def, upTo, Nat.one_shiftLeft, Nat.testBit_two_pow_sub_one, decide_eq_true_iff,
    Nat.lt_succ_iff]

theorem mem_filter {limit : Nat} {test : Nat → Bool} :
    place ∈ a.filter limit test ↔ place < limit ∧ place ∈ a ∧ test place = true := by
  induction limit with
  | zero => simp [mem_def, filter]
  | succ limit ih =>
    have opened : a.filter (limit + 1) test =
        if a.contains limit && test limit then ⟨(a.filter limit test).bits ||| 1 <<< limit⟩
        else a.filter limit test := by
      simp only [filter, List.range_succ, List.foldl_append, List.foldl_cons, List.foldl_nil]
      split <;> rfl
    have last : a.contains limit = true ↔ limit ∈ a := Iff.rfl
    rw [opened]
    by_cases taken : limit ∈ a ∧ test limit = true
    · rw [if_pos (by rwa [Bool.and_eq_true, last])]
      rw [mem_def, Nat.testBit_or, Nat.one_shiftLeft, Nat.testBit_two_pow, Bool.or_eq_true,
        ← mem_def, ih, decide_eq_true_iff]
      constructor
      · rintro (⟨less, rest⟩ | rfl)
        · exact ⟨Nat.lt_succ_of_lt less, rest⟩
        · exact ⟨Nat.lt_succ_self _, taken⟩
      · rintro ⟨less, rest⟩
        rcases Nat.lt_succ_iff_lt_or_eq.mp less with less | rfl
        · exact .inl ⟨less, rest⟩
        · exact .inr rfl
    · rw [if_neg (by rwa [Bool.and_eq_true, last]), ih]
      constructor
      · rintro ⟨less, rest⟩
        exact ⟨Nat.lt_succ_of_lt less, rest⟩
      · rintro ⟨less, rest⟩
        refine ⟨lt_of_le_of_ne (Nat.lt_succ_iff.mp less) ?_, rest⟩
        rintro rfl
        exact taken rest

theorem isEmpty_iff : a.isEmpty = true ↔ ∀ place, place ∉ a := by
  simp only [isEmpty, beq_iff_eq]
  constructor
  · intro none place member
    rw [mem_def, none, Nat.zero_testBit] at member
    exact Bool.false_ne_true member
  · intro none
    exact Nat.eq_of_testBit_eq fun place => by
      rw [Nat.zero_testBit]
      exact Bool.eq_false_iff.mpr (none place)

end Positions

/-! ### Steps one after another -/

/-- So many steps lead from one place to another. -/
def Steps (related : Nat → Nat → Prop) : Nat → Nat → Nat → Prop
  | 0, start, stop => start = stop
  | count + 1, start, stop => ∃ next, related start next ∧ Steps related count next stop

namespace Steps

variable {related : Nat → Nat → Prop} {start stop count : Nat}

theorem append {first second : Nat} : Steps related (first + second) start stop ↔
    ∃ middle, Steps related first start middle ∧ Steps related second middle stop := by
  induction first generalizing start with
  | zero => simp [Steps]
  | succ first ih =>
    rw [Nat.succ_add]
    simp only [Steps, ih]
    constructor
    · rintro ⟨next, step, middle, front, back⟩
      exact ⟨middle, ⟨next, step, front⟩, back⟩
    · rintro ⟨middle, ⟨next, step, front⟩, back⟩
      exact ⟨next, step, middle, front, back⟩

section
variable (forward : ∀ a b, related a b → a ≤ b)
include forward

theorem le (steps : Steps related count start stop) : start ≤ stop := by
  induction count generalizing start with
  | zero => exact Nat.le_of_eq steps
  | succ count ih =>
    obtain ⟨next, step, rest⟩ := steps
    exact Nat.le_trans (forward start next step) (ih rest)

/-- Where there are more steps than places gone over, one of the steps goes nowhere. It may be left
out, or be taken once more. -/
theorem exists_stay (steps : Steps related count start stop) (many : stop - start < count) :
    ∃ front back middle, front + 1 + back = count ∧ Steps related front start middle ∧
      related middle middle ∧ Steps related back middle stop := by
  induction count generalizing start with
  | zero => omega
  | succ count ih =>
    obtain ⟨next, step, rest⟩ := steps
    have moved := forward start next step
    by_cases stays : next = start
    · subst stays
      exact ⟨0, count, next, by omega, rfl, step, rest⟩
    · have passed := rest.le forward
      obtain ⟨front, back, middle, total, before, stay, after⟩ := ih rest (by omega)
      exact ⟨front + 1, back, middle, by omega, ⟨next, step, before⟩, stay, after⟩

theorem drop_one (steps : Steps related (count + 1) start stop) (many : stop - start ≤ count) :
    Steps related count start stop := by
  obtain ⟨front, back, middle, total, before, -, after⟩ :=
    steps.exists_stay forward (Nat.lt_succ_of_le many)
  rw [show count = front + back by omega]
  exact append.mpr ⟨middle, before, after⟩

theorem succ_iff (many : stop - start < count) :
    Steps related (count + 1) start stop ↔ Steps related count start stop := by
  constructor
  · intro steps
    exact steps.drop_one forward (Nat.le_of_lt many)
  · intro steps
    obtain ⟨front, back, middle, total, before, stay, after⟩ := steps.exists_stay forward many
    rw [show count + 1 = front + (back + 1 + 1) by omega]
    exact append.mpr ⟨middle, before, middle, stay, middle, stay, after⟩

/-- Beyond as many steps as there are places nothing changes any more. -/
theorem min_iff {limit : Nat} (inside : stop < limit) :
    Steps related (min count limit) start stop ↔ Steps related count start stop := by
  induction count with
  | zero => rw [Nat.zero_min]
  | succ count ih =>
    by_cases few : count + 1 ≤ limit
    · rw [Nat.min_eq_left few]
    · rw [succ_iff forward (by omega), ← ih, Nat.min_eq_right (by omega),
        Nat.min_eq_right (by omega)]

/-- Wherever some steps lead, no more steps lead than there are places gone over. -/
theorem exists_few (steps : Steps related count start stop) :
    ∃ fewer, fewer ≤ count ∧ fewer ≤ stop - start ∧ Steps related fewer start stop := by
  induction count with
  | zero => exact ⟨0, Nat.le_refl 0, Nat.zero_le _, steps⟩
  | succ count ih =>
    by_cases many : stop - start ≤ count
    · obtain ⟨fewer, less, few, rest⟩ := ih (steps.drop_one forward many)
      exact ⟨fewer, Nat.le_succ_of_le less, few, rest⟩
    · exact ⟨count + 1, Nat.le_refl _, by omega, steps⟩

end

end Steps

namespace Positions

/-- No place lies beyond the end of a name of this size. -/
def Inside (size : Nat) (positions : Positions) : Prop := ∀ place ∈ positions, place ≤ size

/-- A step on sets of places that takes every place where a relation leads, and keeps inside. -/
structure Moves (size : Nat) (step : Positions → Positions) (related : Nat → Nat → Prop) :
    Prop where
  mem_step : ∀ {starts : Positions}, starts.Inside size → ∀ {place},
    place ∈ step starts ↔ ∃ start ∈ starts, related start place
  inside : ∀ {start place}, related start place → start ≤ size → place ≤ size

variable {size : Nat} {step : Positions → Positions} {related : Nat → Nat → Prop}

theorem Moves.inside_step (moves : Moves size step related) {starts : Positions}
    (inside : starts.Inside size) : (step starts).Inside size := by
  intro place member
  obtain ⟨start, known, leads⟩ := (moves.mem_step inside).mp member
  exact moves.inside leads (inside start known)

theorem Moves.inside_steps (moves : Moves size step related)
    (steps : Steps related count start stop)
    (inside : start ≤ size) : stop ≤ size := by
  induction count generalizing start with
  | zero => exact steps ▸ inside
  | succ count ih =>
    obtain ⟨next, leads, rest⟩ := steps
    exact ih rest (moves.inside leads inside)

/-- Where a step changes nothing, no number of steps does. -/
theorem Moves.mem_of_fixed (moves : Moves size step related) {starts : Positions}
    (inside : starts.Inside size) (fixed : step starts = starts) (count : Nat) {place : Nat} :
    place ∈ starts ↔ ∃ start ∈ starts, Steps related count start place := by
  induction count with
  | zero => simp [Steps]
  | succ count ih =>
    rw [ih]
    constructor
    · rintro ⟨start, known, rest⟩
      rw [← fixed] at known
      obtain ⟨first, member, leads⟩ := (moves.mem_step inside).mp known
      exact ⟨first, member, start, leads, rest⟩
    · rintro ⟨first, member, start, leads, rest⟩
      have known := (moves.mem_step inside).mpr ⟨first, member, leads⟩
      rw [fixed] at known
      exact ⟨start, known, rest⟩

theorem Moves.mem_iterate (moves : Moves size step related) (count : Nat) {starts : Positions}
    (inside : starts.Inside size) {place : Nat} :
    place ∈ iterate step count starts ↔ ∃ start ∈ starts, Steps related count start place := by
  induction count generalizing starts with
  | zero => simp [iterate, Steps]
  | succ count ih =>
    rw [iterate]
    by_cases fixed : step starts = starts
    · rw [if_pos fixed]
      exact moves.mem_of_fixed inside fixed (count + 1)
    · rw [if_neg fixed, ih (moves.inside_step inside)]
      constructor
      · rintro ⟨start, known, rest⟩
        obtain ⟨first, member, leads⟩ := (moves.mem_step inside).mp known
        exact ⟨first, member, start, leads, rest⟩
      · rintro ⟨first, member, start, leads, rest⟩
        exact ⟨start, (moves.mem_step inside).mpr ⟨first, member, leads⟩, rest⟩

/-- What was reached so far, with the fresh places that no step was taken from yet. -/
structure Frontier (size : Nat) (related : Nat → Nat → Prop) (reached fresh : Positions) :
    Prop where
  inside : reached.Inside size
  known : ∀ place ∈ fresh, place ∈ reached
  closed : ∀ start ∈ reached, start ∉ fresh → ∀ place, related start place → place ∈ reached

/-- Where nothing was taken a step from yet, all places are fresh. -/
theorem Frontier.start {starts : Positions} (inside : starts.Inside size) :
    Frontier size related starts starts where
  inside := inside
  known _ member := member
  closed _ member notFresh := absurd member notFresh

section Frontier

variable (moves : Moves size step related) {reached fresh : Positions}
  (frontier : Frontier size related reached fresh)
include moves frontier

theorem Moves.mem_stepped {place : Nat} : place ∈ (step fresh).without reached ↔
    (∃ start ∈ fresh, related start place) ∧ place ∉ reached := by
  rw [mem_without, moves.mem_step fun place fromFresh =>
    frontier.inside place (frontier.known place fromFresh)]

/-- One step leads from what was reached to what is reached in the next round. -/
theorem Moves.onward {start next : Nat} (member : start ∈ reached) (leads : related start next) :
    next ∈ reached ∨ next ∈ (step fresh).without reached := by
  by_cases old : next ∈ reached
  · exact .inl old
  · by_cases fromFresh : start ∈ fresh
    · exact .inr ((moves.mem_stepped frontier).mpr ⟨⟨start, fromFresh, leads⟩, old⟩)
    · exact .inl (frontier.closed start member fromFresh next leads)

/-- In the next round, the fresh places are those that the steps from the old ones lead to. -/
theorem Moves.frontier_next : Frontier size related (reached.union ((step fresh).without reached))
    ((step fresh).without reached) where
  inside place member := by
    rcases mem_union.mp member with old | new
    · exact frontier.inside place old
    · obtain ⟨⟨start, fromFresh, leads⟩, -⟩ := (moves.mem_stepped frontier).mp new
      exact moves.inside leads (frontier.inside start (frontier.known start fromFresh))
  known _ new := mem_union.mpr (.inr new)
  closed start member notNew next leads := by
    have old := (mem_union.mp member).resolve_right notNew
    exact mem_union.mpr (moves.onward frontier old leads)

/-- Where no step leads to a new place, no number of steps does. -/
theorem Moves.mem_of_steps (none : ∀ place, place ∉ (step fresh).without reached) {start : Nat}
    (member : start ∈ reached) (steps : Steps related count start place) : place ∈ reached := by
  induction count generalizing start with
  | zero => exact steps ▸ member
  | succ count ih =>
    obtain ⟨next, leads, rest⟩ := steps
    exact ih ((moves.onward frontier member leads).resolve_right (none next)) rest

end Frontier

/-- Everything that is reached was reached by few enough steps. -/
theorem Moves.mem_spread (moves : Moves size step related) (count : Nat) {reached fresh : Positions}
    (frontier : Frontier size related reached fresh) {place : Nat} :
    place ∈ spread step count reached fresh ↔
      ∃ start ∈ reached, ∃ fewer ≤ count, Steps related fewer start place := by
  induction count generalizing reached fresh with
  | zero => simp [spread, Steps]
  | succ count ih =>
    rw [spread]
    by_cases done : ((step fresh).without reached).isEmpty = true
    · rw [if_pos done]
      constructor
      · intro member
        exact ⟨place, member, 0, Nat.zero_le _, rfl⟩
      · rintro ⟨start, member, fewer, -, steps⟩
        exact moves.mem_of_steps frontier (isEmpty_iff.mp done) member steps
    · rw [if_neg done, ih (moves.frontier_next frontier)]
      constructor
      · rintro ⟨start, member, fewer, few, steps⟩
        rcases mem_union.mp member with old | new
        · exact ⟨start, old, fewer, Nat.le_succ_of_le few, steps⟩
        · obtain ⟨⟨first, fromFresh, leads⟩, -⟩ := (moves.mem_stepped frontier).mp new
          exact ⟨first, frontier.known first fromFresh, fewer + 1, Nat.succ_le_succ few, start,
            leads, steps⟩
      · rintro ⟨start, member, fewer, few, steps⟩
        cases fewer with
        | zero => exact ⟨start, mem_union.mpr (.inl member), 0, Nat.zero_le _, steps⟩
        | succ fewer =>
          obtain ⟨next, leads, rest⟩ := steps
          exact ⟨next, mem_union.mpr (moves.onward frontier member leads), fewer,
            Nat.le_of_succ_le_succ few, rest⟩

/-! ### Moves put together -/

theorem Moves.refl (size : Nat) : Moves size id Eq :=
  ⟨fun _ _ => by simp, fun leads inside => leads ▸ inside⟩

section

variable {other : Positions → Positions} {also : Nat → Nat → Prop}
  (first : Moves size step related) (second : Moves size other also)
include first second

theorem Moves.comp : Moves size (fun starts => other (step starts))
    fun start stop => ∃ middle, related start middle ∧ also middle stop where
  mem_step {starts} inside {place} := by
    rw [second.mem_step (first.inside_step inside)]
    simp only [first.mem_step inside]
    constructor
    · rintro ⟨middle, ⟨start, member, front⟩, back⟩
      exact ⟨start, member, middle, front, back⟩
    · rintro ⟨start, member, middle, front, back⟩
      exact ⟨middle, ⟨start, member, front⟩, back⟩
  inside := by
    rintro start place ⟨middle, front, back⟩ inside
    exact second.inside back (first.inside front inside)

theorem Moves.union : Moves size (fun starts => (step starts).union (other starts))
    fun start stop => related start stop ∨ also start stop where
  mem_step {starts} inside {place} := by
    simp only [mem_union, first.mem_step inside, second.mem_step inside, and_or_left, exists_or]
  inside leads inside := leads.elim (first.inside · inside) (second.inside · inside)

end

/-- A number of steps from the starts, and then up to some more. -/
theorem Moves.mem_spread_iterate (moves : Moves size step related) (least further : Nat)
    {starts : Positions} (inside : starts.Inside size) {place : Nat} :
    place ∈ spread step further (iterate step least starts) (iterate step least starts) ↔
      ∃ start ∈ starts, ∃ middle, Steps related least start middle ∧
        ∃ fewer ≤ further, Steps related fewer middle place := by
  have after : (iterate step least starts).Inside size := by
    intro place member
    obtain ⟨start, known, steps⟩ := (moves.mem_iterate least inside).mp member
    exact moves.inside_steps steps (inside start known)
  simp only [moves.mem_spread further (.start after), moves.mem_iterate least inside]
  constructor
  · rintro ⟨middle, ⟨start, known, front⟩, back⟩
    exact ⟨start, known, middle, front, back⟩
  · rintro ⟨start, known, middle, front, back⟩
    exact ⟨middle, ⟨start, known, front⟩, back⟩

end Positions

/-! ### Expressions -/

namespace Expr

/-- An expression matches from one place in a name to another. -/
def Spans (name : Array Char) : Expr → Nat → Nat → Prop
  | .empty, start, stop => start = stop
  | .chars set, start, stop =>
    stop = start + 1 ∧ ∃ c, name[start]? = some c ∧ set.contains c = true
  | .look condition wordChars, start, stop =>
    start = stop ∧ condition.holds wordChars (charBefore? name start) name[start]? = true
  | .seq first second, start, stop =>
    ∃ middle, first.Spans name start middle ∧ second.Spans name middle stop
  | .alt first second, start, stop => first.Spans name start stop ∨ second.Spans name start stop
  | .group inner, start, stop => inner.Spans name start stop
  | .repeated inner least most, start, stop =>
    ∃ count, least ≤ count ∧ (∀ limit ∈ most, count ≤ max least limit) ∧
      Steps (inner.Spans name) count start stop

variable {name : Array Char}

theorem Spans.le {expr : Expr} (spans : expr.Spans name start stop) : start ≤ stop := by
  induction expr generalizing start stop with
  | empty => exact Nat.le_of_eq spans
  | chars set => exact Nat.le_of_lt (Nat.lt_of_succ_le (Nat.le_of_eq spans.1.symm))
  | look condition wordChars => exact Nat.le_of_eq spans.1
  | seq first second firstIh secondIh =>
    obtain ⟨middle, front, back⟩ := spans
    exact Nat.le_trans (firstIh front) (secondIh back)
  | alt first second firstIh secondIh => exact spans.elim firstIh secondIh
  | group inner ih => exact ih spans
  | repeated inner least most ih =>
    obtain ⟨count, -, -, steps⟩ := spans
    exact steps.le fun _ _ => ih

/-- How many more times than the least a repetition is tried, with no more than `limit` tries. -/
def furtherTries (least limit : Nat) : Option Nat → Nat
  | some most => min (most - least) limit
  | none => limit

/-- Repetitions may be cut where there are more of them than places. -/
theorem spans_repeated {inner : Expr} {least : Nat} {most : Option Nat} {limit : Nat}
    (inside : stop < limit) : (repeated inner least most).Spans name start stop ↔
      ∃ middle, Steps (inner.Spans name) (min least limit) start middle ∧
        ∃ further ≤ furtherTries least limit most,
          Steps (inner.Spans name) further middle stop := by
  have forward : ∀ a b, inner.Spans name a b → a ≤ b := fun _ _ spans => spans.le
  constructor
  · rintro ⟨count, enough, bounded, steps⟩
    obtain ⟨further, rfl⟩ := Nat.exists_eq_add_of_le enough
    obtain ⟨middle, front, back⟩ := Steps.append.mp steps
    obtain ⟨fewer, less, few, cut⟩ := back.exists_few forward
    have passed := back.le forward
    refine ⟨middle, (Steps.min_iff forward (by omega)).mpr front, fewer, ?_, cut⟩
    cases most with
    | none => exact (by omega : fewer ≤ limit)
    | some most =>
      have := bounded most rfl
      exact (by omega : fewer ≤ min (most - least) limit)
  · rintro ⟨middle, front, further, few, back⟩
    have passed := back.le forward
    refine ⟨least + further, Nat.le_add_right _ _, ?_, Steps.append.mpr
      ⟨middle, (Steps.min_iff forward (by omega)).mp front, back⟩⟩
    rintro most rfl
    have : further ≤ min (most - least) limit := few
    omega

/-! ### Where matches end -/

open Positions (Moves)
open Unicode (CharSet)

theorem moves_chars (set : CharSet) :
    Moves name.size ((chars set).ends name) ((chars set).Spans name) where
  mem_step {starts} inside {place} := by
    simp only [ends, Positions.mem_next, Positions.mem_filter, Spans]
    constructor
    · rintro ⟨start, ⟨-, member, holds⟩, rfl⟩
      exact ⟨start, member, rfl, (Option.any_eq_true _ _).mp holds⟩
    · rintro ⟨start, member, rfl, c, here, holds⟩
      have less : start < name.size := (Array.getElem?_eq_some_iff.mp here).1
      exact ⟨start, ⟨less, member, (Option.any_eq_true _ _).mpr ⟨c, here, holds⟩⟩, rfl⟩
  inside := by
    rintro start place ⟨rfl, c, here, -⟩ -
    exact (Array.getElem?_eq_some_iff.mp here).1

theorem moves_look (condition : Look) (wordChars : CharSet) :
    Moves name.size ((look condition wordChars).ends name) ((look condition wordChars).Spans name)
    where
  mem_step {starts} inside {place} := by
    simp only [ends, Positions.mem_filter, Spans]
    constructor
    · rintro ⟨-, member, holds⟩
      exact ⟨place, member, rfl, holds⟩
    · rintro ⟨start, member, rfl, holds⟩
      exact ⟨Nat.lt_succ_of_le (inside start member), member, holds⟩
  inside := by
    rintro start place ⟨rfl, -⟩ inside
    exact inside

/-- Cutting repetitions where there are more of them than places loses no place. -/
theorem moves_repeated {inner : Expr} (moves : Moves name.size (inner.ends name) (inner.Spans name))
    (least : Nat) (most : Option Nat) : Moves name.size ((repeated inner least most).ends name)
      ((repeated inner least most).Spans name) where
  mem_step {starts} inside {place} := by
    refine (moves.mem_spread_iterate (min least (name.size + 1))
      (furtherTries least (name.size + 1) most) inside).trans
        (exists_congr fun start => and_congr_right fun member => ?_)
    constructor
    · rintro ⟨middle, front, fewer, few, back⟩
      have ended := moves.inside_steps back (moves.inside_steps front (inside start member))
      exact (spans_repeated (Nat.lt_succ_of_le ended)).mpr ⟨middle, front, fewer, few, back⟩
    · intro spans
      have ended : place ≤ name.size := by
        obtain ⟨count, -, -, steps⟩ := spans
        exact moves.inside_steps steps (inside start member)
      exact (spans_repeated (Nat.lt_succ_of_le ended)).mp spans
  inside := by
    rintro start place ⟨count, -, -, steps⟩ inside
    exact moves.inside_steps steps inside

/-- The places that an expression leads to are those where its matches end. -/
theorem moves_ends (expr : Expr) : Moves name.size (expr.ends name) (expr.Spans name) := by
  induction expr with
  | empty => exact .refl name.size
  | chars set => exact moves_chars set
  | look condition wordChars => exact moves_look condition wordChars
  | seq _ _ first second => exact first.comp second
  | alt _ _ first second => exact first.union second
  | group _ inner => exact inner
  | repeated _ least most inner => exact moves_repeated inner least most

/-- A name is matched where some part of it is. -/
theorem isMatch_iff {expr : Expr} {name : String} : expr.isMatch name = true ↔
    ∃ start stop, start ≤ name.length ∧ expr.Spans name.toList.toArray start stop := by
  have size : name.toList.toArray.size = name.length := by
    rw [List.size_toArray, String.length_toList]
  have inside : (Positions.upTo name.toList.toArray.size).Inside name.toList.toArray.size :=
    fun place member => Positions.mem_upTo.mp member
  have found : expr.isMatch name = true ↔
      ∃ stop, stop ∈ expr.ends name.toList.toArray (.upTo name.toList.toArray.size) := by
    rw [isMatch, Bool.not_eq_true', ← Bool.not_eq_true, Positions.isEmpty_iff]
    simp only [not_forall, not_not]
  simp only [found, (moves_ends expr).mem_step inside, Positions.mem_upTo]
  rw [size]
  exact exists_comm.trans (by simp only [exists_and_left])

end Expr

end DebugOutline
