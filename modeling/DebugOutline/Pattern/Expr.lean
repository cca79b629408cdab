import DebugOutline.Unicode.Lookup

/-! Regular expressions and what they match. A name is matched by moving a whole set of positions
through the expression at once, so that no choice is ever taken back. -/
namespace DebugOutline

open Unicode (CharSet)

/-- Conditions on a place between two characters. -/
inductive Look where
  | textStart | textEnd
  | lineStart | lineEnd
  /-- Lines that end in a carriage return, a line feed or both in this order. -/
  | returnLineStart | returnLineEnd
  | wordBoundary | notWordBoundary
  | wordStart | wordEnd
  | wordStartHalf | wordEndHalf
  deriving DecidableEq, Inhabited, Repr

/-- A regular expression. Line ends and word characters are told by `Look`; word characters are
those of a set, as the mode of the place in the pattern asks for it. -/
inductive Expr where
  | empty
  | chars (set : CharSet)
  | look (condition : Look) (wordChars : CharSet)
  | seq (first second : Expr)
  | alt (first second : Expr)
  /-- A group whose match is kept; it matches what is inside. -/
  | group (inner : Expr)
  | repeated (inner : Expr) (least : Nat) (most : Option Nat)
  deriving Inhabited, Repr

/-! ### Positions -/

/-- A set of places in a name: bit `i` stands for the place in front of character `i`. -/
structure Positions where
  bits : Nat
  deriving DecidableEq, Inhabited, Repr

namespace Positions

def contains (positions : Positions) (place : Nat) : Bool := positions.bits.testBit place

def isEmpty (positions : Positions) : Bool := positions.bits == 0

/-- Every place up to the end of a name. -/
def upTo (size : Nat) : Positions := ⟨(1 <<< (size + 1)) - 1⟩

def union (a b : Positions) : Positions := ⟨a.bits ||| b.bits⟩

/-- The places of `a` that are not in `b`. -/
def without (a b : Positions) : Positions := ⟨a.bits ^^^ (a.bits &&& b.bits)⟩

/-- The places that satisfy a condition, among the first `limit`. -/
def filter (positions : Positions) (limit : Nat) (test : Nat → Bool) : Positions :=
  ⟨(List.range limit).foldl (fun bits place =>
    if positions.contains place && test place then bits ||| 1 <<< place else bits) 0⟩

/-- One place further on. -/
def next (positions : Positions) : Positions := ⟨positions.bits <<< 1⟩

/-- Take a step up to `count` times, less when it changes nothing any more. -/
def iterate (step : Positions → Positions) : Nat → Positions → Positions
  | 0, positions => positions
  | count + 1, positions =>
    let stepped := step positions
    if stepped = positions then positions else iterate step count stepped

/-- Everything reached by up to `count` steps; `fresh` are the places of `reached` to go on from. -/
def spread (step : Positions → Positions) : Nat → Positions → Positions → Positions
  | 0, reached, _ => reached
  | count + 1, reached, fresh =>
    let stepped := (step fresh).without reached
    if stepped.isEmpty then reached else spread step count (reached.union stepped) stepped

end Positions

/-! ### Matching -/

namespace Look

/-- Whether a condition holds between the characters `before` and `after`, if there are any. -/
def holds (look : Look) (wordChars : CharSet) (before after : Option Char) : Bool :=
  let wordBefore := before.any wordChars.contains
  let wordAfter := after.any wordChars.contains
  match look with
  | .textStart => before.isNone
  | .textEnd => after.isNone
  | .lineStart => before.isNone || before == some '\n'
  | .lineEnd => after.isNone || after == some '\n'
  | .returnLineStart =>
    before.isNone || before == some '\n' || before == some '\r' && after != some '\n'
  | .returnLineEnd =>
    after.isNone || after == some '\r' || after == some '\n' && before != some '\r'
  | .wordBoundary => wordBefore != wordAfter
  | .notWordBoundary => wordBefore == wordAfter
  | .wordStart => !wordBefore && wordAfter
  | .wordEnd => wordBefore && !wordAfter
  | .wordStartHalf => !wordBefore
  | .wordEndHalf => !wordAfter

end Look

namespace Expr

/-- The character in front of a place. -/
def charBefore? (name : Array Char) (place : Nat) : Option Char :=
  if place = 0 then none else name[place - 1]?

/-- The places where a match can end that starts at one of the given places. No more steps than
there are places lead to a new one, so longer repetitions are cut there. -/
def ends (name : Array Char) : Expr → Positions → Positions
  | .empty, starts => starts
  | .chars set, starts =>
    (starts.filter name.size fun place => name[place]?.any set.contains).next
  | .look condition wordChars, starts =>
    starts.filter (name.size + 1) fun place =>
      condition.holds wordChars (charBefore? name place) name[place]?
  | .seq first second, starts => second.ends name (first.ends name starts)
  | .alt first second, starts => (first.ends name starts).union (second.ends name starts)
  | .group inner, starts => inner.ends name starts
  | .repeated inner least most, starts =>
    let limit := name.size + 1
    let after := Positions.iterate (inner.ends name) (min least limit) starts
    let further := match most with
      | some most => min (most - least) limit
      | none => limit
    Positions.spread (inner.ends name) further after after

/-- Whether the expression matches some part of a name. -/
def isMatch (expr : Expr) (name : String) : Bool :=
  let name := name.toList.toArray
  !(expr.ends name (.upTo name.size)).isEmpty

end Expr

end DebugOutline
