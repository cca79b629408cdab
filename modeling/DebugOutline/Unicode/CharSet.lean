/-! Sets of characters, as spans of code points. -/
namespace DebugOutline.Unicode

/-- The code points from `first` to `last`, both included. -/
structure Span where
  first : Nat
  last : Nat
  deriving DecidableEq, Inhabited, Repr

namespace Span

def contains (span : Span) (code : Nat) : Bool := span.first ≤ code && code ≤ span.last

/-- Join spans in ascending order where they touch or overlap; `span` comes first. -/
def coalesceFrom (span : Span) : List Span → List Span
  | [] => [span]
  | next :: rest =>
    if next.first ≤ span.last + 1 then coalesceFrom ⟨span.first, max span.last next.last⟩ rest
    else span :: coalesceFrom next rest

def coalesce : List Span → List Span
  | [] => []
  | span :: rest => coalesceFrom span rest

/-- The last code point. -/
def lastCode : Nat := 0x10ffff

/-- What lies between spans in ascending order, from `start` on. -/
def gaps (start : Nat) : List Span → List Span
  | [] => if start ≤ lastCode then [⟨start, lastCode⟩] else []
  | span :: rest =>
    if start < span.first then ⟨start, span.first - 1⟩ :: gaps (span.last + 1) rest
    else gaps (span.last + 1) rest

end Span

/-- Spans in ascending order with a gap between any two. -/
structure CharSet where
  spans : List Span
  deriving DecidableEq, Inhabited, Repr

namespace CharSet

def empty : CharSet := ⟨[]⟩

def all : CharSet := ⟨[⟨0, Span.lastCode⟩]⟩

def ofSpan (first last : Nat) : CharSet := ⟨[⟨first, last⟩]⟩

def singleton (code : Nat) : CharSet := ofSpan code code

def containsCode (set : CharSet) (code : Nat) : Bool := set.spans.any (·.contains code)

def contains (set : CharSet) (c : Char) : Bool := set.containsCode c.toNat

def isAscii (set : CharSet) : Bool := set.spans.all (·.last < 0x80)

/-- Spans in any order. -/
def ofSpans (spans : List Span) : CharSet :=
  ⟨Span.coalesce (spans.mergeSort fun s t => s.first ≤ t.first)⟩

def ofCodes (codes : List Nat) : CharSet := ofSpans (codes.map fun code => ⟨code, code⟩)

def union (a b : CharSet) : CharSet :=
  ⟨Span.coalesce (a.spans.merge b.spans fun s t => s.first ≤ t.first)⟩

def unions (sets : List CharSet) : CharSet := ofSpans (sets.flatMap CharSet.spans)

def complement (set : CharSet) : CharSet := ⟨Span.gaps 0 set.spans⟩

def inter (a b : CharSet) : CharSet := (a.complement.union b.complement).complement

def diff (a b : CharSet) : CharSet := a.inter b.complement

/-- What is in one of two sets but not in both. -/
def symmDiff (a b : CharSet) : CharSet := (a.diff b).union (b.diff a)

/-- The characters of a text. -/
def ofText (text : String) : CharSet := ofCodes (text.toList.map Char.toNat)

/-- The characters of some spans, given by their ends. -/
def ofChars (spans : List (Char × Char)) : CharSet :=
  ofSpans (spans.map fun span => ⟨span.1.toNat, span.2.toNat⟩)

/-! ### Runs -/

/-- A set being read from its runs, spans in reverse: first the count of code points to skip, then
the count to take. -/
structure RunReader where
  number : Nat := 0
  position : Nat := 0
  takes : Bool := false
  spans : List Span := []

namespace RunReader

/-- The number before a blank is complete. -/
def finish (reader : RunReader) : RunReader :=
  let next := reader.position + reader.number
  { number := 0
    position := next
    takes := !reader.takes
    spans := if reader.takes then ⟨reader.position, next - 1⟩ :: reader.spans else reader.spans }

def step (reader : RunReader) (c : Char) : RunReader :=
  if c = ' ' then reader.finish
  else { reader with number := reader.number * 10 + (c.toNat - '0'.toNat) }

end RunReader

/-- The set with the runs written in some lines: how many code points to skip, how many to take, and
so on. -/
def ofRuns (lines : List String) : CharSet :=
  let readLine (reader : RunReader) (line : String) : RunReader :=
    (line.toList.foldl RunReader.step reader).finish
  ⟨(lines.foldl readLine {}).spans.reverse⟩

end CharSet

end DebugOutline.Unicode
