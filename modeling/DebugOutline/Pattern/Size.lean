import DebugOutline.Pattern.Expr

/-! The memory that an automaton for an expression takes. Patterns that need too much are refused,
so that a short pattern with large counts cannot exhaust memory. -/
namespace DebugOutline

open Unicode (Span CharSet)

/-- The number of byte sequences of ranges that cover code points of one encoded length, when
`level` bytes follow the first. -/
def Unicode.Span.pieces : Nat → Span → Nat
  | 0, _ => 1
  | level + 1, span =>
    let block := 64 ^ (level + 1)
    let first := span.first / block
    let last := span.last / block
    if first = last then pieces level span
    else
      let startsInside := span.first % block ≠ 0
      let stopsInside := span.last % block ≠ block - 1
      let head := if startsInside then pieces level ⟨span.first, first * block + block - 1⟩ else 0
      let tail := if stopsInside then pieces level ⟨last * block, span.last⟩ else 0
      let fullFirst := if startsInside then first + 1 else first
      let fullEnd := if stopsInside then last else last + 1
      head + tail + if fullFirst < fullEnd then 1 else 0

/-- Code points by the number of bytes that follow the first in their encoding. -/
def Unicode.encodedLengths : List (Nat × Span) :=
  [(0, ⟨0, 0x7f⟩), (1, ⟨0x80, 0x7ff⟩), (2, ⟨0x800, 0xffff⟩), (3, ⟨0x10000, Span.lastCode⟩)]

/-- The number of byte sequences of ranges that cover a span. -/
def Unicode.Span.sequences (span : Span) : Nat :=
  Unicode.encodedLengths.foldl (fun count (level, part) =>
    let first := max span.first part.first
    let last := min span.last part.last
    count + if first ≤ last then pieces level ⟨first, last⟩ else 0) 0

namespace Expr

/-- The bytes of one state. -/
def stateSize : Nat := 32

/-- The bytes of a state that branches. -/
def branchSize (branches : Nat) : Nat := stateSize + 4 * branches

/-- The bytes of the states for one character of a set. A single character is a chain of its bytes;
sets in ASCII share one state. -/
def charsSize (set : CharSet) : Nat :=
  match set.spans with
  | [⟨first, last⟩] =>
    if first = last then stateSize * (Char.ofNat first).utf8Size
    else if set.isAscii then 2 * stateSize + 8
    else 2 * stateSize + 40 * Span.sequences ⟨first, last⟩
  | spans =>
    if set.isAscii then 2 * stateSize + 8 * spans.length
    else 2 * stateSize + 40 * spans.foldl (fun count span => count + span.sequences) 0

/-- Whether nothing but the empty text can match. -/
def isBlank : Expr → Bool
  | .empty | .look _ _ => true
  | .chars _ => false
  | .seq first second | .alt first second => first.isBlank && second.isBlank
  | .group inner => inner.isBlank
  | .repeated inner _ most => most == some 0 || inner.isBlank

/-- Whether the empty text can match. -/
def canBeEmpty : Expr → Bool
  | .empty | .look _ _ => true
  | .chars _ => false
  | .seq first second => first.canBeEmpty && second.canBeEmpty
  | .alt first second => first.canBeEmpty || second.canBeEmpty
  | .group inner => inner.canBeEmpty
  | .repeated inner least _ => least == 0 || inner.canBeEmpty

/-- The bytes of all states. Repetitions are written out: what has to be there once for each time,
what may be there once more for each further time. -/
def size : Expr → Nat
  | .empty | .look _ _ => stateSize
  | .chars set => charsSize set
  | .seq first second => first.size + second.size
  | .alt first second => first.size + second.size + branchSize 2
  | .group inner => inner.size + 2 * stateSize
  | .repeated inner least most =>
    if inner.isBlank then inner.size + branchSize 2
    else match most with
      | some most =>
        if least = most then max stateSize (least * inner.size)
        else least * inner.size + stateSize + (most - least) * (inner.size + branchSize 2)
      | none =>
        let optional := if least = 0 ∧ inner.canBeEmpty then 2 * branchSize 2 else 0
        max 1 least * inner.size + branchSize 2 + optional

/-- Ten mebibytes. -/
def sizeLimit : Nat := 10 * 1024 * 1024

end Expr

end DebugOutline
