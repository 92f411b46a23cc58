import LexicalAutomata.Boundary.Basic
import LexicalAutomata.CodePoint

namespace LexicalAutomata

/-!
# Entries of a label

An entry is what a label is put together from: a span of code points or a
single boundary.  Spans are bounded by 32-bit words.
-/

/-- A span of code points, or a boundary. -/
inductive Entry where
  /-- The code points from `first` up to, but not including, `limit`. -/
  | span (first limit : UInt32)
  | boundary (boundary : Boundary)
  deriving Repr, DecidableEq

namespace Entry

/-- The span from `first` up to `limit`, cut off at the end of the domain. -/
def ofSpan
    (first limit : UInt32) :
    Entry :=
  .span first (min limit (UInt32.ofNat codePointLimit))

/-- The span of a single character. -/
def ofChar
    (char : Char) :
    Entry :=
  .span char.val (char.val + 1)

/-- Whether an entry is a boundary. -/
def isBoundary : Entry → Bool
  | .span .. =>
      false
  | .boundary _ =>
      true

/-- Whether a code point lies in the span; a boundary contains none. -/
def contains
    (entry : Entry)
    (codePoint : UInt32) :
    Bool :=
  match entry with
  | .span first limit =>
      first ≤ codePoint && codePoint < limit
  | .boundary _ =>
      false

/-- The distance between the ends of a span, in 32-bit arithmetic; a boundary has size zero. -/
def size : Entry → UInt32
  | .span first limit =>
      limit - first
  | .boundary _ =>
      0

/-- Whether an entry has size zero. -/
def isEmpty
    (entry : Entry) :
    Bool :=
  entry.size == 0

end Entry

end LexicalAutomata
