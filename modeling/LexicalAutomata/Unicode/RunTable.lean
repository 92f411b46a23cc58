import LexicalAutomata.CodePointSet.Basic

namespace LexicalAutomata.Unicode

/-!
# Tables of code points

A property of characters is tabulated as an ascending array of runs.  A run
steps through its code points with a fixed stride, since many alphabets
alternate between two cases.
-/

/-- The code points `first`, `first + stride`, … up to `last`. -/
structure Run where
  first : Nat
  last : Nat
  stride : Nat
  deriving Repr, DecidableEq

namespace Run

/-- Whether a run steps on a code point. -/
def contains
    (run : Run)
    (codePoint : Nat) :
    Bool :=
  run.first ≤ codePoint && codePoint ≤ run.last &&
    (codePoint - run.first) % run.stride == 0

/-- The code points of a run, in ascending order. -/
def toList
    (run : Run) :
    List Nat :=
  (List.range ((run.last - run.first) / run.stride + 1)).map
    fun step => run.first + step * run.stride

/-- Add the code points of a run to a set. -/
def addTo
    (set : CodePointSet)
    (run : Run) :
    CodePointSet :=
  if run.stride = 1 then
    set.addSpan run.first (run.last + 1)
  else
    run.toList.foldl (fun sum codePoint => sum.addSpan codePoint (codePoint + 1)) set

end Run

/--
Search `entries` for the one whose run reaches a code point, between the
positions `low` and `high`, where `bounds` tells the first and the last code
point of an entry.
-/
def searchRun
    {α : Type}
    (bounds : α → Nat × Nat)
    (entries : Array α)
    (codePoint low high : Nat) :
    Option α :=
  if low < high then
    let middle := (low + high) / 2
    match entries[middle]? with
    | none =>
        none
    | some entry =>
        if codePoint < (bounds entry).1 then
          searchRun bounds entries codePoint low middle
        else if (bounds entry).2 < codePoint then
          searchRun bounds entries codePoint (middle + 1) high
        else
          some entry
  else
    none
  termination_by high - low

/-- An ascending array of runs. -/
structure RunTable where
  runs : Array Run

namespace RunTable

/-- Whether some run of the table steps on a code point. -/
def contains
    (table : RunTable)
    (codePoint : Nat) :
    Bool :=
  (searchRun (fun run => (run.first, run.last)) table.runs codePoint 0 table.runs.size).any
    fun run => run.contains codePoint

/-- The code points of a table as a set. -/
def toSet
    (table : RunTable) :
    CodePointSet :=
  table.runs.foldl Run.addTo .empty

end RunTable

end LexicalAutomata.Unicode
