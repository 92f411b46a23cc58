import LexicalAutomata.Boundary.Basic
import LexicalAutomata.Unicode.Alphanumeric

namespace LexicalAutomata

/-!
# The boundaries that hold at a place

`Surroundings` is what a boundary can see of the text around a place: the
character in front of it, the characters after it, and whether the input or
the current search starts there.
-/

/-- What surrounds a place in a text. -/
structure Surroundings where
  /-- The character in front of the place. -/
  before : Option Char
  /-- The characters from the place on, of which at most three matter. -/
  ahead : List Char
  /-- The place is the start of the input. -/
  atInputStart : Bool
  /-- The place is where the current search started. -/
  atSearchStart : Bool

namespace Surroundings

/-- A line ends in front of either of these characters. -/
def isLineTerminator
    (char : Char) :
    Bool :=
  char == '\n' || char == '\r'

/-- Words consist of letters, numbers and underscores. -/
def isWordChar
    (char : Char) :
    Bool :=
  Unicode.isAlphanumeric char || char == '_'

/-- Exactly one of the two neighbouring characters belongs to a word. -/
def atWordEdge
    (here : Surroundings) :
    Bool :=
  here.before.any isWordChar != here.ahead.head?.any isWordChar

/-- Nothing but at most one line terminator follows; a carriage return and a line feed are one. -/
def onLastLineEnd
    (here : Surroundings) :
    Bool :=
  match here.ahead with
  | [] =>
      true
  | [only] =>
      isLineTerminator only
  | [first, second] =>
      first == '\r' && second == '\n'
  | _ =>
      false

/-- Whether a boundary holds at a place. -/
def holds
    (here : Surroundings) :
    Boundary → Bool
  | .lineStart =>
      here.atInputStart || here.before.any isLineTerminator
  | .lineEnd =>
      here.ahead.isEmpty || here.ahead.head?.any isLineTerminator
  | .wordEdge =>
      here.atWordEdge
  | .noWordEdge =>
      !here.atWordEdge
  | .inputStart =>
      here.atInputStart
  | .searchStart =>
      here.atSearchStart
  | .lastLineEnd =>
      here.onLastLineEnd
  | .inputEnd =>
      here.ahead.isEmpty

/-- The boundaries that hold at a place. -/
def holding
    (here : Surroundings) :
    BoundarySet :=
  BoundarySet.ofList (Boundary.all.filter here.holds)

@[simp] theorem mem_holding
    {here : Surroundings}
    {boundary : Boundary} :
    boundary ∈ here.holding ↔ here.holds boundary = true := by
  simp [holding, Boundary.mem_all]

theorem contains_holding
    {here : Surroundings}
    {boundary : Boundary} :
    here.holding.contains boundary = here.holds boundary := by
  rw [Bool.eq_iff_iff, BoundarySet.contains_iff, mem_holding]

/-- A line ends wherever only a last line end follows. -/
theorem lineEnd_of_lastLineEnd
    {here : Surroundings}
    (last : here.holds .lastLineEnd = true) :
    here.holds .lineEnd = true := by
  simp only [holds, onLastLineEnd] at last
  simp only [holds]
  split at last <;> simp_all [isLineTerminator]

theorem lastLineEnd_of_inputEnd
    {here : Surroundings}
    (ended : here.holds .inputEnd = true) :
    here.holds .lastLineEnd = true := by
  simp only [holds, List.isEmpty_iff] at ended
  simp [holds, onLastLineEnd, ended]

/-- What holds at a place, restricted to any set of boundaries, is realizable within that set. -/
theorem holding_isRealizableWithin
    (here : Surroundings)
    (within : BoundarySet) :
    (here.holding.inter within).isRealizableWithin within = true := by
  have wordEdges : here.holds .noWordEdge = !here.holds .wordEdge := rfl
  have lastLineFollows : here.holds .inputEnd = true → here.holds .lastLineEnd = true :=
    lastLineEnd_of_inputEnd
  have lineEndFollows : here.holds .lastLineEnd = true → here.holds .lineEnd = true :=
    lineEnd_of_lastLineEnd
  have lineStartFollows : here.holds .inputStart = true → here.holds .lineStart = true := by
    intro started
    simp only [holds] at started
    simp [holds, started]
  simp only [BoundarySet.isRealizableWithin, BoundarySet.wordEdgeDecided,
    BoundarySet.implications, BoundarySet.contains_inter, contains_holding, wordEdges,
    List.all_cons, List.all_nil]
  clear wordEdges
  generalize here.holds .wordEdge = word
  generalize here.holds .inputEnd = inputEnd at *
  generalize here.holds .lastLineEnd = lastLineEnd at *
  generalize here.holds .lineEnd = lineEnd at *
  generalize here.holds .inputStart = inputStart at *
  generalize here.holds .lineStart = lineStart at *
  cases word <;> cases within.contains .wordEdge <;> cases within.contains .noWordEdge <;>
    cases within.contains .lastLineEnd <;> cases within.contains .lineEnd <;>
    cases within.contains .lineStart <;> simp <;> grind

end Surroundings

end LexicalAutomata
