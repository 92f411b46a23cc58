import LexicalAutomata.CodePointSet.Folding
import LexicalAutomata.Label.Entry

namespace LexicalAutomata

/-!
# Labels

A label says when an edge of a state graph may be taken: by reading a character
from its set of code points, or without reading anything while one of its
boundaries holds.  Character classes of expressions are labels too.
-/

/-- A set of code points together with a set of boundaries. -/
structure Label where
  points : CodePointSet
  boundaries : BoundarySet
  deriving DecidableEq

namespace Label

/-- The label of an edge that is never taken. -/
def empty : Label :=
  ⟨.empty, .empty⟩

instance : Inhabited Label :=
  ⟨empty⟩

/-- The label with the given code points and no boundary. -/
def ofPoints
    (points : CodePointSet) :
    Label :=
  ⟨points, .empty⟩

/-- The label of every code point. -/
def anyChar : Label :=
  ofPoints .full

/-- The label of one character. -/
def ofChar
    (char : Char) :
    Label :=
  ofPoints (CodePointSet.empty.addChar char)

/-- The label of one boundary. -/
def ofBoundary
    (boundary : Boundary) :
    Label :=
  ⟨.empty, .singleton boundary⟩

/-- Add the code points of the domain from `first` to below `limit`. -/
def addSpan
    (label : Label)
    (first limit : Nat) :
    Label :=
  { label with points := label.points.addSpan first limit }

/-- Add one character. -/
def addChar
    (label : Label)
    (char : Char) :
    Label :=
  { label with points := label.points.addChar char }

/-- Add a span or a boundary. -/
def addEntry
    (label : Label) :
    Entry → Label
  | .span first limit =>
      label.addSpan first.toNat limit.toNat
  | .boundary boundary =>
      { label with boundaries := label.boundaries.union (.singleton boundary) }

/-- Add every entry of a list. -/
def addEntries
    (label : Label)
    (entries : List Entry) :
    Label :=
  entries.foldl addEntry label

/-- The label of the entries of a list. -/
def ofEntries
    (entries : List Entry) :
    Label :=
  empty.addEntries entries

/-- Add a character in both of its cases. -/
def addCharFolded
    (label : Label)
    (char : Char) :
    Label :=
  { label with points := label.points.addCharFolded char }

/-- Add a span and the case counterparts of all of its characters. -/
def addSpanFolded
    (label : Label)
    (first limit : Nat) :
    Label :=
  { label with points := label.points.addSpanFolded first limit }

/-- Everything that either label has. -/
def union
    (label other : Label) :
    Label :=
  ⟨label.points.union other.points, label.boundaries.union other.boundaries⟩

/-- The other code points of the domain, with the same boundaries. -/
def compl
    (label : Label) :
    Label :=
  { label with points := label.points.compl }

/-- What both labels have. -/
def inter
    (label other : Label) :
    Label :=
  ⟨label.points.inter other.points, label.boundaries.inter other.boundaries⟩

/-- Whether a label has neither code points nor boundaries. -/
def isEmpty
    (label : Label) :
    Bool :=
  label.points.isEmpty && label.boundaries.isEmpty

/-- The maximal spans in ascending order, then the boundaries. -/
def entries
    (label : Label) :
    List Entry :=
  label.points.intervals.map
      (fun interval => .span (.ofNat interval.first) (.ofNat interval.limit)) ++
    label.boundaries.toList.map .boundary

end Label

end LexicalAutomata
