import LexicalAutomata.Automaton.Basic
import LexicalAutomata.Automaton.KeyTable
import LexicalAutomata.Graph.Closure

namespace LexicalAutomata

/-!
# Subset construction

A state of the automaton stands for a closed set of nodes of the graph.  States
are numbered as they are found and expanded in the order of their numbers.  A set
is found by reading a character or by a resolution; in the latter case it is
settled, and is not resolved any further.

Characters are read segment by segment: where the spans of edges begin and end, the
code points are cut, and between two cuts all of them lead to the same nodes.
-/

variable {τ : Type}

namespace Graph

/-- The boundaries that are waited for at the nodes that may count besides the given ones. -/
def awaited
    (graph : Graph τ)
    (members : List Nat) :
    BoundarySet :=
  ((graph.closure .full members).flatMap fun id => (graph.node id).edges).foldl
    (fun set edge => set.union edge.boundaries) .empty

/-- The sets of boundaries that could hold of the awaited ones. -/
def resolutionCandidates
    (graph : Graph τ)
    (members : List Nat) :
    List BoundarySet :=
  let awaited := graph.awaited members
  awaited.subsets.filter fun holding => holding.isRealizableWithin awaited

/-- The resolutions for sets of boundaries, leaving out those that change nothing. -/
def resolutions
    (graph : Graph τ)
    (members : List Nat) :
    List BoundarySet →
    StateM KeyTable (List Resolution)
  | [] =>
      return []
  | holding :: rest =>
      let reached := graph.closure holding members
      if reached = members then
        graph.resolutions members rest
      else do
        let target ← KeyTable.intern ⟨reached, true⟩
        return ⟨holding, target⟩ :: (← graph.resolutions members rest)

/-- The spans of an edge, each with the node behind it. -/
def spansOf : Edge → List Transition
  | .silent _ =>
      []
  | .labelled label target =>
      label.points.intervals.map fun interval => ⟨interval.first, interval.limit, target⟩

/-- The spans of all edges of the given nodes. -/
def spans
    (graph : Graph τ)
    (members : List Nat) :
    List Transition :=
  members.flatMap fun id => (graph.node id).edges.flatMap spansOf

/-- The ends of spans, in ascending order; between two of them all spans are the same. -/
def cuts
    (spans : List Transition) :
    List Nat :=
  ascending (spans.flatMap fun span => [span.first, span.limit])

/-- Add a node to a list that does not hold it yet. -/
def addTarget
    (target : Nat)
    (targets : List Nat) :
    List Nat :=
  if target ∈ targets then
    targets
  else
    targets ++ [target]

/-- Add the node behind a span to the segments from its beginning to its end. -/
def fillSegments
    (cuts : List Nat)
    (segments : List (List Nat))
    (span : Transition) :
    List (List Nat) :=
  let low := partitionPoint (· < span.first) cuts
  let high := partitionPoint (· < span.limit) cuts
  segments.mapIdx fun place targets =>
    if low ≤ place ∧ place < high then
      addTarget span.target targets
    else
      targets

/-- The nodes behind the spans that cover each segment, the stretch from one cut to the next. -/
def segments
    (spans : List Transition) :
    List (List Nat) :=
  spans.foldl (fillSegments (cuts spans)) (.replicate ((cuts spans).length - 1) [])

/-- Put a transition behind others, the last one first, or let the last one reach further. -/
def extendTransitions
    (done : List Transition)
    (transition : Transition) :
    List Transition :=
  match done with
  | [] =>
      [transition]
  | last :: others =>
      if last.limit = transition.first ∧ last.target = transition.target then
        ⟨last.first, transition.limit, last.target⟩ :: others
      else
        transition :: last :: others

/--
The transitions for the segments between the cuts.  What has been found for a list of nodes is
kept, so that its closure is taken once.
-/
def transitionsFrom
    (graph : Graph τ)
    (memo : Std.TreeMap (List Nat) Nat)
    (done : List Transition) :
    (cuts : List Nat) →
    (segments : List (List Nat)) →
    StateM KeyTable (List Transition)
  | first :: limit :: cuts, segment :: segments =>
      if segment.isEmpty then
        graph.transitionsFrom memo done (limit :: cuts) segments
      else do
        let targets := ascending segment
        match memo[targets]? with
        | some target =>
            graph.transitionsFrom memo (extendTransitions done ⟨first, limit, target⟩)
              (limit :: cuts) segments
        | none =>
            let target ← KeyTable.intern ⟨graph.closure .empty targets, false⟩
            graph.transitionsFrom (memo.insert targets target)
              (extendTransitions done ⟨first, limit, target⟩) (limit :: cuts) segments
  | _, _ =>
      return done.reverse

/-- The transitions of a state that stands for the given nodes. -/
def transitions
    (graph : Graph τ)
    (members : List Nat) :
    StateM KeyTable (List Transition) :=
  let spans := graph.spans members
  graph.transitionsFrom ∅ [] (cuts spans) (segments spans)

/-- The state of a set of nodes with a given outcome. -/
def stateOf
    (graph : Graph τ)
    (key : Key)
    (outcome : Outcome τ) :
    StateM KeyTable (State τ) :=
  if outcome.halts then
    return ⟨[], .empty, [], outcome.acceptance⟩
  else do
    let candidates := if key.settled then [] else graph.resolutionCandidates key.members
    let resolutions ← graph.resolutions key.members candidates
    let boundaries := if resolutions.isEmpty then .empty else graph.awaited key.members
    let transitions ← graph.transitions key.members
    return ⟨transitions, boundaries, resolutions, outcome.acceptance⟩

/-- A state for each key that has been found, which is blank until the key is expanded. -/
def withBlanks
    (states : Array (State τ))
    (table : KeyTable) :
    Array (State τ) :=
  states ++ Array.replicate (table.keys.size - states.size) default

/--
Expand the keys from number `next` on, one after the other.  Every key is found
once, so `fuel` need not be greater than the number of possible keys.
-/
def expandFrom
    [DecidableEq τ]
    (graph : Graph τ)
    (next : Nat)
    (states : Array (State τ))
    (table : KeyTable) :
    (fuel : Nat) →
    Except (Ambiguity τ) (Array (State τ))
  | 0 =>
      .ok states
  | fuel + 1 =>
      match table.keys[next]? with
      | none =>
          .ok states
      | some key =>
          match graph.outcome key.members with
          | .error ambiguity =>
              .error ambiguity
          | .ok outcome =>
              let (state, table) := graph.stateOf key outcome table
              graph.expandFrom (next + 1) ((withBlanks states table).setIfInBounds next state) table
                fuel

/-- The number of keys with the nodes of a graph. -/
def keyCount
    (graph : Graph τ) :
    Nat :=
  2 * Nat.pow 2 graph.size

/-- The automaton of the runs that begin at the node `start`. -/
def subsetAutomaton
    [DecidableEq τ]
    (graph : Graph τ)
    (start : Nat) :
    Except (Ambiguity τ) (Automaton τ) :=
  let (first, table) := KeyTable.intern ⟨graph.closure .empty [start], false⟩ .empty
  (graph.expandFrom 0 (withBlanks #[] table) table graph.keyCount).map fun states => ⟨states, first⟩

end Graph

end LexicalAutomata
