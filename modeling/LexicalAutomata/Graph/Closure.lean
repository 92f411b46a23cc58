import LexicalAutomata.Graph.Basic
import LexicalAutomata.StateSet

namespace LexicalAutomata.Graph

/-!
# What can be reached in a graph
-/

variable {τ : Type}

/-- Where the edges of a node lead. -/
def targets
    (graph : Graph τ)
    (id : Nat) :
    List Nat :=
  (graph.node id).edges.map Edge.target

/-- Where the edges of a node lead that are taken without reading. -/
def freeTargets
    (graph : Graph τ)
    (holding : BoundarySet)
    (id : Nat) :
    List Nat :=
  ((graph.node id).edges.filter (Edge.isFree holding)).map Edge.target

/-- The number of nodes that can be reached from a node. -/
def reachableCount
    (graph : Graph τ)
    (id : Nat) :
    Nat :=
  (StateSet.reachable graph.size graph.targets [id]).size

/--
The nodes that can be reached from `seeds` without reading while the given
boundaries hold, in ascending order.
-/
def closure
    (graph : Graph τ)
    (holding : BoundarySet)
    (seeds : List Nat) :
    List Nat :=
  (StateSet.reachable graph.size (graph.freeTargets holding) seeds).toSorted

end LexicalAutomata.Graph
