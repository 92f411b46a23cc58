import LexicalAutomata.Automaton.OfGraph

namespace LexicalAutomata

/-!
# Pruning

A state is live when an accepting state can be reached from it.  What leads to
any other state is dropped, for no run along it can be accepted.
-/

variable {τ : Type}

/-- Drop what leads to a state that is not wanted. -/
def State.restrict
    (state : State τ)
    (wanted : Nat → Bool) :
    State τ :=
  let resolutions := state.resolutions.filter fun resolution => wanted resolution.target
  { state with
    transitions := state.transitions.filter fun transition => wanted transition.target
    boundaries := if resolutions.isEmpty then .empty else state.boundaries
    resolutions }

namespace Automaton

/-- Enter a state as a predecessor of each of its successors. -/
def addPredecessor
    (automaton : Automaton τ)
    (table : Array (List Nat))
    (id : Nat) :
    Array (List Nat) :=
  (automaton.successors id).foldl
    (fun table successor => table.modify successor fun predecessors => id :: predecessors)
    table

/-- For each state, the states that lead to it. -/
def predecessors
    (automaton : Automaton τ) :
    Array (List Nat) :=
  (List.range automaton.size).foldl automaton.addPredecessor
    (Array.replicate automaton.size [])

/-- The states that accept something. -/
def acceptingStates
    (automaton : Automaton τ) :
    List Nat :=
  (List.range automaton.size).filter fun id => (automaton.acceptance id).isSome

/-- The states from which an accepting state can be reached. -/
def live
    (automaton : Automaton τ) :
    StateSet :=
  let predecessors := automaton.predecessors
  StateSet.reachable automaton.size (fun id => predecessors[id]?.getD [])
    automaton.acceptingStates

/-- Drop what leads to a state that is not live. -/
def prune
    (automaton : Automaton τ) :
    Automaton τ :=
  let live := automaton.live
  { automaton with states := automaton.states.map fun state => state.restrict live.contains }

/-- The pruned automaton of the runs that begin at the node `start`. -/
def ofGraph
    [DecidableEq τ]
    (graph : Graph τ)
    (start : Nat) :
    Except (Ambiguity τ) (Automaton τ) :=
  (graph.subsetAutomaton start).map prune

end Automaton

end LexicalAutomata
