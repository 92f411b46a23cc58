import LexicalAutomata.Graph.Basic
import Mathlib.Logic.Relation

namespace LexicalAutomata

/-!
# Routes

What it takes to go along a labelled edge is left open here: a label may lead from one
point to another, and a silent edge leads nowhere else.  The points are places of a text
for a search, and what is left of a word where there is no text around it.
-/

variable {τ σ : Type}

/-- An edge leads from one point to another. -/
def Edge.Passes
    (crossing : Label → σ → σ → Prop) :
    Edge →
    σ →
    σ →
    Prop
  | .silent _, source, target =>
      source = target
  | .labelled label _, source, target =>
      crossing label source target

namespace Graph

/-- An edge leads from one node and point to another node and point. -/
def Moves
    (graph : Graph τ)
    (crossing : Label → σ → σ → Prop)
    (source target : Nat × σ) :
    Prop :=
  ∃ edge ∈ (graph.node source.1).edges,
    edge.target = target.1 ∧ edge.Passes crossing source.2 target.2

/-- Any number of moves, one behind the other. -/
def Route
    (graph : Graph τ)
    (crossing : Label → σ → σ → Prop) :
    Nat × σ →
    Nat × σ →
    Prop :=
  Relation.ReflTransGen (graph.Moves crossing)

end Graph

end LexicalAutomata
