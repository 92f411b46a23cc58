import LexicalAutomata.Graph.OfExpression
import LexicalAutomata.Proofs.Graph.Adding

namespace LexicalAutomata.Build

/-!
# What combinators do to a graph

Each combinator as a function of the graph: the nodes that it adds have the next numbers, and
the edges that it adds come behind them.
-/

variable {τ : Type}

theorem empty_eq
    (graph : Graph τ) :
    empty graph =
      (⟨graph.size, graph.size + 1⟩,
        graph.addNode.addNode.addEdge graph.size (.silent (graph.size + 1))) := by
  rw [← Graph.size_addNode]
  rfl

theorem label_eq
    (label : Label)
    (graph : Graph τ) :
    Build.label label graph =
      (⟨graph.size, graph.size + 1⟩,
        graph.addNode.addNode.addEdge graph.size (.labelled label (graph.size + 1))) := by
  rw [← Graph.size_addNode]
  rfl

theorem star_eq
    (inner : Fragment)
    (graph : Graph τ) :
    star inner graph =
      (⟨graph.size, graph.size + 1⟩,
        (((graph.addNode.addNode.link inner.last inner.first).link graph.size inner.first).link
          inner.last (graph.size + 1)).link graph.size (graph.size + 1)) := by
  rw [← Graph.size_addNode]
  rfl

theorem enclose_nil
    (first last : Nat)
    (graph : Graph τ) :
    enclose first last [] graph = ((), graph) :=
  rfl

theorem enclose_cons
    (first last : Nat)
    (inner : Fragment)
    (rest : List Fragment)
    (graph : Graph τ) :
    enclose first last (inner :: rest) graph =
      enclose first last rest ((graph.link first inner.first).link inner.last last) :=
  rfl

/-- A union is made of two new nodes and everything between them. -/
theorem union_eq
    (fragments : List Fragment)
    (graph : Graph τ) :
    union fragments graph =
      (⟨graph.size, graph.size + 1⟩,
        (enclose graph.size (graph.size + 1) fragments graph.addNode.addNode).2) := by
  rw [← Graph.size_addNode]
  rfl

theorem alternatives_of_several
    {fragments : List Fragment}
    (several : ¬ ∃ only, fragments = [only]) :
    (alternatives fragments : Build τ Fragment) = union fragments := by
  unfold alternatives
  split
  · rename_i only
    exact (several ⟨only, rfl⟩).elim
  · rfl

/-- The copies are linked to the common exit behind them, if there are any. -/
theorem optionalLabels_eq
    (copy : Build τ Fragment)
    (former : Option Fragment)
    (count : Nat)
    (graph : Graph τ) :
    optionalLabels copy former count graph =
      match skippableCopies copy former [] count graph with
      | ((none, _), built) =>
          (none, built)
      | ((some whole, entries), built) =>
          (some whole, (linkAll whole.last entries built).2) := by
  rcases made : skippableCopies copy former [] count graph with ⟨⟨_ | whole, entries⟩, built⟩ <;>
    simp only [optionalLabels, bind, StateT.bind, made] <;>
    rfl

end LexicalAutomata.Build
