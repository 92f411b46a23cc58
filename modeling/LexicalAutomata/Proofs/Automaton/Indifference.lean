import LexicalAutomata.Automaton.Scan
import LexicalAutomata.Proofs.Automaton.Pruning
import LexicalAutomata.Proofs.Graph.Beside

namespace LexicalAutomata

/-!
# What an automaton does not depend on

No state waits for a boundary that is on no edge of the graph, and no state takes an ender
off when no node of the graph has one.  Surroundings that differ only in boundaries for which
a state does not wait settle it in the same way.
-/

variable {τ : Type}

namespace Automaton

/-- No state waits for a boundary. -/
def Ignores
    (automaton : Automaton τ)
    (boundary : Boundary) :
    Prop :=
  ∀ id, boundary ∉ automaton.boundaries id

/-- No state takes an ender off what it accepts. -/
def Endless
    (automaton : Automaton τ) :
    Prop :=
  ∀ id acceptance, automaton.acceptance id = some acceptance → acceptance.enderLength = 0

/-- Only the boundaries for which a state waits matter to how it is settled. -/
theorem settle_congr
    {automaton : Automaton τ}
    {id : Nat}
    {here there : Surroundings}
    (same :
      ∀ boundary,
        boundary ∈ automaton.boundaries id → here.holds boundary = there.holds boundary) :
    automaton.settle id here = automaton.settle id there := by
  have sameSet :
      here.holding.inter (automaton.boundaries id) =
        there.holding.inter (automaton.boundaries id) := by
    apply BoundarySet.ext
    intro boundary
    simp only [BoundarySet.mem_inter, Surroundings.mem_holding]
    exact and_congr_left fun awaited => by rw [same boundary awaited]
  unfold boundaries at sameSet
  simp only [settle, resolve, State.resolved?, sameSet]

theorem boundaries_prune
    {automaton : Automaton τ}
    {id : Nat}
    {boundary : Boundary}
    (awaited : boundary ∈ automaton.prune.boundaries id) :
    boundary ∈ automaton.boundaries id := by
  rw [boundaries, state_prune] at awaited
  simp only [State.restrict] at awaited
  split at awaited
  · exact (BoundarySet.not_mem_empty boundary awaited).elim
  · exact awaited

section OfGraph

variable [DecidableEq τ] {graph : Graph τ} {start : Nat} {automaton : Automaton τ}

/-- A boundary that no edge of the graph waits for is ignored. -/
theorem ignores_of_ofGraph
    {boundary : Boundary}
    (built : Automaton.ofGraph graph start = .ok automaton)
    (unawaited : graph.Bears fun label => boundary ∉ label.boundaries) :
    automaton.Ignores boundary := by
  obtain ⟨whole, constructed, rfl⟩ := exists_of_map_eq_ok built
  intro id awaited
  replace awaited := boundaries_prune awaited
  unfold boundaries at awaited
  rcases Graph.realizes_of_subsetAutomaton constructed id with
    same | ⟨keys, key, outcome, _, _, realizes⟩
  · rw [same] at awaited
    exact BoundarySet.not_mem_empty boundary awaited
  · cases halts : outcome.halts with
    | true =>
        rw [realizes.halted halts] at awaited
        exact BoundarySet.not_mem_empty boundary awaited
    | false =>
        rw [realizes.boundaries halts] at awaited
        split at awaited
        · exact BoundarySet.not_mem_empty boundary awaited
        · obtain ⟨node, _, edge, member, waits⟩ := Graph.mem_awaited_iff.mp awaited
          have fits := unawaited node edge member
          cases edge with
          | silent =>
              exact BoundarySet.not_mem_empty boundary waits
          | labelled =>
              exact fits.1 waits

/-- Without enders in the graph, none is taken off. -/
theorem endless_of_ofGraph
    (built : Automaton.ofGraph graph start = .ok automaton)
    (endless : ∀ id, (graph.node id).enderLength = 0) :
    automaton.Endless := by
  obtain ⟨whole, constructed, rfl⟩ := exists_of_map_eq_ok built
  intro id acceptance accepted
  rw [acceptance_prune] at accepted
  unfold Automaton.acceptance at accepted
  rcases Graph.realizes_of_subsetAutomaton constructed id with
    same | ⟨keys, key, outcome, ⟨holding, seeds, closure⟩, found, realizes⟩
  · rw [same] at accepted
    contradiction
  · rw [closure] at found
    have hasOutcome := (Graph.lists_closure holding seeds).hasOutcome found
    rw [realizes.acceptance, hasOutcome.acceptance] at accepted
    obtain ⟨⟨top, _, same⟩, _⟩ := accepted.ender
    rw [← same]
    exact endless top

end OfGraph

end Automaton

end LexicalAutomata
