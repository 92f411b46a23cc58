import LexicalAutomata.Proofs.Automaton.Pruning
import LexicalAutomata.Proofs.Text.Place

namespace LexicalAutomata.Automaton

/-!
# The automaton of a graph

The pruned automaton of a graph finds what the simulation of the graph records.  When
every closure has an outcome, there is such an automaton.
-/

variable {τ : Type} [DecidableEq τ] {graph : Graph τ} {start : Nat} {automaton : Automaton τ}

/-- What the automaton of a graph finds at a place is what the simulation records there. -/
theorem finds_of_ofGraph
    (built : Automaton.ofGraph graph start = .ok automaton)
    (place : Place)
    (searchStart : Nat) :
    ∃ result,
      graph.Simulation searchStart {start} place 0 none result ∧
        automaton.Finds (automaton.longestAt place searchStart) result := by
  obtain ⟨whole, constructed, rfl⟩ := exists_of_map_eq_ok built
  obtain ⟨keys, determinizes⟩ := Graph.determinizes_subsetAutomaton constructed
  obtain ⟨result, simulation, finds⟩ := determinizes.simulation_longestAt place searchStart
  refine ⟨result, simulation, ?_⟩
  rw [determinizes.longestAt_prune]
  unfold Finds at finds ⊢
  simpa only [acceptance_prune] using finds

/-- There is an automaton of a graph exactly when every explored key has an outcome. -/
theorem exists_ofGraph_iff
    (graph : Graph τ)
    (start : Nat) :
    (∃ automaton, Automaton.ofGraph graph start = .ok automaton) ↔
      ∀ key, graph.Explored start key → ∃ outcome, graph.outcome key.members = .ok outcome := by
  rw [← graph.exists_subsetAutomaton_iff]
  constructor
  · rintro ⟨automaton, built⟩
    obtain ⟨whole, constructed, _⟩ := exists_of_map_eq_ok built
    exact ⟨whole, constructed⟩
  · rintro ⟨whole, constructed⟩
    rw [ofGraph, constructed]
    exact ⟨_, rfl⟩

/-- There is an automaton of a graph when every closure has an outcome. -/
theorem exists_ofGraph
    (graph : Graph τ)
    (start : Nat)
    (agree :
      ∀ key, graph.IsClosureKey key →
        ∃ outcome, graph.outcome key.members = .ok outcome) :
    ∃ automaton, Automaton.ofGraph graph start = .ok automaton :=
  (exists_ofGraph_iff graph start).mpr fun key explored => agree key explored.isClosureKey

/--
The set simulation of a graph has exactly one result at every place, and the automaton
finds the match with the same length, end, token, priority and ender, or none.
-/
theorem ofGraph_simulates
    (built : Automaton.ofGraph graph start = .ok automaton)
    (place : Place)
    (searchStart : Nat) :
    ∃ result,
      graph.Simulation searchStart {start} place 0 none result ∧
        (∀ other,
          graph.Simulation searchStart {start} place 0 none other → other = result) ∧
          (automaton.longestAt place searchStart).map
              (fun found =>
                (found.length, found.endOffset place, automaton.acceptance found.state)) =
            result.map fun record =>
              (record.length, (place.advance record.length).offset, some record.acceptance) := by
  obtain ⟨result, simulation, finds⟩ := finds_of_ofGraph built place searchStart
  refine ⟨result, simulation, fun other otherSimulation => otherSimulation.unique simulation, ?_⟩
  have ends := congrArg
    (Option.map fun pair : Nat × Option (Acceptance τ) =>
      (pair.1, (place.advance pair.1).offset, pair.2)) finds
  simpa only [Option.map_map, Function.comp_def, Place.offset_advance, Found.endOffset] using ends

/-- A graph that reads the letter a at the start of a word. -/
def letterGraph : Graph Unit :=
  ⟨#[{ edges := [.labelled (.ofBoundary .wordEdge) 1] },
    { edges := [.labelled (.ofChar 'a') 2] },
    { token := some () }]⟩

theorem simulation_letterGraph :
    ∃ result,
      letterGraph.Simulation 0 {0} (.start ['a', '-']) 0 none result ∧
        result.map Record.length = some 1 := by
  have found :
      ((Automaton.ofGraph letterGraph 0).toOption.map fun automaton =>
        (automaton.longestAt (.start ['a', '-']) 0).map Found.length) = some (some 1) := by
    decide +kernel
  cases built : Automaton.ofGraph letterGraph 0 with
  | error ambiguity =>
      rw [built] at found
      contradiction
  | ok automaton =>
      obtain ⟨result, simulation, _, same⟩ := ofGraph_simulates built (.start ['a', '-']) 0
      refine ⟨result, simulation, ?_⟩
      rw [built] at found
      have lengths := congrArg (Option.map Prod.fst) same
      simp only [Option.map_map, Function.comp_def] at lengths
      exact lengths.symm.trans (Option.some.inj found)

end LexicalAutomata.Automaton
