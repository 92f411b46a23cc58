import LexicalAutomata.Proofs.Automaton.OfGraph
import LexicalAutomata.Proofs.Graph.Record

namespace LexicalAutomata

/-!
# The longest match

What the automaton finds is what the simulation of its graph accepts last.  Where no run is
cut short and no ender is taken off, that is the greatest number of characters behind which
a walk has come to a terminal node.
-/

variable {τ : Type}

/-- Runs are never cut short, and enders are never taken off. -/
structure Graph.Plain
    (graph : Graph τ) : Prop where
  patient : ∀ id, (graph.node id).immediate = false
  endless : ∀ id, (graph.node id).enderLength = 0

theorem Graph.Plain.enderLength_eq_zero
    {graph : Graph τ}
    (plain : graph.Plain)
    {nodes : Set Nat}
    {acceptance : Acceptance τ}
    (accepts : graph.Accepts nodes acceptance) :
    acceptance.enderLength = 0 := by
  obtain ⟨top, _, same⟩ := accepts.ender.1
  rw [← same, plain.endless]

/-- A match that is found is the longest one. -/
structure Automaton.IsLongest
    (graph : Graph τ)
    (start searchStart : Nat)
    (place : Place)
    (found : Found)
    (acceptance : Acceptance τ) : Prop where
  le : found.length ≤ place.rest.length
  accepts :
    graph.Accepts (graph.reached searchStart {start} place found.length) acceptance
  longest :
    ∀ longer ≤ place.rest.length,
      graph.HasTerminal (graph.reached searchStart {start} place longer) →
        longer ≤ found.length

section OfGraph

variable [DecidableEq τ] {graph : Graph τ} {start : Nat} {automaton : Automaton τ}

/-- The automaton finds what a simulation accepts last, or there is nothing to accept. -/
theorem Automaton.acceptsLast_or_none
    (built : Automaton.ofGraph graph start = .ok automaton)
    (place : Place)
    (searchStart : Nat) :
    (∃ found acceptance count,
        automaton.longestAt place searchStart = some found ∧
          automaton.acceptance found.state = some acceptance ∧
            found.length = count - acceptance.enderLength ∧
              graph.AcceptsLast searchStart {start} place count acceptance) ∨
      (automaton.longestAt place searchStart = none ∧
        ∀ count ≤ place.rest.length,
          ¬ graph.HasTerminal (graph.reached searchStart {start} place count)) := by
  obtain ⟨result, simulation, finds⟩ := finds_of_ofGraph built place searchStart
  unfold Finds at finds
  rcases simulation.recordsLast with ⟨count, acceptance, acceptsLast, rfl⟩ | ⟨silent, rfl⟩
  · left
    obtain ⟨found, isFound, same⟩ := Option.map_eq_some_iff.mp finds
    obtain ⟨sameLength, sameAcceptance⟩ := Prod.mk.inj same
    rw [Nat.zero_add] at sameLength
    exact ⟨found, acceptance, count, isFound, sameAcceptance, sameLength, acceptsLast⟩
  · right
    refine ⟨Option.map_eq_none_iff.mp finds, ?_⟩
    intro count le terminal
    exact silent count le ((Graph.hasTerminal_judged_iff le).mpr terminal)

/-- The automaton finds the longest match with what it accepts, or there is no match. -/
theorem Automaton.isLongest_or_none
    (built : Automaton.ofGraph graph start = .ok automaton)
    (plain : graph.Plain)
    (place : Place)
    (searchStart : Nat) :
    (∃ found acceptance,
        automaton.longestAt place searchStart = some found ∧
          automaton.acceptance found.state = some acceptance ∧
            IsLongest graph start searchStart place found acceptance) ∨
      (automaton.longestAt place searchStart = none ∧
        ∀ length ≤ place.rest.length,
          ¬ graph.HasTerminal (graph.reached searchStart {start} place length)) := by
  have whole :
      ∀ count,
        graph.judged searchStart {start} place count =
          graph.reached searchStart {start} place count :=
    fun _ => Graph.judged_of_not_stops (Graph.not_stops plain.patient _)
  refine (acceptsLast_or_none built place searchStart).imp_left ?_
  rintro ⟨found, acceptance, count, isFound, accepting, sameLength, le, accepts, _, last⟩
  rw [plain.enderLength_eq_zero accepts, Nat.sub_zero] at sameLength
  subst sameLength
  rcases last with stops | furthest
  · exact (Graph.not_stops plain.patient _ stops).elim
  · simp only [whole] at accepts furthest
    exact ⟨found, acceptance, isFound, accepting, le, accepts, furthest⟩

end OfGraph

end LexicalAutomata
