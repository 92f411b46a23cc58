import LexicalAutomata.Proofs.Automaton.Standing

namespace LexicalAutomata

/-!
# A scan simulates the graph

The automaton of the subset construction, before anything is dropped from it, finds at
every place what the simulation of the graph records.
-/

variable {τ : Type}

/-- What a scan has found is what a simulation has recorded. -/
def Automaton.Finds
    (automaton : Automaton τ)
    (found : Option Found)
    (record : Option (Record τ)) :
    Prop :=
  found.map (fun found => (found.length, automaton.acceptance found.state)) =
    record.map fun record => (record.length, some record.acceptance)

/-- A scan ends at once in a state that leads nowhere. -/
theorem Automaton.scanFrom_of_halted
    {automaton : Automaton τ}
    {id : Nat}
    {acceptance : Option (Acceptance τ)}
    (halted : automaton.state id = ⟨[], .empty, [], acceptance⟩)
    (searchStart count : Nat)
    (found : Option Found)
    (before : Option Char)
    (offset : Nat)
    (rest : List Char) :
    automaton.scanFrom searchStart id count found before offset rest =
      automaton.foundAt id count found := by
  have settle : ∀ here, automaton.settle id here = id := by
    intro here
    unfold Automaton.settle Automaton.boundaries
    rw [halted]
    rfl
  cases rest with
  | nil =>
      simp only [Automaton.scanFrom, settle]
  | cons char rest =>
      have stuck : automaton.next? id char = none := by
        rw [Automaton.next?, halted]
        rfl
      simp only [Automaton.scanFrom, settle, stuck]

namespace Graph

variable [DecidableEq τ] {graph : Graph τ} {start : Nat} {keys : Array Key}
  {automaton : Automaton τ} {settled : Bool} {id : Nat} {nodes : Set Nat}
  {count : Nat} {found : Option Found} {last : Option (Record τ)}

/-- What is found in a state is what is recorded in the nodes it stands for. -/
theorem Determinizes.records_foundAt
    (determinizes : graph.Determinizes start keys automaton)
    (stands : graph.StandsFor keys settled id nodes)
    (finds : automaton.Finds found last)
    (count : Nat) :
    ∃ next,
      graph.Records nodes count last next ∧
        automaton.Finds (automaton.foundAt id count found) next := by
  unfold Automaton.foundAt
  cases accepted : automaton.acceptance id with
  | none =>
      refine ⟨last, Or.inr ⟨?_, rfl⟩, finds⟩
      exact (determinizes.acceptance_eq_none_iff stands).mp accepted
  | some acceptance =>
      refine ⟨some ⟨count, acceptance⟩, Or.inl ⟨acceptance, ?_, rfl⟩, ?_⟩
      · exact (determinizes.acceptance_eq_some_iff stands).mp accepted
      · simp [Automaton.Finds, Record.length, accepted]

/-- What a scan finds from a state on is what a simulation records from its nodes on. -/
theorem Determinizes.simulation_scanFrom
    (determinizes : graph.Determinizes start keys automaton)
    (searchStart : Nat)
    (stands : graph.StandsFor keys false id (graph.spread .empty nodes))
    (finds : automaton.Finds found last)
    (count : Nat)
    (before : Option Char)
    (offset : Nat)
    (rest : List Char) :
    ∃ result,
      graph.Simulation searchStart nodes ⟨before, offset, rest⟩ count last result ∧
        automaton.Finds
          (automaton.scanFrom searchStart id count found before offset rest) result := by
  induction rest generalizing id nodes count found last before offset with
  | nil =>
      by_cases stops : graph.Stops (graph.spread .empty nodes)
      · obtain ⟨result, records, resultFinds⟩ := determinizes.records_foundAt stands finds count
        rw [Automaton.scanFrom_of_halted (determinizes.state_of_stops stands stops)]
        exact ⟨result, .stopped stops records, resultFinds⟩
      · obtain ⟨_, settledStands⟩ := determinizes.standsFor_settle stands stops
          ((Place.mk before offset []).surroundings searchStart)
        obtain ⟨result, records, resultFinds⟩ :=
          determinizes.records_foundAt settledStands finds count
        refine ⟨result, .ended stops (determinizes.agrees stands) records (Or.inr ?_),
          resultFinds⟩
        intro char rest impossible
        contradiction
  | cons char rest inductionHypothesis =>
      by_cases stops : graph.Stops (graph.spread .empty nodes)
      · obtain ⟨result, records, resultFinds⟩ := determinizes.records_foundAt stands finds count
        rw [Automaton.scanFrom_of_halted (determinizes.state_of_stops stands stops)]
        exact ⟨result, .stopped stops records, resultFinds⟩
      · obtain ⟨_, settledStands⟩ := determinizes.standsFor_settle stands stops
          ((Place.mk before offset (char :: rest)).surroundings searchStart)
        obtain ⟨next, records, nextFinds⟩ :=
          determinizes.records_foundAt settledStands finds count
        have agrees := determinizes.agrees stands
        rw [Automaton.scanFrom]
        split
        · rename_i stuck
          refine ⟨next, .ended stops agrees records ?_, nextFinds⟩
          by_cases settledStops :
              graph.Stops (graph.spreadAt searchStart ⟨before, offset, char :: rest⟩ nodes)
          · exact Or.inl settledStops
          · refine Or.inr fun other others ahead => ?_
            cases ahead
            exact (determinizes.next?_eq_none_iff settledStands settledStops char).mp stuck
        · rename_i target moves
          obtain ⟨result, simulation, resultFinds⟩ :=
            inductionHypothesis (determinizes.standsFor_next settledStands moves) nextFinds
              (count + 1) (some char) (offset + char.utf8Size)
          have goesOn :
              ¬ graph.Stops
                (graph.spreadAt searchStart ⟨before, offset, char :: rest⟩ nodes) := by
            intro settledStops
            rw [Automaton.next?, determinizes.state_of_stops settledStands settledStops] at moves
            contradiction
          refine ⟨result, .onward stops agrees records goesOn rfl ?_ simulation, resultFinds⟩
          rw [Set.nonempty_iff_ne_empty]
          intro stuck
          rw [(determinizes.next?_eq_none_iff settledStands goesOn char).mpr stuck] at moves
          contradiction

/-- The automaton finds at every place what the simulation from the start node records. -/
theorem Determinizes.simulation_longestAt
    (determinizes : graph.Determinizes start keys automaton)
    (place : Place)
    (searchStart : Nat) :
    ∃ result,
      graph.Simulation searchStart {start} place 0 none result ∧
        automaton.Finds (automaton.longestAt place searchStart) result := by
  have finds : automaton.Finds none none :=
    rfl
  exact determinizes.simulation_scanFrom searchStart determinizes.standsFor_start finds 0
    place.before place.offset place.rest

end Graph

end LexicalAutomata
