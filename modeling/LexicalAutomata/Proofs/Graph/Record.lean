import LexicalAutomata.Proofs.Graph.Walk

namespace LexicalAutomata.Graph

/-!
# The last record

A simulation goes on until runs stop, or until the text or the nodes are used up.  Its
result is the record behind the greatest number of characters that it comes to and behind
which there is a terminal.
-/

variable {τ : Type} {graph : Graph τ} {searchStart : Nat}

/-- The nodes to which the last of `count` characters leads, before any boundary is judged. -/
def arrived
    (graph : Graph τ)
    (searchStart : Nat)
    (nodes : Set Nat)
    (place : Place) :
    (count : Nat) →
    Set Nat
  | 0 =>
      nodes
  | count + 1 =>
      match place.rest[count]? with
      | none =>
          ∅
      | some char =>
          graph.afterReading char.toNat (graph.reached searchStart nodes place count)

/--
The nodes that are judged behind `count` characters.  Where runs stop whatever boundaries
hold, these are only the nodes that need no boundary.
-/
def judged
    (graph : Graph τ)
    (searchStart : Nat)
    (nodes : Set Nat)
    (place : Place)
    (count : Nat) :
    Set Nat :=
  { node |
    node ∈ graph.reached searchStart nodes place count ∧
      (graph.Stops (graph.spread .empty (graph.arrived searchStart nodes place count)) →
        node ∈ graph.spread .empty (graph.arrived searchStart nodes place count)) }

section Judged

variable {nodes : Set Nat} {place : Place} {count : Nat} {char : Char} {rest : List Char}

/-- One more character is read by reading it first. -/
theorem arrived_succ
    (nodes : Set Nat)
    (ahead : place.rest = char :: rest)
    (count : Nat) :
    graph.arrived searchStart nodes place (count + 1) =
      graph.arrived searchStart
        (graph.afterReading char.toNat (graph.spreadAt searchStart place nodes))
        (place.advance 1) count := by
  have behind : (place.advance 1).rest = rest := by
    rw [Place.rest_advance, ahead]
    rfl
  cases count with
  | zero =>
      simp only [arrived, ahead, List.getElem?_cons_zero, reached_zero]
  | succ count =>
      simp only [arrived, ahead, behind, List.getElem?_cons_succ, reached_succ nodes ahead]

/-- What is reached is what the nodes in front of the boundaries spread to. -/
theorem reached_eq_spreadAt
    (nodes : Set Nat)
    (place : Place)
    (le : count ≤ place.rest.length) :
    graph.reached searchStart nodes place count =
      graph.spreadAt searchStart (place.advance count)
        (graph.arrived searchStart nodes place count) := by
  induction count generalizing nodes place with
  | zero =>
      rw [reached_zero, Place.advance_zero]
      rfl
  | succ count inductionHypothesis =>
      obtain ⟨char, rest, ahead⟩ :=
        List.exists_cons_of_length_pos (Nat.zero_lt_of_lt le)
      have shorter : count ≤ (place.advance 1).rest.length := by
        simp only [Place.rest_advance, List.length_drop]
        omega
      rw [reached_succ nodes ahead, arrived_succ nodes ahead, inductionHypothesis _ _ shorter,
        Place.advance_advance, Nat.add_comm]

theorem judged_subset :
    graph.judged searchStart nodes place count ⊆ graph.reached searchStart nodes place count :=
  fun _ judged => judged.1

/-- Where runs stop whatever boundaries hold, no boundary is judged. -/
theorem judged_of_stops
    (le : count ≤ place.rest.length)
    (stops : graph.Stops (graph.spread .empty (graph.arrived searchStart nodes place count))) :
    graph.judged searchStart nodes place count =
      graph.spread .empty (graph.arrived searchStart nodes place count) := by
  ext node
  constructor
  · exact fun judged => judged.2 stops
  · intro member
    refine ⟨?_, fun _ => member⟩
    rw [reached_eq_spreadAt nodes place le]
    exact spread_mono_holding
      (fun boundary none => (BoundarySet.not_mem_empty boundary none).elim) member

/-- Elsewhere everything that is reached is judged. -/
theorem judged_of_not_stops
    (goesOn :
      ¬ graph.Stops (graph.spread .empty (graph.arrived searchStart nodes place count))) :
    graph.judged searchStart nodes place count = graph.reached searchStart nodes place count :=
  Set.Subset.antisymm judged_subset fun _ member => ⟨member, fun stops => (goesOn stops).elim⟩

theorem judged_zero_of_stops
    (stops : graph.Stops (graph.spread .empty nodes)) :
    graph.judged searchStart nodes place 0 = graph.spread .empty nodes :=
  judged_of_stops (Nat.zero_le _) stops

theorem judged_zero_of_not_stops
    (goesOn : ¬ graph.Stops (graph.spread .empty nodes)) :
    graph.judged searchStart nodes place 0 = graph.spreadAt searchStart place nodes :=
  (judged_of_not_stops goesOn).trans (reached_zero nodes place)

theorem judged_succ
    (nodes : Set Nat)
    (ahead : place.rest = char :: rest)
    (count : Nat) :
    graph.judged searchStart nodes place (count + 1) =
      graph.judged searchStart
        (graph.afterReading char.toNat (graph.spreadAt searchStart place nodes))
        (place.advance 1) count := by
  simp only [judged, reached_succ nodes ahead, arrived_succ nodes ahead]

/-- Without nodes there is nothing to judge. -/
theorem not_hasTerminal_judged_empty :
    ¬ graph.HasTerminal (graph.judged searchStart ∅ place count) := by
  rintro ⟨_, ⟨⟨_, impossible, _⟩, _⟩, _⟩
  exact impossible

/-- What is reached behind some characters has a terminal just when what is judged there has one. -/
theorem hasTerminal_judged_iff
    (le : count ≤ place.rest.length) :
    graph.HasTerminal (graph.judged searchStart nodes place count) ↔
      graph.HasTerminal (graph.reached searchStart nodes place count) := by
  refine ⟨fun terminal => terminal.mono judged_subset, ?_⟩
  intro terminal
  by_cases stops : graph.Stops (graph.spread .empty (graph.arrived searchStart nodes place count))
  · rw [judged_of_stops le stops]
    exact stops.hasTerminal
  · rwa [judged_of_not_stops stops]

end Judged

/--
A simulation comes to the `length`th character and accepts there.  It goes no further, or
it meets no terminal further on.
-/
structure AcceptsLast
    (graph : Graph τ)
    (searchStart : Nat)
    (nodes : Set Nat)
    (place : Place)
    (length : Nat)
    (acceptance : Acceptance τ) : Prop where
  le : length ≤ place.rest.length
  accepts : graph.Accepts (graph.judged searchStart nodes place length) acceptance
  goesOn : ∀ shorter < length, ¬ graph.Stops (graph.judged searchStart nodes place shorter)
  last :
    graph.Stops (graph.judged searchStart nodes place length) ∨
      ∀ longer ≤ place.rest.length,
        graph.HasTerminal (graph.judged searchStart nodes place longer) → longer ≤ length

/-- The last acceptance is recorded; if there is none, the last record stands. -/
def RecordsLast
    (graph : Graph τ)
    (searchStart : Nat)
    (nodes : Set Nat)
    (place : Place)
    (count : Nat)
    (last result : Option (Record τ)) :
    Prop :=
  (∃ length acceptance,
      graph.AcceptsLast searchStart nodes place length acceptance ∧
        result = some ⟨count + length, acceptance⟩) ∨
    ((∀ length ≤ place.rest.length,
        ¬ graph.HasTerminal (graph.judged searchStart nodes place length)) ∧
      result = last)

section RecordsLast

variable {nodes : Set Nat} {place : Place} {count : Nat} {last next result : Option (Record τ)}

/-- What is recorded at the place itself stands, if a run stops there or meets nothing more. -/
theorem Records.recordsLast
    (records : graph.Records (graph.judged searchStart nodes place 0) count last result)
    (nothingMore :
      graph.Stops (graph.judged searchStart nodes place 0) ∨
        ∀ longer < place.rest.length,
          ¬ graph.HasTerminal (graph.judged searchStart nodes place (longer + 1))) :
    graph.RecordsLast searchStart nodes place count last result := by
  rcases records with ⟨acceptance, accepts, rfl⟩ | ⟨silent, rfl⟩
  · refine Or.inl ⟨0, acceptance, ⟨Nat.zero_le _, accepts, ?_, ?_⟩, rfl⟩
    · intro _ impossible
      exact (Nat.not_lt_zero _ impossible).elim
    · apply nothingMore.imp_right
      intro nothingMore longer le terminal
      cases longer with
      | zero =>
          exact Nat.le_refl _
      | succ longer =>
          exact (nothingMore longer le terminal).elim
  · refine Or.inr ⟨?_, rfl⟩
    intro length le terminal
    rcases nothingMore with stops | nothingMore
    · exact silent stops.hasTerminal
    · cases length with
      | zero =>
          exact silent terminal
      | succ length =>
          exact nothingMore length le terminal

/-- What is recorded further on is recorded behind one character more. -/
theorem RecordsLast.onward
    (records : graph.Records (graph.judged searchStart nodes place 0) count last next)
    (runs : ¬ graph.Stops (graph.judged searchStart nodes place 0))
    {char : Char}
    {rest : List Char}
    (ahead : place.rest = char :: rest)
    (later :
      graph.RecordsLast searchStart
        (graph.afterReading char.toNat (graph.spreadAt searchStart place nodes))
        (place.advance 1) (count + 1) next result) :
    graph.RecordsLast searchStart nodes place count last result := by
  have shorter : (place.advance 1).rest.length + 1 = place.rest.length := by
    simp [ahead]
  rcases later with ⟨length, acceptance, ⟨le, accepts, goesOn, furthest⟩, rfl⟩ | ⟨silent, rfl⟩
  · simp only [← judged_succ nodes ahead] at accepts goesOn furthest
    refine Or.inl ⟨length + 1, acceptance, ⟨by omega, accepts, ?_, ?_⟩, ?_⟩
    · intro shorter less
      cases shorter with
      | zero =>
          exact runs
      | succ shorter =>
          exact goesOn shorter (Nat.lt_of_succ_lt_succ less)
    · apply furthest.imp_right
      intro furthest longer longerLe terminal
      cases longer with
      | zero =>
          exact Nat.zero_le _
      | succ longer =>
          exact Nat.succ_le_succ (furthest longer (by omega) terminal)
    · rw [Nat.add_assoc, Nat.add_comm 1]
  · apply records.recordsLast
    right
    intro longer less
    rw [judged_succ nodes ahead]
    exact silent longer (by omega)

/-- A simulation records what it accepts last. -/
theorem Simulation.recordsLast
    (simulation : graph.Simulation searchStart nodes place count last result) :
    graph.RecordsLast searchStart nodes place count last result := by
  induction simulation with
  | stopped stops records =>
      rw [← judged_zero_of_stops stops] at records
      apply records.recordsLast
      rw [judged_zero_of_stops stops]
      exact Or.inl stops
  | @ended nodes place _ _ _ goesOn _ records ends =>
      rw [← judged_zero_of_not_stops goesOn] at records
      apply records.recordsLast
      rw [judged_zero_of_not_stops goesOn]
      apply ends.imp_right
      intro stuck longer less
      obtain ⟨char, rest, ahead⟩ :=
        List.exists_cons_of_length_pos (Nat.zero_lt_of_lt less)
      rw [judged_succ nodes ahead, stuck char rest ahead]
      exact not_hasTerminal_judged_empty
  | onward goesOn _ records runs ahead _ _ inductionHypothesis =>
      rw [← judged_zero_of_not_stops goesOn] at records runs
      exact RecordsLast.onward records runs ahead inductionHypothesis

end RecordsLast

/-- Where no node of a graph is immediate, a simulation never stops. -/
theorem not_stops
    (patient : ∀ id, (graph.node id).immediate = false)
    (nodes : Set Nat) :
    ¬ graph.Stops nodes := by
  rintro ⟨top, _, immediate⟩
  rw [patient top] at immediate
  contradiction

end LexicalAutomata.Graph
