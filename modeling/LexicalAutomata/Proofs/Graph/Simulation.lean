import LexicalAutomata.Proofs.Graph.Terminals
import LexicalAutomata.Text.Place

namespace LexicalAutomata

/-!
# Simulating a graph on a text

A simulation keeps the set of all nodes to which a run may have come.  At each place
the set spreads as far as the boundaries that hold there allow, what it accepts then is
recorded, and the next character is read from all of its nodes at once.  The last record
counts.
-/

/-- What a simulation recorded, and how many characters it had read by then. -/
structure Record (τ : Type) where
  count : Nat
  acceptance : Acceptance τ

/-- The characters of the match: its end is moved back by the ender, but not past its start. -/
def Record.length
    {τ : Type}
    (record : Record τ) :
    Nat :=
  record.count - record.acceptance.enderLength

namespace Graph

variable {τ : Type} {graph : Graph τ}

/-- All terminals that count have the same token. -/
def Agrees
    (graph : Graph τ)
    (nodes : Set Nat) :
    Prop :=
  ∀ first second,
    graph.IsTop nodes first → graph.IsTop nodes second →
      (graph.node first).token = (graph.node second).token

/-- A list has an outcome when the terminals that count in its set agree, and only then. -/
theorem Lists.exists_outcome_iff
    [DecidableEq τ]
    {members : List Nat}
    {nodes : Set Nat}
    (lists : graph.Lists members nodes) :
    (∃ outcome, graph.outcome members = .ok outcome) ↔ graph.Agrees nodes := by
  constructor
  · rintro ⟨outcome, found⟩ first second firstTop secondTop
    have hasOutcome := lists.hasOutcome found
    cases accepted : outcome.acceptance with
    | none =>
        exact (hasOutcome.silent.mp accepted ⟨first, firstTop.member, firstTop.terminal⟩).elim
    | some acceptance =>
        have accepts := (hasOutcome.acceptance acceptance).mp accepted
        rw [accepts.token first firstTop, accepts.token second secondTop]
  · intro agrees
    cases found : graph.outcome members with
    | ok outcome =>
        exact ⟨outcome, rfl⟩
    | error ambiguity =>
        obtain ⟨nodup, several, mem_iff⟩ := lists.ambiguous found
        match tokens : ambiguity.tokens with
        | [] | [_] =>
            simp [tokens] at several
        | first :: second :: _ =>
            rw [tokens] at nodup mem_iff
            obtain ⟨top, isTop, stored⟩ := (mem_iff first).mp (by simp)
            obtain ⟨other, otherTop, otherStored⟩ := (mem_iff second).mp (by simp)
            have same := agrees top other isTop otherTop
            rw [stored, otherStored] at same
            simp [Option.some.inj same] at nodup

/-- The record in a set behind `count` characters: what it accepts, or else the last record. -/
def Records
    (graph : Graph τ)
    (nodes : Set Nat)
    (count : Nat)
    (last next : Option (Record τ)) :
    Prop :=
  (∃ acceptance, graph.Accepts nodes acceptance ∧ next = some ⟨count, acceptance⟩) ∨
    (¬ graph.HasTerminal nodes ∧ next = last)

/-- The nodes that count at a place, where those boundaries hold that its surroundings show. -/
def spreadAt
    (graph : Graph τ)
    (searchStart : Nat)
    (place : Place)
    (nodes : Set Nat) :
    Set Nat :=
  graph.spread (place.surroundings searchStart).holding nodes

/--
The simulation from a place on, with the nodes behind the `count` characters that have
been read and the last record so far, ends with the record `result`.  The terminals that
count agree in every set that is used.
-/
inductive Simulation
    (graph : Graph τ)
    (searchStart : Nat) :
    (nodes : Set Nat) →
    (place : Place) →
    (count : Nat) →
    (last result : Option (Record τ)) →
    Prop where
  /-- Runs stop here, whatever boundaries hold. -/
  | stopped
      {nodes : Set Nat}
      {place : Place}
      {count : Nat}
      {last result : Option (Record τ)} :
      graph.Stops (graph.spread .empty nodes) →
      graph.Records (graph.spread .empty nodes) count last result →
      Simulation graph searchStart nodes place count last result
  /-- Runs stop here, or there is no way on. -/
  | ended
      {nodes : Set Nat}
      {place : Place}
      {count : Nat}
      {last result : Option (Record τ)} :
      ¬ graph.Stops (graph.spread .empty nodes) →
      graph.Agrees (graph.spread .empty nodes) →
      graph.Records (graph.spreadAt searchStart place nodes) count last result →
      (graph.Stops (graph.spreadAt searchStart place nodes) ∨
        ∀ char rest,
          place.rest = char :: rest →
            graph.afterReading char.toNat (graph.spreadAt searchStart place nodes) = ∅) →
      Simulation graph searchStart nodes place count last result
  /-- The next character is read. -/
  | onward
      {nodes : Set Nat}
      {place : Place}
      {count : Nat}
      {last next result : Option (Record τ)}
      {char : Char}
      {rest : List Char} :
      ¬ graph.Stops (graph.spread .empty nodes) →
      graph.Agrees (graph.spread .empty nodes) →
      graph.Records (graph.spreadAt searchStart place nodes) count last next →
      ¬ graph.Stops (graph.spreadAt searchStart place nodes) →
      place.rest = char :: rest →
      (graph.afterReading char.toNat (graph.spreadAt searchStart place nodes)).Nonempty →
      Simulation graph searchStart
        (graph.afterReading char.toNat (graph.spreadAt searchStart place nodes))
        (place.advance 1) (count + 1) next result →
      Simulation graph searchStart nodes place count last result

theorem Accepts.agrees
    {nodes : Set Nat}
    {acceptance : Acceptance τ}
    (accepts : graph.Accepts nodes acceptance) :
    graph.Agrees nodes := by
  intro first second firstTop secondTop
  rw [accepts.token first firstTop, accepts.token second secondTop]

/-- What is recorded is determined. -/
theorem Records.unique
    {nodes : Set Nat}
    {count : Nat}
    {last first second : Option (Record τ)}
    (firstRecords : graph.Records nodes count last first)
    (secondRecords : graph.Records nodes count last second) :
    first = second := by
  rcases firstRecords with ⟨acceptance, accepts, rfl⟩ | ⟨silent, rfl⟩
  · rcases secondRecords with ⟨other, otherAccepts, rfl⟩ | ⟨otherSilent, _⟩
    · rw [accepts.unique otherAccepts]
    · exact (otherSilent accepts.hasTerminal).elim
  · rcases secondRecords with ⟨other, otherAccepts, _⟩ | ⟨_, rfl⟩
    · exact (silent otherAccepts.hasTerminal).elim
    · rfl

/-- The result of a simulation is determined. -/
theorem Simulation.unique
    {searchStart : Nat}
    {nodes : Set Nat}
    {place : Place}
    {count : Nat}
    {last first second : Option (Record τ)}
    (simulation : graph.Simulation searchStart nodes place count last first)
    (other : graph.Simulation searchStart nodes place count last second) :
    first = second := by
  induction simulation with
  | stopped stops records =>
      cases other with
      | stopped _ otherRecords =>
          exact records.unique otherRecords
      | ended goesOn =>
          exact (goesOn stops).elim
      | onward goesOn =>
          exact (goesOn stops).elim
  | ended goesOn _ records ends =>
      cases other with
      | stopped stops =>
          exact (goesOn stops).elim
      | ended _ _ otherRecords =>
          exact records.unique otherRecords
      | onward _ _ _ runs ahead read =>
          rcases ends with stops | stuck
          · exact (runs stops).elim
          · rw [stuck _ _ ahead] at read
            exact (Set.not_nonempty_empty read).elim
  | onward goesOn _ records runs ahead read _ inductionHypothesis =>
      cases other with
      | stopped stops =>
          exact (goesOn stops).elim
      | ended _ _ _ ends =>
          rcases ends with stops | stuck
          · exact (runs stops).elim
          · rw [stuck _ _ ahead] at read
            exact (Set.not_nonempty_empty read).elim
      | onward _ _ otherRecords _ otherAhead _ otherRest =>
          rw [ahead] at otherAhead
          cases otherAhead
          rw [records.unique otherRecords] at inductionHypothesis
          exact inductionHypothesis otherRest

end Graph

end LexicalAutomata
