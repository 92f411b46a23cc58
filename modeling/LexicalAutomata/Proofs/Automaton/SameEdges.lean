import LexicalAutomata.Proofs.Automaton.Domination
import LexicalAutomata.Proofs.Automaton.ScanLengths
import LexicalAutomata.Proofs.Graph.Record
import LexicalAutomata.Proofs.Graph.SameEdges

namespace LexicalAutomata

/-!
# Graphs that differ in their terminals

When two graphs have the same edges, a key leads to the same keys in both of them wherever
its runs go on.  A run that may not go on has come to a state that accepts something, so it
is no shorter in the one graph than in the other: the least lengths of two automata with
the same terminal nodes differ by their enders only.
-/

variable {τ : Type}

namespace Graph

variable {graph other : Graph τ}

section SameEdges

variable (same : graph.SameEdges other)

include same

theorem SameEdges.closure_eq
    (holding : BoundarySet)
    (seeds : List Nat) :
    graph.closure holding seeds = other.closure holding seeds := by
  have targets : graph.freeTargets holding = other.freeTargets holding := by
    funext id
    rw [freeTargets, freeTargets, same.edges]
  rw [closure, closure, same.size, targets]

theorem SameEdges.spans_eq
    (members : List Nat) :
    graph.spans members = other.spans members := by
  simp only [spans, same.edges]

theorem SameEdges.candidates_eq
    (key : Key) :
    graph.candidates key = other.candidates key := by
  simp only [candidates, resolutionCandidates, awaited, same.closure_eq, same.edges]

theorem SameEdges.startKey_eq
    (start : Nat) :
    graph.startKey start = other.startKey start := by
  rw [startKey, startKey, same.closure_eq]

/-- A key leads to the same keys, provided that its runs go on in the other graph as well. -/
theorem SameEdges.keyStep
    [DecidableEq τ]
    {length : Nat}
    {key next : Key}
    (step : graph.KeyStep length key next)
    (goesOn : other.GoesOn key) :
    other.KeyStep length key next := by
  cases step with
  | resolving _ candidate changes =>
      rw [same.candidates_eq] at candidate
      rw [same.closure_eq] at changes ⊢
      exact .resolving goesOn candidate changes
  | reading _ read =>
      rw [same.spans_eq] at read ⊢
      rw [same.closure_eq]
      exact .reading goesOn read

end SameEdges

variable [DecidableEq τ] {start : Nat} {keys : Array Key} {automaton : Automaton τ} {id : Nat}
  {key : Key}

/-- An explored key lists its members. -/
theorem Explored.lists
    (explored : graph.Explored start key) :
    graph.Lists key.members { id | id ∈ key.members } := by
  obtain ⟨holding, seeds, same⟩ := explored.isClosureKey
  intro id
  constructor
  · intro member
    refine ⟨?_, member⟩
    rw [same] at member
    exact (mem_closure_iff.mp member).1
  · exact fun both => both.2

/-- The ender of a state is that of a terminal node of its key. -/
theorem Determinizes.exists_enderLength
    (determinizes : graph.Determinizes start keys automaton)
    (numbered : keys[id]? = some key)
    (explored : graph.Explored start key)
    {acceptance : Acceptance τ}
    (accepted : automaton.acceptance id = some acceptance) :
    ∃ top,
      (graph.node top).token.isSome = true ∧
        (graph.node top).enderLength = acceptance.enderLength := by
  have stands : graph.StandsFor keys key.settled id { id | id ∈ key.members } :=
    ⟨key.members, numbered, explored.lists⟩
  obtain ⟨top, isTop, same⟩ :=
    ((determinizes.acceptance_eq_some_iff stands).mp accepted).ender.1
  exact ⟨top, isTop.terminal, same⟩

/-- A run leads to the state of an explored key. -/
theorem Determinizes.exists_explored_of_run
    (determinizes : graph.Determinizes start keys automaton)
    (numbered : keys[id]? = some key)
    (explored : graph.Explored start key)
    {edges characters last : Nat}
    (run : automaton.Run Set.univ edges characters id last) :
    ∃ lastKey, keys[last]? = some lastKey ∧ graph.Explored start lastKey := by
  induction run generalizing key with
  | nil _ =>
      exact ⟨key, numbered, explored⟩
  | cons _ leads _ inductionHypothesis =>
      obtain ⟨_, step, nextNumbered⟩ := determinizes.keyStep_of_mem_edges numbered leads
      exact inductionHypothesis nextNumbered (explored.step step)

/-- Where all terminal nodes have the same ender, it is taken off every accepted run. -/
theorem Determinizes.mem_acceptedLengths_iff
    (determinizes : graph.Determinizes start keys automaton)
    {enderLength : Nat}
    (enders :
      ∀ id, (graph.node id).token.isSome = true → (graph.node id).enderLength = enderLength)
    (length : Int) :
    length ∈ automaton.acceptedLengths automaton.start ↔
      ∃ edges characters last,
        automaton.Run Set.univ edges characters automaton.start last ∧
          automaton.acceptance last ≠ none ∧ length = characters - enderLength := by
  have same :
      ∀ {edges characters last acceptance},
        automaton.Run Set.univ edges characters automaton.start last →
          automaton.acceptance last = some acceptance →
            acceptance.enderLength = enderLength := by
    intro edges characters last acceptance run accepted
    obtain ⟨lastKey, lastNumbered, explored⟩ :=
      determinizes.exists_explored_of_run determinizes.start .start run
    obtain ⟨top, terminal, ender⟩ :=
      determinizes.exists_enderLength lastNumbered explored accepted
    rw [← ender, enders top terminal]
  constructor
  · rintro ⟨edges, characters, last, acceptance, run, accepted, rfl⟩
    rw [same run accepted]
    exact ⟨edges, characters, last, run, Option.ne_none_iff_exists'.mpr ⟨acceptance, accepted⟩,
      rfl⟩
  · rintro ⟨edges, characters, last, run, accepts, rfl⟩
    obtain ⟨acceptance, accepted⟩ := Option.ne_none_iff_exists'.mp accepts
    rw [← same run accepted]
    exact ⟨edges, characters, last, acceptance, run, accepted, rfl⟩

/-- Without immediate terminals, runs go on at every key. -/
theorem Determinizes.goesOn_of_patient
    (determinizes : graph.Determinizes start keys automaton)
    (patient : ∀ id, (graph.node id).immediate = false)
    (numbered : keys[id]? = some key)
    (explored : graph.Explored start key) :
    graph.GoesOn key := by
  obtain ⟨outcome, found, _⟩ := determinizes.realizes id key numbered
  refine ⟨outcome, found, ?_⟩
  rw [← Bool.not_eq_true, (explored.lists.hasOutcome found).halts]
  exact not_stops patient _

/-- Terminals of two graphs are at the same nodes. -/
def SameTerminals
    (graph other : Graph τ) :
    Prop :=
  ∀ id, (graph.node id).token.isSome = (other.node id).token.isSome

omit [DecidableEq τ] in
theorem SameTerminals.terminals_eq_nil
    (terminals : graph.SameTerminals other)
    {members : List Nat}
    (none : graph.terminals members = []) :
    other.terminals members = [] := by
  rw [List.eq_nil_iff_forall_not_mem] at none ⊢
  intro terminal member
  obtain ⟨id, listed, stored, _⟩ := mem_terminals_iff.mp member
  have isTerminal := terminals id
  rw [stored] at isTerminal
  obtain ⟨token, otherStored⟩ := Option.isSome_iff_exists.mp isTerminal
  exact none (token, graph.node id) (mem_terminals_iff.mpr ⟨id, listed, otherStored, rfl⟩)

end Graph

namespace Automaton

open LexicalAutomata.Graph

section Twins

variable [DecidableEq τ] {graph other : Graph τ} {start : Nat} {keys otherKeys : Array Key}
  {automaton twin : Automaton τ} {edges characters id counterpart last : Nat}

/--
The automata of two graphs with the same edges and terminal nodes, the first of which has
no immediate terminals.
-/
structure Twins
    (graph other : Graph τ)
    (start : Nat)
    (keys otherKeys : Array Key)
    (automaton twin : Automaton τ) : Prop where
  determinizes : graph.Determinizes start keys automaton
  twinDeterminizes : other.Determinizes start otherKeys twin
  edges : graph.SameEdges other
  terminals : graph.SameTerminals other
  patient : ∀ id, (graph.node id).immediate = false

/-- Two states belong to the same key. -/
def ShareKey
    (graph other : Graph τ)
    (start : Nat)
    (keys otherKeys : Array Key)
    (id counterpart : Nat) :
    Prop :=
  ∃ key,
    keys[id]? = some key ∧
      otherKeys[counterpart]? = some key ∧
        graph.Explored start key ∧ other.Explored start key

/-- Both automata begin with the same key. -/
theorem Twins.shareKey_start
    (twins : Twins graph other start keys otherKeys automaton twin) :
    ShareKey graph other start keys otherKeys automaton.start twin.start := by
  have same := twins.edges.startKey_eq start
  refine ⟨_, twins.determinizes.start, ?_, .start, ?_⟩
  · rw [same]
    exact twins.twinDeterminizes.start
  · rw [same]
    exact .start

/-- States of the same key accept something in both automata, or in neither. -/
theorem Twins.acceptance_eq_none_iff
    (twins : Twins graph other start keys otherKeys automaton twin)
    (shares : ShareKey graph other start keys otherKeys id counterpart) :
    automaton.acceptance id = none ↔ twin.acceptance counterpart = none := by
  obtain ⟨key, numbered, twinNumbered, _, _⟩ := shares
  obtain ⟨outcome, found, realizes⟩ := twins.determinizes.realizes id key numbered
  obtain ⟨twinOutcome, twinFound, twinRealizes⟩ :=
    twins.twinDeterminizes.realizes counterpart key twinNumbered
  have first : automaton.acceptance id = outcome.acceptance := realizes.acceptance
  have second : twin.acceptance counterpart = twinOutcome.acceptance := twinRealizes.acceptance
  rw [first, second]
  constructor
  · intro silent
    have none := (outcome_of_silent found silent).1
    exact silent_of_terminals twinFound (twins.terminals.terminals_eq_nil none)
  · intro silent
    have none := (outcome_of_silent twinFound silent).1
    have terminals : other.SameTerminals graph := fun id => (twins.terminals id).symm
    exact silent_of_terminals found (terminals.terminals_eq_nil none)

/-- A run of the twin is also a run of the automaton that always goes on. -/
theorem Twins.run_of_twin
    (twins : Twins graph other start keys otherKeys automaton twin)
    (shares : ShareKey graph other start keys otherKeys id counterpart)
    (run : twin.Run Set.univ edges characters counterpart last) :
    ∃ target,
      automaton.Run Set.univ edges characters id target ∧
        ShareKey graph other start keys otherKeys target last := by
  induction run generalizing id with
  | nil _ =>
      exact ⟨id, .nil (Set.mem_univ _), shares⟩
  | cons _ leads _ inductionHypothesis =>
      obtain ⟨key, numbered, twinNumbered, explored, twinExplored⟩ := shares
      obtain ⟨nextKey, step, nextNumbered⟩ :=
        twins.twinDeterminizes.keyStep_of_mem_edges twinNumbered leads
      have ownStep := twins.edges.symm.keyStep step
        (twins.determinizes.goesOn_of_patient twins.patient numbered explored)
      obtain ⟨next, ownLeads, ownNumbered⟩ :=
        twins.determinizes.mem_edges_of_keyStep numbered ownStep
      obtain ⟨target, rest, targetShares⟩ :=
        inductionHypothesis
          ⟨nextKey, ownNumbered, nextNumbered, explored.step ownStep, twinExplored.step step⟩
      exact ⟨target, .cons (Set.mem_univ _) ownLeads rest, targetShares⟩

/-- An accepted run is one of the twin, up to the first state that accepts something. -/
theorem Twins.exists_twin_run
    (twins : Twins graph other start keys otherKeys automaton twin)
    (shares : ShareKey graph other start keys otherKeys id counterpart)
    (run : automaton.Run Set.univ edges characters id last)
    (accepts : automaton.acceptance last ≠ none) :
    ∃ fewer less target,
      less ≤ characters ∧
        twin.Run Set.univ fewer less counterpart target ∧ twin.acceptance target ≠ none := by
  induction run generalizing counterpart with
  | nil _ =>
      refine ⟨0, 0, counterpart, Nat.le_refl _, .nil (Set.mem_univ _), ?_⟩
      rwa [Ne, ← twins.acceptance_eq_none_iff shares]
  | cons _ leads _ inductionHypothesis =>
      by_cases silent : twin.acceptance counterpart = none
      · obtain ⟨key, numbered, twinNumbered, explored, twinExplored⟩ := shares
        obtain ⟨nextKey, step, nextNumbered⟩ :=
          twins.determinizes.keyStep_of_mem_edges numbered leads
        have twinStep := twins.edges.keyStep step
          (twins.twinDeterminizes.goesOn_of_silent twinNumbered silent)
        obtain ⟨next, twinLeads, twinNextNumbered⟩ :=
          twins.twinDeterminizes.mem_edges_of_keyStep twinNumbered twinStep
        obtain ⟨fewer, less, target, le, rest, accepted⟩ :=
          inductionHypothesis
            ⟨nextKey, nextNumbered, twinNextNumbered, explored.step step,
              twinExplored.step twinStep⟩
            accepts
        exact ⟨fewer + 1, _, target, Nat.add_le_add_left le _,
          .cons (Set.mem_univ _) twinLeads rest, accepted⟩
      · exact ⟨0, 0, counterpart, Nat.zero_le _, .nil (Set.mem_univ _), silent⟩

/-- The least length of the twin is smaller by its ender. -/
theorem Twins.minLength_prune_eq
    (twins : Twins graph other start keys otherKeys automaton twin)
    (endless : ∀ id, (graph.node id).enderLength = 0)
    {enderLength : Nat}
    (enders :
      ∀ id, (other.node id).token.isSome = true → (other.node id).enderLength = enderLength) :
    twin.prune.minLength = automaton.prune.minLength - enderLength := by
  have own := twins.determinizes.mem_acceptedLengths_iff fun id _ => endless id
  have others := twins.twinDeterminizes.mem_acceptedLengths_iff enders
  rcases (automaton.prune.acceptedLengths automaton.start).eq_empty_or_nonempty with
    empty | nonempty
  · -- A run of the twin would be an accepted run of the automaton.
    have twinEmpty : twin.prune.acceptedLengths twin.prune.start = ∅ := by
      rw [acceptedLengths_prune, Set.eq_empty_iff_forall_notMem]
      intro length member
      obtain ⟨edges, characters, last, run, accepts, _⟩ := (others _).mp member
      obtain ⟨target, ownRun, shares⟩ := twins.run_of_twin twins.shareKey_start run
      rw [acceptedLengths_prune] at empty
      apply Set.eq_empty_iff_forall_notMem.mp empty
      exact (own _).mpr ⟨edges, characters, target, ownRun,
        fun silent => accepts ((twins.acceptance_eq_none_iff shares).mp silent), rfl⟩
    rw [(lengths_of_acceptedLengths_eq_empty twinEmpty).1,
      (lengths_of_acceptedLengths_eq_empty empty).1, Nat.zero_sub]
  · obtain ⟨least, isLeast⟩ := exists_isLeast nonempty
    have ownMember := isLeast.1
    rw [acceptedLengths_prune] at ownMember
    obtain ⟨edges, characters, last, run, accepts, rfl⟩ := (own _).mp ownMember
    have shortest :
        ∀ {edges others target},
          twin.Run Set.univ edges others twin.start target →
            twin.acceptance target ≠ none → characters ≤ others := by
      intro edges others target twinRun twinAccepts
      obtain ⟨last, ownRun, shares⟩ := twins.run_of_twin twins.shareKey_start twinRun
      have member := (own _).mpr ⟨edges, others, last, ownRun,
        fun silent => twinAccepts ((twins.acceptance_eq_none_iff shares).mp silent), rfl⟩
      rw [← acceptedLengths_prune] at member
      have := isLeast.2 member
      omega
    obtain ⟨fewer, less, target, le, twinRun, twinAccepts⟩ :=
      twins.exists_twin_run twins.shareKey_start run accepts
    cases Nat.le_antisymm le (shortest twinRun twinAccepts)
    have twinLeast :
        IsLeast (twin.prune.acceptedLengths twin.prune.start)
          (characters - enderLength) := by
      rw [acceptedLengths_prune]
      refine ⟨(others _).mpr ⟨fewer, _, target, twinRun, twinAccepts, rfl⟩, ?_⟩
      intro length member
      obtain ⟨_, _, _, otherRun, otherAccepts, rfl⟩ := (others _).mp member
      have := shortest otherRun otherAccepts
      omega
    rw [minLength_eq_of_isLeast isLeast, minLength_eq_of_isLeast twinLeast]
    omega

end Twins

end Automaton

end LexicalAutomata
