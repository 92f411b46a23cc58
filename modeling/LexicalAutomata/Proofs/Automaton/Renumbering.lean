import LexicalAutomata.Proofs.Automaton.Bisimulation
import LexicalAutomata.Proofs.Automaton.OfGraph
import LexicalAutomata.Proofs.Graph.Renumbering

namespace LexicalAutomata

/-!
# The automata of renumbered graphs

When the nodes of a graph get other numbers, so do the members of the keys that the subset
construction explores, and the states may be found in another order.  Keys that correspond
have the same outcome and lead to keys that correspond.  So one construction succeeds when
the other one does, and the automata do the same.
-/

variable {τ : Type}

namespace Graph

variable {renumber : Equiv.Perm Nat} {graph other : Graph τ}

theorem HasOutcome.unique
    {nodes : Set Nat}
    {first second : Outcome τ}
    (has : graph.HasOutcome nodes first)
    (alsoHas : graph.HasOutcome nodes second) :
    first = second := by
  obtain ⟨acceptance, halts⟩ := first
  obtain ⟨otherAcceptance, otherHalts⟩ := second
  have sameHalts : halts = otherHalts := by
    rw [Bool.eq_iff_iff]
    exact has.halts.trans alsoHas.halts.symm
  have sameAcceptance : acceptance = otherAcceptance := by
    apply Option.ext
    intro value
    exact (has.acceptance value).trans (alsoHas.acceptance value).symm
  rw [sameHalts, sameAcceptance]

theorem Renumbered.hasOutcome
    (renumbered : Renumbered renumber graph other)
    {nodes : Set Nat}
    {outcome : Outcome τ}
    (has : graph.HasOutcome nodes outcome) :
    other.HasOutcome (renumber '' nodes) outcome where
  acceptance acceptance :=
    (has.acceptance acceptance).trans renumbered.accepts_iff.symm
  silent :=
    has.silent.trans (not_congr renumbered.hasTerminal_iff.symm)
  halts :=
    has.halts.trans renumbered.stops_iff.symm

/-- The members of a key are those of another one under other numbers. -/
structure Counterparts
    (renumber : Equiv.Perm Nat)
    (graph other : Graph τ)
    (key counterpart : Key) : Prop where
  settled : key.settled = counterpart.settled
  ascending : key.members.Pairwise (· < ·)
  ascendingToo : counterpart.members.Pairwise (· < ·)
  lists :
    ∃ nodes,
      graph.Lists key.members nodes ∧ other.Lists counterpart.members (renumber '' nodes)

section Counterparts

variable {key counterpart next : Key}

theorem Counterparts.symm
    (counterparts : Counterparts renumber graph other key counterpart) :
    Counterparts renumber.symm other graph counterpart key where
  settled :=
    counterparts.settled.symm
  ascending :=
    counterparts.ascendingToo
  ascendingToo :=
    counterparts.ascending
  lists := by
    obtain ⟨nodes, lists, otherLists⟩ := counterparts.lists
    refine ⟨renumber '' nodes, otherLists, ?_⟩
    rw [Equiv.symm_image_image]
    exact lists

/-- The keys of closures of corresponding sets correspond. -/
theorem counterparts_of_lists
    (settled : Bool)
    {holding : BoundarySet}
    {seeds otherSeeds : List Nat}
    {nodes : Set Nat}
    (lists : graph.Lists (graph.closure holding seeds) nodes)
    (otherLists : other.Lists (other.closure holding otherSeeds) (renumber '' nodes)) :
    Counterparts renumber graph other ⟨graph.closure holding seeds, settled⟩
      ⟨other.closure holding otherSeeds, settled⟩ where
  settled :=
    rfl
  ascending :=
    pairwise_ascending _
  ascendingToo :=
    pairwise_ascending _
  lists :=
    ⟨nodes, lists, otherLists⟩

/-- The keys of the start nodes correspond. -/
theorem Renumbered.counterparts_start
    (renumbered : Renumbered renumber graph other)
    (start : Nat) :
    Counterparts renumber graph other (graph.startKey start)
      (other.startKey (renumber start)) := by
  refine counterparts_of_lists false (graph.lists_startKey start) ?_
  rw [← renumbered.spread_image, Set.image_singleton]
  exact other.lists_startKey _

/-- Corresponding keys await the same boundaries. -/
theorem Renumbered.mem_awaited
    (renumbered : Renumbered renumber graph other)
    (counterparts : Counterparts renumber graph other key counterpart)
    {boundary : Boundary}
    (awaited : boundary ∈ graph.awaited key.members) :
    boundary ∈ other.awaited counterpart.members := by
  obtain ⟨nodes, lists, otherLists⟩ := counterparts.lists
  obtain ⟨id, member, edge, edgeMember, waits⟩ := mem_awaited_iff.mp awaited
  obtain ⟨inside, reached⟩ := (lists.closure .full id).mp member
  refine mem_awaited_iff.mpr ⟨renumber id, ?_, edge.renumber renumber,
    renumbered.edges id edge edgeMember, by simpa using waits⟩
  refine (otherLists.closure .full _).mpr ⟨renumbered.lt_size inside, ?_⟩
  rw [renumbered.spread_image]
  exact Set.mem_image_of_mem _ reached

/-- Corresponding keys may be resolved for the same boundaries. -/
theorem Renumbered.candidates_eq
    (renumbered : Renumbered renumber graph other)
    (counterparts : Counterparts renumber graph other key counterpart) :
    graph.candidates key = other.candidates counterpart := by
  have same : graph.awaited key.members = other.awaited counterpart.members := by
    apply BoundarySet.ext
    intro boundary
    exact ⟨renumbered.mem_awaited counterparts,
      renumbered.symm.mem_awaited counterparts.symm⟩
  rw [candidates, candidates, resolutionCandidates, resolutionCandidates, same,
    counterparts.settled]

/-- What does not change a key does not change the one that corresponds to it. -/
theorem Renumbered.closure_eq
    (renumbered : Renumbered renumber graph other)
    (counterparts : Counterparts renumber graph other key counterpart)
    {holding : BoundarySet}
    (unchanged : other.closure holding counterpart.members = counterpart.members) :
    graph.closure holding key.members = key.members := by
  obtain ⟨nodes, lists, otherLists⟩ := counterparts.lists
  have closed := otherLists.closure holding
  rw [unchanged, renumbered.spread_image] at closed
  -- Renumbering does not keep the order of the members, but both lists ascend.
  have ascending : (graph.closure holding key.members).Pairwise (· < ·) :=
    pairwise_ascending _
  refine List.Pairwise.eq_of_mem_iff ascending counterparts.ascending ?_
  intro id
  rw [lists.closure holding id, lists id]
  refine and_congr_right fun inside => ?_
  have there := renumbered.lt_size inside
  have both := (closed (renumber id)).symm.trans (otherLists (renumber id))
  simpa only [there, true_and, renumber.injective.mem_set_image] using both

section Outcome

variable [DecidableEq τ]

/-- Corresponding keys have the same outcome. -/
theorem Renumbered.outcome
    (renumbered : Renumbered renumber graph other)
    (counterparts : Counterparts renumber graph other key counterpart)
    {outcome : Outcome τ}
    (found : graph.outcome key.members = .ok outcome) :
    other.outcome counterpart.members = .ok outcome := by
  obtain ⟨nodes, lists, otherLists⟩ := counterparts.lists
  have agrees := renumbered.agrees (lists.exists_outcome_iff.mp ⟨outcome, found⟩)
  obtain ⟨otherOutcome, otherFound⟩ := otherLists.exists_outcome_iff.mpr agrees
  have same :=
    (otherLists.hasOutcome otherFound).unique (renumbered.hasOutcome (lists.hasOutcome found))
  rw [otherFound, same]

/-- What a key leads to corresponds to what its counterpart leads to. -/
theorem Renumbered.keyStep
    (renumbered : Renumbered renumber graph other)
    (counterparts : Counterparts renumber graph other key counterpart)
    {length : Nat}
    (step : graph.KeyStep length key next) :
    ∃ target,
      other.KeyStep length counterpart target ∧
        Counterparts renumber graph other next target := by
  obtain ⟨nodes, lists, otherLists⟩ := counterparts.lists
  cases step with
  | @resolving _ holding goesOn candidate changes =>
      obtain ⟨outcome, found, goesOn⟩ := goesOn
      rw [renumbered.candidates_eq counterparts] at candidate
      refine ⟨_, .resolving ⟨outcome, renumbered.outcome counterparts found, goesOn⟩ candidate
        fun unchanged => changes (renumbered.closure_eq counterparts unchanged), ?_⟩
      refine counterparts_of_lists true (lists.closure holding) ?_
      rw [← renumbered.spread_image]
      exact otherLists.closure holding
  | @reading _ codePoint goesOn read =>
      obtain ⟨outcome, found, goesOn⟩ := goesOn
      have otherRead : targetsAt (other.spans counterpart.members) codePoint ≠ [] := by
        rw [lists.targetsAt_ne_nil_iff] at read
        rw [otherLists.targetsAt_ne_nil_iff, renumbered.afterReading_image]
        exact read.image renumber
      refine ⟨_, .reading ⟨outcome, renumbered.outcome counterparts found, goesOn⟩ otherRead, ?_⟩
      refine counterparts_of_lists false (lists.closure_targetsAt codePoint) ?_
      rw [← renumbered.spread_image, ← renumbered.afterReading_image]
      exact otherLists.closure_targetsAt codePoint

/-- For every explored key one that corresponds to it is explored. -/
theorem Renumbered.explored
    (renumbered : Renumbered renumber graph other)
    {start : Nat}
    (explored : graph.Explored start key) :
    ∃ target,
      other.Explored (renumber start) target ∧ Counterparts renumber graph other key target := by
  induction explored with
  | start =>
      exact ⟨_, .start, renumbered.counterparts_start start⟩
  | step _ step inductionHypothesis =>
      obtain ⟨middle, middleExplored, middleCounterparts⟩ := inductionHypothesis
      obtain ⟨target, targetStep, counterparts⟩ := renumbered.keyStep middleCounterparts step
      exact ⟨target, middleExplored.step targetStep, counterparts⟩

/-- The automaton of one graph can be built when that of the other one can. -/
theorem Renumbered.exists_ofGraph
    (renumbered : Renumbered renumber graph other)
    {start : Nat}
    (built : ∃ automaton, Automaton.ofGraph graph start = .ok automaton) :
    ∃ automaton, Automaton.ofGraph other (renumber start) = .ok automaton := by
  rw [Automaton.exists_ofGraph_iff] at built ⊢
  intro key explored
  obtain ⟨target, targetExplored, counterparts⟩ := renumbered.symm.explored explored
  rw [Equiv.symm_apply_apply] at targetExplored
  obtain ⟨outcome, found⟩ := built target targetExplored
  exact ⟨outcome, renumbered.outcome counterparts.symm found⟩

end Outcome

end Counterparts

/-- States whose keys correspond. -/
def Related
    (renumber : Equiv.Perm Nat)
    (graph other : Graph τ)
    (keys otherKeys : Array Key)
    (id counterpart : Nat) :
    Prop :=
  ∃ key otherKey,
    keys[id]? = some key ∧
      otherKeys[counterpart]? = some otherKey ∧
        Counterparts renumber graph other key otherKey

section Automata

variable [DecidableEq τ] {start : Nat} {automaton otherAutomaton : Automaton τ}

theorem Renumbered.forth
    (renumbered : Renumbered renumber graph other)
    {otherStart : Nat}
    {keys otherKeys : Array Key}
    (determinizes : graph.Determinizes start keys automaton)
    (otherDeterminizes : other.Determinizes otherStart otherKeys otherAutomaton)
    {id counterpart next amount : Nat}
    (related : Related renumber graph other keys otherKeys id counterpart)
    (leads : (next, amount) ∈ (automaton.state id).edges) :
    ∃ target,
      (target, amount) ∈ (otherAutomaton.state counterpart).edges ∧
        Related renumber graph other keys otherKeys next target := by
  obtain ⟨key, otherKey, numbered, otherNumbered, counterparts⟩ := related
  obtain ⟨nextKey, step, nextNumbered⟩ := determinizes.keyStep_of_mem_edges numbered leads
  obtain ⟨targetKey, otherStep, nextCounterparts⟩ := renumbered.keyStep counterparts step
  obtain ⟨target, otherLeads, targetNumbered⟩ :=
    otherDeterminizes.mem_edges_of_keyStep otherNumbered otherStep
  exact ⟨target, otherLeads, nextKey, targetKey, nextNumbered, targetNumbered, nextCounterparts⟩

/-- Before anything is dropped from them, the automata of renumbered graphs do the same. -/
theorem Renumbered.bisimulation
    (renumbered : Renumbered renumber graph other)
    {keys otherKeys : Array Key}
    (determinizes : graph.Determinizes start keys automaton)
    (otherDeterminizes : other.Determinizes (renumber start) otherKeys otherAutomaton) :
    Automaton.Bisimulation (Related renumber graph other keys otherKeys) automaton
      otherAutomaton where
  start :=
    ⟨_, _, determinizes.start, otherDeterminizes.start, renumbered.counterparts_start start⟩
  acceptance := by
    rintro id counterpart ⟨key, otherKey, numbered, otherNumbered, counterparts⟩
    obtain ⟨outcome, found, realizes⟩ := determinizes.realizes id key numbered
    obtain ⟨otherOutcome, otherFound, otherRealizes⟩ :=
      otherDeterminizes.realizes counterpart otherKey otherNumbered
    cases (renumbered.outcome counterparts found).symm.trans otherFound
    exact realizes.acceptance.trans otherRealizes.acceptance.symm
  forth related leads :=
    renumbered.forth determinizes otherDeterminizes related leads
  back := by
    rintro id counterpart target amount
      ⟨key, otherKey, numbered, otherNumbered, counterparts⟩ leads
    obtain ⟨next, otherLeads, nextKey, targetKey, nextNumbered, targetNumbered, related⟩ :=
      renumbered.symm.forth otherDeterminizes determinizes
        ⟨otherKey, key, otherNumbered, numbered, counterparts.symm⟩ leads
    exact ⟨next, otherLeads, targetKey, nextKey, targetNumbered, nextNumbered, related.symm⟩

/-- The automata of renumbered graphs have the same shortest and longest runs. -/
theorem Renumbered.lengths_eq
    (renumbered : Renumbered renumber graph other)
    (built : Automaton.ofGraph graph start = .ok automaton)
    (otherBuilt : Automaton.ofGraph other (renumber start) = .ok otherAutomaton) :
    automaton.lengths = otherAutomaton.lengths := by
  obtain ⟨whole, constructed, rfl⟩ := exists_of_map_eq_ok built
  obtain ⟨otherWhole, otherConstructed, rfl⟩ := exists_of_map_eq_ok otherBuilt
  obtain ⟨keys, determinizes⟩ := determinizes_subsetAutomaton constructed
  obtain ⟨otherKeys, otherDeterminizes⟩ := determinizes_subsetAutomaton otherConstructed
  exact (renumbered.bisimulation determinizes otherDeterminizes).prune.lengths_eq

/-- The automata of renumbered graphs find the same at every place. -/
theorem Renumbered.longestAt_eq
    (renumbered : Renumbered renumber graph other)
    (built : Automaton.ofGraph graph start = .ok automaton)
    (otherBuilt : Automaton.ofGraph other (renumber start) = .ok otherAutomaton)
    (place : Place)
    (searchStart : Nat) :
    (automaton.longestAt place searchStart).map
        (fun found => (found.length, automaton.acceptance found.state)) =
      (otherAutomaton.longestAt place searchStart).map
        fun found => (found.length, otherAutomaton.acceptance found.state) := by
  obtain ⟨result, simulation, finds⟩ := Automaton.finds_of_ofGraph built place searchStart
  obtain ⟨otherResult, otherSimulation, otherFinds⟩ :=
    Automaton.finds_of_ofGraph otherBuilt place searchStart
  have renumberedSimulation := renumbered.simulation simulation
  rw [Set.image_singleton] at renumberedSimulation
  rw [otherSimulation.unique renumberedSimulation] at otherFinds
  exact finds.trans otherFinds.symm

end Automata

end Graph

end LexicalAutomata
