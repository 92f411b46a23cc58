import LexicalAutomata.Automaton.Scan
import LexicalAutomata.Proofs.Automaton.Construction
import LexicalAutomata.Proofs.Graph.Simulation

namespace LexicalAutomata

/-!
# What a state stands for

A state of the subset construction stands for the set of nodes that its key lists.
Each step of a scan keeps to that: a state that is settled at a place stands for what
its nodes spread to with the boundaries that hold there, and reading a character leads
to a state that stands for what the nodes behind that character spread to.
-/

namespace Graph

variable {τ : Type} {graph : Graph τ}

/-- The key with the number of a state lists a set of nodes. -/
def StandsFor
    (graph : Graph τ)
    (keys : Array Key)
    (settled : Bool)
    (id : Nat)
    (nodes : Set Nat) :
    Prop :=
  ∃ members, keys[id]? = some ⟨members, settled⟩ ∧ graph.Lists members nodes

/-- What is reached by reading is the same for every listing of the nodes. -/
theorem Lists.closure_targetsAt
    {members : List Nat}
    {nodes : Set Nat}
    (lists : graph.Lists members nodes)
    (codePoint : Nat) :
    graph.Lists (graph.closure .empty (targetsAt (graph.spans members) codePoint))
      (graph.spread .empty (graph.afterReading codePoint nodes)) := by
  have same :
      { target | target ∈ targetsAt (graph.spans members) codePoint } =
        graph.afterReading codePoint nodes := by
    ext target
    exact lists.mem_targetsAt_iff
  rw [← same]
  exact lists_closure _ _

/-- The resolutions of a state, which are for what holds of the awaited boundaries. -/
structure Awaits
    (automaton : Automaton τ)
    (id : Nat)
    (awaited : BoundarySet) : Prop where
  nonempty :
    ∀ resolution ∈ (automaton.state id).resolutions, resolution.holding ≠ .empty
  boundaries :
    (automaton.state id).boundaries =
      if (automaton.state id).resolutions.isEmpty then
        .empty
      else
        awaited

/-- Settling exchanges a state for the target of its resolution for what holds, if it has one. -/
theorem Awaits.settle_eq
    {automaton : Automaton τ}
    {id : Nat}
    {awaited : BoundarySet}
    (awaits : Awaits automaton id awaited)
    (here : Surroundings) :
    automaton.settle id here =
      (((automaton.state id).resolutions.find? fun resolution =>
        resolution.holding == here.holding.inter awaited).map
          Resolution.target).getD id := by
  unfold Automaton.settle Automaton.resolve Automaton.boundaries State.resolved?
  rw [awaits.boundaries]
  have nonempty := awaits.nonempty
  cases resolutions : (automaton.state id).resolutions with
  | nil =>
      simp
  | cons resolution rest =>
      simp only [List.isEmpty_cons, Bool.false_eq_true, ↓reduceIte]
      split
      · rename_i none
        rw [List.find?_eq_none.mpr]
        · rfl
        · intro other member same
          rw [resolutions] at nonempty
          apply nonempty other member
          rw [beq_iff_eq.mp same]
          apply BoundarySet.ext
          intro boundary
          simp [BoundarySet.isEmpty_iff.mp none boundary]
      · rfl

section Determinizes

variable [DecidableEq τ] {start : Nat} {keys : Array Key} {automaton : Automaton τ}
  {settled : Bool} {id : Nat} {nodes : Set Nat}

/-- The start state stands for what the start node spreads to. -/
theorem Determinizes.standsFor_start
    (determinizes : graph.Determinizes start keys automaton) :
    graph.StandsFor keys false automaton.start (graph.spread .empty {start}) :=
  ⟨_, determinizes.start, graph.lists_startKey start⟩

theorem Determinizes.exists_outcome
    (determinizes : graph.Determinizes start keys automaton)
    (stands : graph.StandsFor keys settled id nodes) :
    ∃ outcome,
      graph.HasOutcome nodes outcome ∧
        automaton.acceptance id = outcome.acceptance := by
  obtain ⟨members, numbered, lists⟩ := stands
  obtain ⟨outcome, found, realizes⟩ := determinizes.realizes id _ numbered
  exact ⟨outcome, lists.hasOutcome found, realizes.acceptance⟩

theorem Determinizes.acceptance_eq_some_iff
    (determinizes : graph.Determinizes start keys automaton)
    (stands : graph.StandsFor keys settled id nodes)
    {acceptance : Acceptance τ} :
    automaton.acceptance id = some acceptance ↔ graph.Accepts nodes acceptance := by
  obtain ⟨outcome, hasOutcome, same⟩ := determinizes.exists_outcome stands
  rw [same]
  exact hasOutcome.acceptance acceptance

theorem Determinizes.acceptance_eq_none_iff
    (determinizes : graph.Determinizes start keys automaton)
    (stands : graph.StandsFor keys settled id nodes) :
    automaton.acceptance id = none ↔ ¬ graph.HasTerminal nodes := by
  obtain ⟨outcome, hasOutcome, same⟩ := determinizes.exists_outcome stands
  rw [same]
  exact hasOutcome.silent

/-- The terminals that count in the nodes of a state agree. -/
theorem Determinizes.agrees
    (determinizes : graph.Determinizes start keys automaton)
    (stands : graph.StandsFor keys settled id nodes) :
    graph.Agrees nodes := by
  cases found : automaton.acceptance id with
  | none =>
      intro first second firstTop _
      have silent := (determinizes.acceptance_eq_none_iff stands).mp found
      exact (silent ⟨first, firstTop.member, firstTop.terminal⟩).elim
  | some acceptance =>
      exact ((determinizes.acceptance_eq_some_iff stands).mp found).agrees

/-- A state leads nowhere when runs stop at its nodes. -/
theorem Determinizes.state_of_stops
    (determinizes : graph.Determinizes start keys automaton)
    (stands : graph.StandsFor keys settled id nodes)
    (stops : graph.Stops nodes) :
    automaton.state id = ⟨[], .empty, [], automaton.acceptance id⟩ := by
  obtain ⟨members, numbered, lists⟩ := stands
  obtain ⟨outcome, found, realizes⟩ := determinizes.realizes id _ numbered
  have halts : outcome.halts = true := (lists.hasOutcome found).halts.mpr stops
  have acceptance : automaton.acceptance id = outcome.acceptance := realizes.acceptance
  rw [realizes.halted halts, acceptance]

/-- The state of a set at which runs go on does what its key says. -/
theorem Determinizes.exists_realizes
    (determinizes : graph.Determinizes start keys automaton)
    {key : Key}
    (numbered : keys[id]? = some key)
    (lists : graph.Lists key.members nodes)
    (goesOn : ¬ graph.Stops nodes) :
    ∃ outcome : Outcome τ,
      outcome.halts = false ∧ graph.Realizes keys key outcome (automaton.state id) := by
  obtain ⟨outcome, found, realizes⟩ := determinizes.realizes id _ numbered
  refine ⟨outcome, ?_, realizes⟩
  rw [← Bool.not_eq_true, (lists.hasOutcome found).halts]
  exact goesOn

/-- The state of a set at which runs go on waits for what the set awaits. -/
theorem Determinizes.awaits
    (determinizes : graph.Determinizes start keys automaton)
    {members : List Nat}
    (numbered : keys[id]? = some ⟨members, false⟩)
    (lists : graph.Lists members nodes)
    (goesOn : ¬ graph.Stops nodes) :
    Awaits automaton id (graph.awaited members) := by
  obtain ⟨outcome, halts, realizes⟩ := determinizes.exists_realizes numbered lists goesOn
  refine ⟨?_, realizes.boundaries halts⟩
  intro resolution member
  have candidate := ((realizes.resolves halts).target resolution member).1
  exact (mem_resolutionCandidates_iff.mp candidate).1

/-- A settled state stands for what the nodes spread to with what holds at the place. -/
theorem Determinizes.standsFor_settle
    (determinizes : graph.Determinizes start keys automaton)
    (stands : graph.StandsFor keys false id (graph.spread .empty nodes))
    (goesOn : ¬ graph.Stops (graph.spread .empty nodes))
    (here : Surroundings) :
    ∃ settled,
      graph.StandsFor keys settled (automaton.settle id here)
        (graph.spread here.holding nodes) := by
  obtain ⟨members, numbered, lists⟩ := stands
  obtain ⟨outcome, halts, realizes⟩ := determinizes.exists_realizes numbered lists goesOn
  have resolves : graph.Resolves keys members (graph.resolutionCandidates members)
      (automaton.state id).resolutions :=
    realizes.resolves halts
  have reached := lists.closure_inter_awaited here.holding
  rw [(determinizes.awaits numbered lists goesOn).settle_eq here]
  cases found : (automaton.state id).resolutions.find? fun resolution =>
      resolution.holding == here.holding.inter (graph.awaited members) with
  | some resolution =>
      have member := List.mem_of_find?_eq_some found
      have same : resolution.holding = here.holding.inter (graph.awaited members) := by
        simpa using List.find?_some found
      refine ⟨true, _, (resolves.target resolution member).2, ?_⟩
      rw [same]
      exact reached
  | none =>
      refine ⟨false, members, numbered, ?_⟩
      have unchanged :
          graph.spread here.holding nodes = graph.spread .empty nodes ∨
            graph.closure (here.holding.inter (graph.awaited members)) members = members := by
        by_cases holds : here.holding.inter (graph.awaited members) = .empty
        · left
          rw [← spread_spread_empty, ← lists.spread_inter_awaited, holds, spread_spread_empty]
        · right
          have candidate :
              here.holding.inter (graph.awaited members) ∈
                graph.resolutionCandidates members := by
            refine mem_resolutionCandidates_iff.mpr ⟨holds, ?_, ?_⟩
            · rw [BoundarySet.isSubset_iff]
              intro boundary member
              exact (BoundarySet.mem_inter.mp member).2
            · exact here.holding_isRealizableWithin _
          rcases resolves.complete _ candidate with same | ⟨resolution, member, same⟩
          · exact same
          · have := List.find?_eq_none.mp found resolution member
            simp [same] at this
      rcases unchanged with same | same
      · rw [same]
        exact lists
      · rw [same] at reached
        exact reached

/-- A state reads the code points that its nodes read. -/
theorem Determinizes.next?_eq_none_iff
    (determinizes : graph.Determinizes start keys automaton)
    (stands : graph.StandsFor keys settled id nodes)
    (goesOn : ¬ graph.Stops nodes)
    (char : Char) :
    automaton.next? id char = none ↔ graph.afterReading char.toNat nodes = ∅ := by
  obtain ⟨members, numbered, lists⟩ := stands
  obtain ⟨outcome, halts, realizes⟩ := determinizes.exists_realizes numbered lists goesOn
  have splits := realizes.splits halts
  have targets :
      targetsAt (graph.spans members) char.toNat = [] ↔
        graph.afterReading char.toNat nodes = ∅ := by
    rw [List.eq_nil_iff_forall_not_mem, Set.eq_empty_iff_forall_notMem]
    simp only [lists.mem_targetsAt_iff]
  rw [← targets]
  constructor
  · intro stuck
    by_contra read
    obtain ⟨transition, member, contained⟩ := splits.complete char.toNat (Nat.zero_le _) read
    have next := (State.next?_eq_some_iff realizes.ordered).mpr
      ⟨transition, member, contained, rfl⟩
    rw [Automaton.next?, next] at stuck
    contradiction
  · intro unread
    cases found : automaton.next? id char with
    | none =>
        rfl
    | some target =>
        obtain ⟨transition, member, contained, _⟩ :=
          (State.next?_eq_some_iff realizes.ordered).mp found
        exact ((splits.target transition member _ contained).1 unread).elim

/-- Reading leads to a state that stands for what is reached by reading. -/
theorem Determinizes.standsFor_next
    (determinizes : graph.Determinizes start keys automaton)
    (stands : graph.StandsFor keys settled id nodes)
    {char : Char}
    {target : Nat}
    (next : automaton.next? id char = some target) :
    graph.StandsFor keys false target
      (graph.spread .empty (graph.afterReading char.toNat nodes)) := by
  have goesOn : ¬ graph.Stops nodes := by
    intro stops
    rw [Automaton.next?, determinizes.state_of_stops stands stops] at next
    contradiction
  obtain ⟨members, numbered, lists⟩ := stands
  obtain ⟨outcome, halts, realizes⟩ := determinizes.exists_realizes numbered lists goesOn
  obtain ⟨transition, member, contained, rfl⟩ :=
    (State.next?_eq_some_iff realizes.ordered).mp next
  exact ⟨_, ((realizes.splits halts).target transition member _ contained).2,
    lists.closure_targetsAt _⟩

end Determinizes

end Graph

end LexicalAutomata
