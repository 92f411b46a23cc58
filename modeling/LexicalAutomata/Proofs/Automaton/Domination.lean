import LexicalAutomata.Proofs.Automaton.Bisimulation

namespace LexicalAutomata

/-!
# More nodes lead at least as far

A state whose nodes include those of another one is live when that one is.  The larger
set may wait for more boundaries, so a set of boundaries that is realizable for the smaller
one is completed: some place has all of them, and what holds there of the boundaries that
the larger set awaits is realizable for it.
-/

section Boundaries

/-- Whatever is realizable is a part of what holds at some place. -/
theorem BoundarySet.exists_surroundings
    {set within : BoundarySet}
    (subset : set.isSubset within = true)
    (realizable : set.isRealizableWithin within = true) :
    ∃ here : Surroundings, ∀ boundary ∈ set, boundary ∈ here.holding := by
  rw [isSubset_iff] at subset
  -- A realizable set has at most one of these two, and no other two exclude each other.
  have exclusive : ¬ (.wordEdge ∈ set ∧ .noWordEdge ∈ set) := by
    rintro ⟨edge, noEdge⟩
    have decided := (Bool.and_eq_true_iff.mp realizable).1
    simp only [wordEdgeDecided, contains_iff.mpr edge, contains_iff.mpr noEdge,
      contains_iff.mpr (subset _ edge), contains_iff.mpr (subset _ noEdge)] at decided
    contradiction
  let here : Surroundings :=
    ⟨if .wordEdge ∈ set then some '_' else none, [], true, true⟩
  refine ⟨here, fun boundary member => ?_⟩
  have decided : here.atWordEdge = decide (.wordEdge ∈ set) := by
    by_cases edge : .wordEdge ∈ set <;>
      simp [here, edge, Surroundings.atWordEdge, Surroundings.isWordChar]
  rw [Surroundings.mem_holding]
  cases boundary with
  | wordEdge =>
      simp only [Surroundings.holds, decided, member, decide_true]
  | noWordEdge =>
      have noEdge : .wordEdge ∉ set := fun edge => exclusive ⟨edge, member⟩
      simp only [Surroundings.holds, decided, noEdge, decide_false, Bool.not_false]
  | lineStart | lineEnd | inputStart | searchStart | lastLineEnd | inputEnd =>
      rfl

/-- What is realizable among some boundaries can be completed among more of them. -/
theorem BoundarySet.exists_realizable
    {set within larger : BoundarySet}
    (subset : set.isSubset within = true)
    (realizable : set.isRealizableWithin within = true)
    (included : ∀ boundary ∈ within, boundary ∈ larger) :
    ∃ more : BoundarySet,
      (∀ boundary ∈ set, boundary ∈ more) ∧
        more.isSubset larger = true ∧ more.isRealizableWithin larger = true := by
  obtain ⟨here, holds⟩ := exists_surroundings subset realizable
  refine ⟨here.holding.inter larger, ?_, ?_, here.holding_isRealizableWithin larger⟩
  · intro boundary member
    rw [isSubset_iff] at subset
    exact mem_inter.mpr ⟨holds boundary member, included _ (subset _ member)⟩
  · rw [isSubset_iff]
    intro boundary member
    exact (mem_inter.mp member).2

end Boundaries

variable {τ : Type}

namespace Graph

variable {graph : Graph τ}

/-- Of the nodes on one list, those that the graph has are on another list. -/
def Covers
    (graph : Graph τ)
    (many few : List Nat) :
    Prop :=
  ∀ id ∈ few, id < graph.size → id ∈ many

section Covers

variable {many few : List Nat}

/-- A closure has all nodes that it was made from. -/
theorem covers_closure
    (graph : Graph τ)
    (holding : BoundarySet)
    (seeds : List Nat) :
    graph.Covers (graph.closure holding seeds) seeds :=
  fun _ member inside => mem_closure_iff.mpr ⟨inside, subset_spread member⟩

/-- More nodes spread farther while more boundaries hold. -/
theorem Covers.closure
    (covers : graph.Covers many few)
    {holding more : BoundarySet}
    (holds : ∀ boundary ∈ holding, boundary ∈ more) :
    graph.Covers (graph.closure more many) (graph.closure holding few) := by
  intro id member inside
  have reached := (mem_closure_iff.mp member).2
  rw [mem_spread_inter_iff inside] at reached
  refine mem_closure_iff.mpr ⟨inside, ?_⟩
  apply spread_mono_holding holds
  refine spread_mono ?_ reached
  rintro node ⟨nodeInside, listed⟩
  exact covers node listed nodeInside

/-- More nodes await more boundaries. -/
theorem Covers.mem_awaited
    (covers : graph.Covers many few)
    {boundary : Boundary}
    (waits : boundary ∈ graph.awaited few) :
    boundary ∈ graph.awaited many := by
  rw [mem_awaited_iff] at waits ⊢
  obtain ⟨id, reached, edge, member, waited⟩ := waits
  exact ⟨id, covers.closure (fun _ holds => holds) id reached (lt_size_of_mem_edges member),
    edge, member, waited⟩

/-- More nodes read more. -/
theorem Covers.targetsAt_subset
    (covers : graph.Covers many few)
    (codePoint : Nat) :
    targetsAt (graph.spans few) codePoint ⊆ targetsAt (graph.spans many) codePoint := by
  intro target member
  rw [mem_targetsAt] at member ⊢
  obtain ⟨span, spanMember, contained, same⟩ := member
  obtain ⟨id, listed, label, edgeMember, interval⟩ := mem_spans_iff.mp spanMember
  refine ⟨span, mem_spans_iff.mpr ?_, contained, same⟩
  exact ⟨id, covers id listed (lt_size_of_mem_edges edgeMember), label, edgeMember, interval⟩

/-- More nodes have more terminals among them. -/
theorem Covers.terminals_subset
    (covers : graph.Covers many few) :
    graph.terminals few ⊆ graph.terminals many := by
  intro terminal member
  rw [mem_terminals_iff] at member ⊢
  obtain ⟨id, listed, stored, same⟩ := member
  exact ⟨id, covers id listed (lt_size_of_token stored), stored, same⟩

end Covers

variable [DecidableEq τ]

/-- Runs go on where nothing is accepted, for there is no terminal node that could stop them. -/
theorem outcome_of_silent
    {members : List Nat}
    {outcome : Outcome τ}
    (found : graph.outcome members = .ok outcome)
    (silent : outcome.acceptance = none) :
    graph.terminals members = [] ∧ outcome.halts = false := by
  unfold Graph.outcome at found
  split at found
  · rename_i empty
    cases found
    exact ⟨empty, rfl⟩
  · simp only at found
    split at found
    · cases found
      contradiction
    · contradiction

/-- Nothing is accepted where there is no terminal node. -/
theorem silent_of_terminals
    {members : List Nat}
    {outcome : Outcome τ}
    (found : graph.outcome members = .ok outcome)
    (empty : graph.terminals members = []) :
    outcome.acceptance = none := by
  unfold Graph.outcome at found
  rw [empty] at found
  cases found
  rfl

/-- Where a key leads, a key with more nodes has come already or leads as well. -/
theorem KeyStep.covers
    {length : Nat}
    {key next larger : Key}
    (step : graph.KeyStep length key next)
    (covers : graph.Covers larger.members key.members)
    (settled : length = 0 → larger.settled = true → key.settled = true)
    (goesOn : graph.GoesOn larger) :
    ∃ reached,
      (reached = larger ∧ length = 0 ∨ graph.KeyStep length larger reached) ∧
        graph.Covers reached.members next.members ∧
          (reached.settled = true → next.settled = true) := by
  cases step with
  | @resolving _ holding _ candidate changes =>
      have unsettled : key.settled = false := by
        cases isSettled : key.settled with
        | false =>
            rfl
        | true =>
            rw [candidates, isSettled] at candidate
            simp at candidate
      have largerUnsettled : larger.settled = false := by
        cases isSettled : larger.settled with
        | false =>
            rfl
        | true =>
            rw [settled rfl isSettled] at unsettled
            contradiction
      rw [candidates, unsettled, if_neg Bool.false_ne_true, mem_resolutionCandidates_iff]
        at candidate
      obtain ⟨nonempty, subset, realizable⟩ := candidate
      obtain ⟨more, holds, moreSubset, moreRealizable⟩ :=
        BoundarySet.exists_realizable subset realizable fun _ => covers.mem_awaited
      have reached := covers.closure holds
      by_cases unchanged : graph.closure more larger.members = larger.members
      · rw [unchanged] at reached
        exact ⟨larger, .inl ⟨rfl, rfl⟩, reached, fun _ => rfl⟩
      · have moreNonempty : more ≠ .empty := by
          rintro rfl
          apply nonempty
          apply BoundarySet.ext
          intro boundary
          simpa using fun member => BoundarySet.not_mem_empty boundary (holds boundary member)
        refine ⟨_, .inr (.resolving goesOn ?_ unchanged), reached, fun _ => rfl⟩
        rw [candidates, largerUnsettled, if_neg Bool.false_ne_true, mem_resolutionCandidates_iff]
        exact ⟨moreNonempty, moreSubset, moreRealizable⟩
  | @reading _ codePoint _ read =>
      have subset := covers.targetsAt_subset codePoint
      have largerReads : targetsAt (graph.spans larger.members) codePoint ≠ [] := by
        intro unread
        rw [unread] at subset
        exact read (List.subset_nil.mp subset)
      have more : graph.Covers (targetsAt (graph.spans larger.members) codePoint)
          (targetsAt (graph.spans key.members) codePoint) :=
        fun _ member _ => subset member
      exact ⟨_, .inr (.reading goesOn largerReads), more.closure fun _ holds => holds, id⟩

/-- One state belongs to all nodes of another one, and is resolved when that one is. -/
def Dominates
    (graph : Graph τ)
    (keys : Array Key)
    (larger smaller : Nat) :
    Prop :=
  ∃ many few : Key,
    keys[larger]? = some many ∧
      keys[smaller]? = some few ∧
        graph.Covers many.members few.members ∧
          (many.settled = true → few.settled = true)

section Determinizes

variable {start : Nat} {keys : Array Key} {automaton : Automaton τ} {id other : Nat}
  {key larger : Key}

/-- With more nodes a state accepts something when the other one does. -/
theorem Determinizes.acceptance_of_covers
    (determinizes : graph.Determinizes start keys automaton)
    (numbered : keys[id]? = some key)
    (otherNumbered : keys[other]? = some larger)
    (covers : graph.Covers larger.members key.members)
    (accepts : automaton.acceptance id ≠ none) :
    automaton.acceptance other ≠ none := by
  intro silent
  obtain ⟨outcome, found, realizes⟩ := determinizes.realizes id key numbered
  obtain ⟨otherOutcome, otherFound, otherRealizes⟩ :=
    determinizes.realizes other larger otherNumbered
  have none := (outcome_of_silent otherFound (otherRealizes.acceptance.symm.trans silent)).1
  apply accepts
  refine realizes.acceptance.trans (silent_of_terminals found ?_)
  have subset := covers.terminals_subset
  rw [none] at subset
  exact List.subset_nil.mp subset

/-- Runs go on at a state that accepts nothing. -/
theorem Determinizes.goesOn_of_silent
    (determinizes : graph.Determinizes start keys automaton)
    (numbered : keys[id]? = some key)
    (silent : automaton.acceptance id = none) :
    graph.GoesOn key := by
  obtain ⟨outcome, found, realizes⟩ := determinizes.realizes id key numbered
  exact ⟨outcome, found, (outcome_of_silent found (realizes.acceptance.symm.trans silent)).2⟩

/-- With more nodes a state is or leads to one that dominates what the other one leads to. -/
theorem Determinizes.exists_dominates
    (determinizes : graph.Determinizes start keys automaton)
    (numbered : keys[id]? = some key)
    (otherNumbered : keys[other]? = some larger)
    (covers : graph.Covers larger.members key.members)
    (silent : automaton.acceptance other = none)
    {next amount : Nat}
    (settled : amount = 0 → larger.settled = true → key.settled = true)
    (leads : (next, amount) ∈ (automaton.state id).edges) :
    ∃ reached,
      (reached = other ∨ automaton.LeadsTo other reached) ∧
        graph.Dominates keys reached next := by
  obtain ⟨nextKey, step, nextNumbered⟩ := determinizes.keyStep_of_mem_edges numbered leads
  have goesOn := determinizes.goesOn_of_silent otherNumbered silent
  obtain ⟨reachedKey, same | otherStep, reachedCovers, reachedSettled⟩ :=
    step.covers covers settled goesOn
  · obtain ⟨rfl, _⟩ := same
    exact ⟨other, .inl rfl, _, _, otherNumbered, nextNumbered, reachedCovers, reachedSettled⟩
  · obtain ⟨reached, otherLeads, reachedNumbered⟩ :=
      determinizes.mem_edges_of_keyStep otherNumbered otherStep
    exact ⟨reached, .inr (Automaton.leadsTo_iff.mpr ⟨_, otherLeads⟩), _, _, reachedNumbered,
      nextNumbered, reachedCovers, reachedSettled⟩

/-- A state that dominates a live one is live. -/
theorem Dominates.live
    (determinizes : graph.Determinizes start keys automaton)
    (dominates : graph.Dominates keys other id)
    (live : automaton.live.contains id = true) :
    automaton.live.contains other = true := by
  obtain ⟨last, path, accepts⟩ := Automaton.contains_live_iff.mp live
  clear live
  induction path using Relation.ReflTransGen.head_induction_on generalizing other with
  | refl =>
      obtain ⟨larger, key, otherNumbered, numbered, covers, _⟩ := dominates
      exact Automaton.live_of_acceptance
        (determinizes.acceptance_of_covers numbered otherNumbered covers accepts)
  | head leads _ inductionHypothesis =>
      by_cases silent : automaton.acceptance other = none
      · obtain ⟨larger, key, otherNumbered, numbered, covers, settled⟩ := dominates
        obtain ⟨amount, edge⟩ := Automaton.leadsTo_iff.mp leads
        obtain ⟨reached, rfl | otherLeads, nextDominates⟩ :=
          determinizes.exists_dominates numbered otherNumbered covers silent (fun _ => settled)
            edge
        · exact inductionHypothesis nextDominates
        · exact Automaton.live_of_leadsTo otherLeads (inductionHypothesis nextDominates)
      · exact Automaton.live_of_acceptance silent

end Determinizes

end Graph

end LexicalAutomata
