import LexicalAutomata.Proofs.Graph.Contest
import LexicalAutomata.Proofs.Graph.Spread
import Mathlib.Order.Bounds.Basic

namespace LexicalAutomata.Graph

/-!
# The terminals that count

Of the terminal nodes in a set those with the greatest priority count.  A set accepts
what these have in common: their token and their priority, and the longest of their
enders.  The main statements are `Lists.hasOutcome`, which says what the outcome of a
list of nodes is, and `Lists.exists_outcome`, which says when there is one.
-/

variable {τ : Type} {graph : Graph τ}

/-- A terminal node of a set that no other terminal node of it exceeds in priority. -/
structure IsTop
    (graph : Graph τ)
    (nodes : Set Nat)
    (id : Nat) : Prop where
  member : id ∈ nodes
  terminal : (graph.node id).token.isSome = true
  highest :
    ∀ other ∈ nodes,
      (graph.node other).token.isSome = true →
        (graph.node other).priority ≤ (graph.node id).priority

/-- A run that comes to these nodes does not go on. -/
def Stops
    (graph : Graph τ)
    (nodes : Set Nat) :
    Prop :=
  ∃ top, graph.IsTop nodes top ∧ (graph.node top).immediate = true

/-- There is a terminal node among these. -/
def HasTerminal
    (graph : Graph τ)
    (nodes : Set Nat) :
    Prop :=
  ∃ id ∈ nodes, (graph.node id).token.isSome = true

/-- What a set of nodes accepts: all terminals that count agree on the token. -/
structure Accepts
    (graph : Graph τ)
    (nodes : Set Nat)
    (acceptance : Acceptance τ) : Prop where
  token :
    ∀ top, graph.IsTop nodes top → (graph.node top).token = some acceptance.token
  priority :
    ∃ top, graph.IsTop nodes top ∧ (graph.node top).priority = acceptance.priority
  ender :
    IsGreatest
      { length | ∃ top, graph.IsTop nodes top ∧ (graph.node top).enderLength = length }
      acceptance.enderLength

/-- Two terminals that count have the same priority. -/
theorem IsTop.priority_eq
    {nodes : Set Nat}
    {first second : Nat}
    (firstTop : graph.IsTop nodes first)
    (secondTop : graph.IsTop nodes second) :
    (graph.node first).priority = (graph.node second).priority :=
  Int32.le_antisymm
    (secondTop.highest first firstTop.member firstTop.terminal)
    (firstTop.highest second secondTop.member secondTop.terminal)

theorem Accepts.hasTerminal
    {nodes : Set Nat}
    {acceptance : Acceptance τ}
    (accepts : graph.Accepts nodes acceptance) :
    graph.HasTerminal nodes := by
  obtain ⟨top, isTop, _⟩ := accepts.priority
  exact ⟨top, isTop.member, isTop.terminal⟩

/-- A run that does not go on has come to a terminal node. -/
theorem Stops.hasTerminal
    {nodes : Set Nat}
    (stops : graph.Stops nodes) :
    graph.HasTerminal nodes := by
  obtain ⟨top, isTop, _⟩ := stops
  exact ⟨top, isTop.member, isTop.terminal⟩

theorem HasTerminal.mono
    {nodes others : Set Nat}
    (hasTerminal : graph.HasTerminal nodes)
    (subset : nodes ⊆ others) :
    graph.HasTerminal others := by
  obtain ⟨terminal, member, isSome⟩ := hasTerminal
  exact ⟨terminal, subset member, isSome⟩

/-- A set of nodes accepts at most one thing. -/
theorem Accepts.unique
    {nodes : Set Nat}
    {first second : Acceptance τ}
    (firstAccepts : graph.Accepts nodes first)
    (secondAccepts : graph.Accepts nodes second) :
    first = second := by
  obtain ⟨firstToken, firstPriority, firstEnder⟩ := first
  obtain ⟨secondToken, secondPriority, secondEnder⟩ := second
  obtain ⟨top, isTop, priority⟩ := firstAccepts.priority
  obtain ⟨other, otherTop, otherPriority⟩ := secondAccepts.priority
  have token := (firstAccepts.token top isTop).symm.trans (secondAccepts.token top isTop)
  have ender := firstAccepts.ender.unique secondAccepts.ender
  rw [isTop.priority_eq otherTop] at priority
  simp only at token priority otherPriority ender
  rw [Option.some.inj token, ← priority, ← otherPriority, ender]

section Lists

variable {members : List Nat} {nodes : Set Nat}

/-- A terminal node of a set is on every list of the set. -/
theorem Lists.mem_of_terminal
    (lists : graph.Lists members nodes)
    {id : Nat}
    (member : id ∈ nodes)
    (terminal : (graph.node id).token.isSome = true) :
    id ∈ members := by
  obtain ⟨token, some⟩ := Option.isSome_iff_exists.mp terminal
  exact (lists id).mpr ⟨lt_size_of_token some, member⟩

theorem mem_terminals_iff
    {terminal : τ × Node τ} :
    terminal ∈ graph.terminals members ↔
      ∃ id ∈ members,
        (graph.node id).token = some terminal.1 ∧ graph.node id = terminal.2 := by
  obtain ⟨token, node⟩ := terminal
  simp only [terminals, List.mem_filterMap, Option.map_eq_some_iff, Prod.mk.injEq]
  constructor
  · rintro ⟨id, member, _, found, rfl, same⟩
    exact ⟨id, member, found, same⟩
  · rintro ⟨id, member, found, same⟩
    exact ⟨id, member, token, found, rfl, same⟩

/-- The highest priority on a list is that of the terminals that count. -/
theorem Lists.topPriority?_eq_some_iff
    (lists : graph.Lists members nodes)
    {priority : Int32} :
    graph.topPriority? members = some priority ↔
      ∃ top, graph.IsTop nodes top ∧ (graph.node top).priority = priority := by
  unfold topPriority?
  rw [List.max?_eq_some_iff]
  simp only [List.mem_map, mem_terminals_iff]
  constructor
  · rintro ⟨⟨⟨token, _⟩, ⟨top, member, found, rfl⟩, rfl⟩, highest⟩
    refine ⟨top, ⟨((lists top).mp member).2, by simp [found], ?_⟩, rfl⟩
    intro other otherMember otherTerminal
    obtain ⟨otherToken, otherFound⟩ := Option.isSome_iff_exists.mp otherTerminal
    exact highest _
      ⟨(otherToken, graph.node other),
        ⟨other, lists.mem_of_terminal otherMember otherTerminal, otherFound, rfl⟩, rfl⟩
  · rintro ⟨top, isTop, rfl⟩
    obtain ⟨token, found⟩ := Option.isSome_iff_exists.mp isTop.terminal
    refine ⟨⟨(token, graph.node top),
      ⟨top, lists.mem_of_terminal isTop.member isTop.terminal, found, rfl⟩, rfl⟩, ?_⟩
    rintro _ ⟨⟨otherToken, _⟩, ⟨other, member, otherFound, rfl⟩, rfl⟩
    exact isTop.highest other ((lists other).mp member).2 (by simp [otherFound])

/-- The winners of a list are the terminals that count. -/
theorem Lists.mem_winners_iff
    (lists : graph.Lists members nodes)
    {terminal : τ × Node τ} :
    terminal ∈ graph.winners members ↔
      ∃ top, graph.IsTop nodes top ∧
        (graph.node top).token = some terminal.1 ∧ graph.node top = terminal.2 := by
  obtain ⟨token, node⟩ := terminal
  unfold winners
  simp only [List.mem_filter, mem_terminals_iff, beq_iff_eq]
  rw [eq_comm (a := some node.priority), lists.topPriority?_eq_some_iff]
  constructor
  · rintro ⟨⟨id, member, found, rfl⟩, top, isTop, priority⟩
    refine ⟨id, ⟨((lists id).mp member).2, by simp [found], ?_⟩, found, rfl⟩
    intro other otherMember otherTerminal
    rw [← priority]
    exact isTop.highest other otherMember otherTerminal
  · rintro ⟨top, isTop, found, rfl⟩
    exact ⟨⟨top, lists.mem_of_terminal isTop.member isTop.terminal, found, rfl⟩,
      top, isTop, rfl⟩

/-- There is a winner when there is a terminal at all. -/
theorem Lists.winners_eq_nil_iff
    (lists : graph.Lists members nodes) :
    graph.winners members = [] ↔ ¬ graph.HasTerminal nodes := by
  constructor
  · rintro none ⟨id, member, terminal⟩
    have listed := lists.mem_of_terminal member terminal
    obtain ⟨token, found⟩ := Option.isSome_iff_exists.mp terminal
    have present : (graph.topPriority? members).isSome = true := by
      unfold topPriority?
      rw [List.isSome_max?_iff]
      intro empty
      have : (token, graph.node id) ∈ graph.terminals members :=
        mem_terminals_iff.mpr ⟨id, listed, found, rfl⟩
      rw [List.map_eq_nil_iff.mp empty] at this
      simp at this
    obtain ⟨priority, highest⟩ := Option.isSome_iff_exists.mp present
    obtain ⟨top, isTop, _⟩ := lists.topPriority?_eq_some_iff.mp highest
    obtain ⟨topToken, topFound⟩ := Option.isSome_iff_exists.mp isTop.terminal
    have winner : (topToken, graph.node top) ∈ graph.winners members :=
      lists.mem_winners_iff.mpr ⟨top, isTop, topFound, rfl⟩
    rw [none] at winner
    simp at winner
  · intro none
    rw [List.eq_nil_iff_forall_not_mem]
    intro terminal winner
    obtain ⟨top, isTop, _⟩ := lists.mem_winners_iff.mp winner
    exact none ⟨top, isTop.member, isTop.terminal⟩

/-- The winning ender is the longest one of the terminals that count. -/
theorem Lists.isGreatest_winningEnder
    (lists : graph.Lists members nodes)
    (present : graph.winners members ≠ []) :
    IsGreatest
      { length | ∃ top, graph.IsTop nodes top ∧ (graph.node top).enderLength = length }
      (graph.winningEnder members) := by
  have lengths :
      { length | ∃ top, graph.IsTop nodes top ∧ (graph.node top).enderLength = length } =
        { length |
          length ∈ (graph.winners members).map fun terminal => terminal.2.enderLength } := by
    ext length
    simp only [Set.mem_ofPred_eq, List.mem_map, lists.mem_winners_iff]
    constructor
    · rintro ⟨top, isTop, rfl⟩
      obtain ⟨token, found⟩ := Option.isSome_iff_exists.mp isTop.terminal
      exact ⟨(token, graph.node top), ⟨top, isTop, found, rfl⟩, rfl⟩
    · rintro ⟨_, ⟨top, isTop, _, same⟩, rfl⟩
      exact ⟨top, isTop, by rw [same]⟩
  rw [lengths]
  unfold winningEnder
  cases enders : (graph.winners members).map fun terminal => terminal.2.enderLength with
  | nil =>
      exact (present (List.map_eq_nil_iff.mp enders)).elim
  | cons ender others =>
      have greatest : (ender :: others).max? = some ((ender :: others).foldl max 0) := by
        rw [List.max?_cons', List.foldl_cons, Nat.zero_max]
      obtain ⟨member, highest⟩ := List.max?_eq_some_iff.mp greatest
      exact ⟨member, highest⟩

/-- A run stops when one of the winners is immediate. -/
theorem Lists.stops_iff
    (lists : graph.Lists members nodes) :
    ((graph.winners members).any fun terminal => terminal.2.immediate) = true ↔
      graph.Stops nodes := by
  simp only [List.any_eq_true, lists.mem_winners_iff]
  constructor
  · rintro ⟨_, ⟨top, isTop, _, same⟩, immediate⟩
    exact ⟨top, isTop, by rw [same]; exact immediate⟩
  · rintro ⟨top, isTop, immediate⟩
    obtain ⟨token, found⟩ := Option.isSome_iff_exists.mp isTop.terminal
    exact ⟨(token, graph.node top), ⟨top, isTop, found, rfl⟩, immediate⟩

end Lists

/-- What the outcome of a list says about the set of its nodes. -/
structure HasOutcome
    (graph : Graph τ)
    (nodes : Set Nat)
    (outcome : Outcome τ) : Prop where
  acceptance :
    ∀ acceptance, outcome.acceptance = some acceptance ↔ graph.Accepts nodes acceptance
  silent :
    outcome.acceptance = none ↔ ¬ graph.HasTerminal nodes
  halts :
    outcome.halts = true ↔ graph.Stops nodes

/-- A set without terminals accepts nothing and stops no run. -/
theorem hasOutcome_of_not_hasTerminal
    {nodes : Set Nat}
    (none : ¬ graph.HasTerminal nodes) :
    graph.HasOutcome nodes ⟨.none, false⟩ where
  acceptance acceptance := by
    constructor
    · intro impossible
      contradiction
    · intro accepts
      exact (none accepts.hasTerminal).elim
  silent := by
    simpa using none
  halts := by
    constructor
    · intro impossible
      contradiction
    · rintro ⟨top, isTop, _⟩
      exact (none ⟨top, isTop.member, isTop.terminal⟩).elim

section Outcome

variable [DecidableEq τ] {members : List Nat} {nodes : Set Nat}

/-- The token of a terminal that counts is among the tokens of the winners. -/
theorem Lists.exists_winning_token
    (lists : graph.Lists members nodes)
    {top : Nat}
    (isTop : graph.IsTop nodes top) :
    ∃ token ∈ ((graph.winners members).map Prod.fst).eraseDups,
      (graph.node top).token = some token := by
  obtain ⟨token, stored⟩ := Option.isSome_iff_exists.mp isTop.terminal
  refine ⟨token, ?_, stored⟩
  rw [List.mem_eraseDups, List.mem_map]
  exact ⟨(token, graph.node top), lists.mem_winners_iff.mpr ⟨top, isTop, stored, rfl⟩, rfl⟩

/-- When the winners have a single token, that is what the set accepts. -/
theorem Lists.accepts
    (lists : graph.Lists members nodes)
    {token : τ}
    (only : ((graph.winners members).map Prod.fst).eraseDups = [token]) :
    graph.Accepts nodes
      ⟨token, (graph.topPriority? members).getD 0, graph.winningEnder members⟩ := by
  have present : graph.winners members ≠ [] := by
    intro none
    rw [none] at only
    simp at only
  refine ⟨?_, ?_, lists.isGreatest_winningEnder present⟩
  · intro top isTop
    obtain ⟨other, member, stored⟩ := lists.exists_winning_token isTop
    rw [only, List.mem_singleton] at member
    rw [stored, member]
  · obtain ⟨terminal, winner⟩ := List.exists_mem_of_ne_nil _ present
    obtain ⟨top, isTop, _⟩ := lists.mem_winners_iff.mp winner
    refine ⟨top, isTop, ?_⟩
    rw [lists.topPriority?_eq_some_iff.mpr ⟨top, isTop, rfl⟩]
    rfl

/-- The outcome of a list is that of the set it lists. -/
theorem Lists.hasOutcome
    (lists : graph.Lists members nodes)
    {outcome : Outcome τ}
    (found : graph.outcome members = .ok outcome) :
    graph.HasOutcome nodes outcome := by
  rw [outcome_eq] at found
  split at found
  · rename_i empty
    cases found
    apply hasOutcome_of_not_hasTerminal
    rw [← lists.winners_eq_nil_iff, List.eq_nil_iff_forall_not_mem]
    intro terminal winner
    obtain ⟨top, isTop, _⟩ := lists.mem_winners_iff.mp winner
    obtain ⟨_, member, _⟩ := lists.exists_winning_token isTop
    rw [empty] at member
    simp at member
  · rename_i token only
    cases found
    have accepts := lists.accepts only
    refine ⟨?_, ?_, lists.stops_iff⟩
    · intro acceptance
      constructor
      · intro same
        cases same
        exact accepts
      · intro other
        rw [accepts.unique other]
    · simp only [reduceCtorEq, false_iff, not_not]
      exact accepts.hasTerminal
  · contradiction

/-- The tokens of an ambiguous list are those of the terminals that count, each of them once. -/
theorem Lists.ambiguous
    (lists : graph.Lists members nodes)
    {ambiguity : Ambiguity τ}
    (failed : graph.outcome members = .error ambiguity) :
    ambiguity.tokens.Nodup ∧
      2 ≤ ambiguity.tokens.length ∧
        ∀ token,
          token ∈ ambiguity.tokens ↔
            ∃ top, graph.IsTop nodes top ∧ (graph.node top).token = some token := by
  have mem_iff :
      ∀ token,
        token ∈ ((graph.winners members).map Prod.fst).eraseDups ↔
          ∃ top, graph.IsTop nodes top ∧ (graph.node top).token = some token := by
    intro token
    rw [List.mem_eraseDups, List.mem_map]
    constructor
    · rintro ⟨terminal, winner, rfl⟩
      obtain ⟨top, isTop, stored, _⟩ := lists.mem_winners_iff.mp winner
      exact ⟨top, isTop, stored⟩
    · rintro ⟨top, isTop, stored⟩
      exact ⟨(token, graph.node top), lists.mem_winners_iff.mpr ⟨top, isTop, stored, rfl⟩, rfl⟩
  have nodup := Contest.nodup_eraseDups ((graph.winners members).map Prod.fst)
  rw [outcome_eq] at failed
  split at failed
  · contradiction
  · contradiction
  · rename_i tokens notEmpty notSingle
    cases failed
    refine ⟨nodup, ?_, mem_iff⟩
    match tokens : ((graph.winners members).map Prod.fst).eraseDups with
    | [] =>
        exact (notEmpty tokens).elim
    | [token] =>
        exact (notSingle token tokens).elim
    | _ :: _ :: _ =>
        simp

/-- A list has an outcome when all terminals that count have the same token. -/
theorem Lists.exists_outcome
    (lists : graph.Lists members nodes)
    (token : τ)
    (agree : ∀ top, graph.IsTop nodes top → (graph.node top).token = some token) :
    ∃ outcome, graph.outcome members = .ok outcome := by
  have same : ∀ other ∈ (graph.winners members).map Prod.fst, other = token := by
    intro other member
    obtain ⟨terminal, winner, rfl⟩ := List.mem_map.mp member
    obtain ⟨top, isTop, stored, _⟩ := lists.mem_winners_iff.mp winner
    exact Option.some.inj (stored.symm.trans (agree top isTop))
  rw [outcome_eq]
  split
  · exact ⟨_, rfl⟩
  · exact ⟨_, rfl⟩
  · rename_i tokens notEmpty notSingle
    exfalso
    cases found : (graph.winners members).map Prod.fst with
    | nil =>
        rw [found] at notEmpty
        exact notEmpty rfl
    | cons first rest =>
        rw [found] at same notSingle
        have gone : (rest.filter fun other => !other == first) = [] := by
          rw [List.filter_eq_nil_iff]
          intro other member
          rw [same other (List.mem_cons_of_mem _ member), same first List.mem_cons_self]
          simp
        rw [List.eraseDups_cons, gone] at notSingle
        exact notSingle first rfl

end Outcome

end LexicalAutomata.Graph
