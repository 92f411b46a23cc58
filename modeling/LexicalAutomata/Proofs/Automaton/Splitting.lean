import LexicalAutomata.Proofs.Automaton.Pruning
import LexicalAutomata.Proofs.Automaton.Worklist

namespace LexicalAutomata

/-!
# Code points are split exactly

The transitions for a list of nodes contain the code points that some edge of the nodes reads,
and each of them leads to what is reached by reading any of its code points.  Two transitions
that touch lead to different states, so there are no more transitions than there have to be.  An
automaton reads a character along the transition with it, and pruning only drops transitions.
-/

/-- Where two transitions touch, they lead to different states. -/
def Transition.Apart
    (former latter : Transition) :
    Prop :=
  former.limit = latter.first → former.target ≠ latter.target

namespace Graph

variable {τ : Type} {graph : Graph τ}

/--
A number is that of a key that is not settled, and lists in ascending order what the nodes behind
a code point spread to.
-/
def IsBehind
    (graph : Graph τ)
    (keys : Array Key)
    (members : List Nat)
    (codePoint number : Nat) :
    Prop :=
  ∃ key : Key,
    keys[number]? = some key ∧
      key.settled = false ∧
        key.members.Pairwise (· < ·) ∧
          graph.Lists key.members
            (graph.spread .empty (graph.afterReading codePoint { id | id ∈ members }))

/-- Transitions for the code points that are read by some nodes, and for no others. -/
structure SplitsExactly
    (graph : Graph τ)
    (keys : Array Key)
    (members : List Nat)
    (transitions : List Transition) : Prop where
  nonempty :
    ∀ transition ∈ transitions, transition.first < transition.limit
  ordered :
    transitions.Pairwise fun former latter => former.limit ≤ latter.first
  apart : transitions.IsChain Transition.Apart
  contained_iff :
    ∀ codePoint,
      (∃ transition ∈ transitions, transition.Contains codePoint) ↔
        (graph.afterReading codePoint { id | id ∈ members }).Nonempty
  behind :
    ∀ transition ∈ transitions, ∀ codePoint, transition.Contains codePoint →
      graph.IsBehind keys members codePoint transition.target

/--
A state reads a character just when some node of its key does, unless runs end at the key.  It is
led to the state behind the character.  Pruning drops transitions to dead states.
-/
structure ReadsExactly
    [DecidableEq τ]
    (graph : Graph τ)
    (keys : Array Key)
    (automaton : Automaton τ)
    (id : Nat)
    (key : Key) : Prop where
  next?_eq_some_iff :
    ∀ (char : Char) (target : Nat),
      automaton.next? id char = some target ↔
        graph.GoesOn key ∧
          (graph.afterReading char.toNat { id | id ∈ key.members }).Nonempty ∧
            graph.IsBehind keys key.members char.toNat target
  sublist_prune :
    (automaton.prune.state id).transitions.Sublist (automaton.state id).transitions
  next?_prune :
    ∀ char : Char,
      automaton.prune.next? id char = automaton.next? id char ∨
        (automaton.prune.next? id char = none ∧
          ∃ next, automaton.next? id char = some next ∧ automaton.Dead next)

/-- What is put in front of transitions stays apart from them. -/
theorem isChain_joinTransition
    {transition : Transition}
    {rest : List Transition}
    (apart : rest.IsChain Transition.Apart) :
    (joinTransition transition rest).IsChain Transition.Apart := by
  cases rest with
  | nil =>
      exact .singleton transition
  | cons next others =>
      rw [joinTransition]
      split
      · -- The joined transition ends where the next one did, and leads to the same state.
        cases others with
        | nil =>
            exact .singleton _
        | cons last others =>
            rw [List.isChain_cons_cons] at apart ⊢
            exact apart
      · rename_i separate
        exact .cons_cons (fun touches same => separate ⟨touches, same⟩) apart

theorem isChain_transitionsBetween
    (graph : Graph τ)
    (spans : List Transition)
    (cuts : List Nat)
    (table : KeyTable) :
    (graph.transitionsBetween spans cuts table).1.IsChain Transition.Apart := by
  induction cuts generalizing table with
  | nil =>
      exact .nil
  | cons first behind inductionHypothesis =>
      cases behind with
      | nil =>
          exact .nil
      | cons limit rest =>
          rw [transitionsBetween]
          split
          · exact inductionHypothesis table
          · exact isChain_joinTransition (inductionHypothesis _)

section SplitsExactly

variable {keys : Array Key} {members : List Nat} {codePoint number : Nat}

/-- The number that is given when a code point is read is behind it. -/
theorem isBehind_of_getElem?
    (numbered :
      keys[number]? =
        some ⟨graph.closure .empty (targetsAt (graph.spans members) codePoint), false⟩) :
    graph.IsBehind keys members codePoint number := by
  have same :
      { target | target ∈ targetsAt (graph.spans members) codePoint } =
        graph.afterReading codePoint { id | id ∈ members } :=
    Set.ext fun target => mem_targetsAt_spans
  refine ⟨_, numbered, rfl, pairwise_ascending _, ?_⟩
  rw [← same]
  exact lists_closure _ _

/-- Only one number is behind a code point. -/
theorem IsBehind.unique
    {table : KeyTable}
    (consistent : table.Consistent)
    {other : Nat}
    (behind : graph.IsBehind table.keys members codePoint number)
    (otherBehind : graph.IsBehind table.keys members codePoint other) :
    number = other := by
  obtain ⟨⟨listed, _⟩, numbered, rfl, ascending, lists⟩ := behind
  obtain ⟨⟨otherListed, _⟩, otherNumbered, rfl, otherAscending, otherLists⟩ := otherBehind
  have same : listed = otherListed :=
    List.Pairwise.eq_of_mem_iff ascending otherAscending
      fun id => (lists id).trans (otherLists id).symm
  rw [← same] at otherNumbered
  exact consistent.number_unique numbered otherNumbered

/-- The transitions between all cuts split the code points, when those that touch are apart. -/
theorem SplitsInto.exactly
    {transitions : List Transition}
    (splits : graph.SplitsInto keys (graph.spans members) 0 transitions)
    (apart : transitions.IsChain Transition.Apart) :
    graph.SplitsExactly keys members transitions where
  nonempty :=
    splits.nonempty
  ordered :=
    splits.ordered
  apart :=
    apart
  contained_iff codePoint := by
    rw [← targetsAt_spans_ne_nil_iff]
    constructor
    · rintro ⟨transition, member, contained⟩
      exact (splits.target transition member codePoint contained).1
    · exact splits.complete codePoint (Nat.zero_le _)
  behind transition member codePoint contained :=
    isBehind_of_getElem? (splits.target transition member codePoint contained).2

/--
The transitions for a list of nodes split the code points exactly.  The keys that are found with
them are not settled.
-/
theorem grows_and_splitsExactly
    (graph : Graph τ)
    {table : KeyTable}
    (consistent : table.Consistent)
    (members : List Nat) :
    let result := graph.transitions members table
    KeyTable.Grows (fun key => key.settled = false) table result.2 ∧
      graph.SplitsExactly result.2.keys members result.1 := by
  let unsettled (key : Key) : Prop := key.settled = false
  have found :
      ∀ codePoint,
        targetsAt (graph.spans members) codePoint ≠ [] →
          unsettled ⟨graph.closure .empty (targetsAt (graph.spans members) codePoint), false⟩ :=
    fun _ _ => rfl
  obtain ⟨grows, splits⟩ := graph.splitsInto_transitions consistent members found
  refine ⟨grows, splits.exactly ?_⟩
  rw [transitions_eq]
  exact graph.isChain_transitionsBetween _ _ table

end SplitsExactly

section ReadsExactly

variable [DecidableEq τ] {table : KeyTable} {key : Key} {outcome : Outcome τ}

/-- What is read by the state of a key. -/
theorem Realizes.next?_eq_some_iff
    {state : State τ}
    (realizes : graph.Realizes table.keys key outcome state)
    (consistent : table.Consistent)
    (isOutcome : graph.outcome key.members = .ok outcome)
    (codePoint target : Nat) :
    state.next? codePoint = some target ↔
      graph.GoesOn key ∧
        (graph.afterReading codePoint { id | id ∈ key.members }).Nonempty ∧
          graph.IsBehind table.keys key.members codePoint target := by
  cases halts : outcome.halts with
  | true =>
      rw [realizes.halted halts]
      refine iff_of_false (by simp [State.next?]) ?_
      rintro ⟨⟨other, isOther, goesOn⟩, _⟩
      cases isOutcome.symm.trans isOther
      rw [halts] at goesOn
      contradiction
  | false =>
      have splits := realizes.splits halts
      rw [State.next?_eq_some_iff realizes.ordered, ← targetsAt_spans_ne_nil_iff]
      constructor
      · rintro ⟨transition, member, contained, rfl⟩
        obtain ⟨read, numbered⟩ := splits.target transition member codePoint contained
        exact ⟨⟨outcome, isOutcome, halts⟩, read, isBehind_of_getElem? numbered⟩
      · rintro ⟨_, read, behind⟩
        -- Some transition has the code point, and its target cannot be another number.
        obtain ⟨transition, member, contained⟩ := splits.complete codePoint (Nat.zero_le _) read
        have numbered := (splits.target transition member codePoint contained).2
        exact ⟨transition, member, contained,
          (isBehind_of_getElem? numbered).unique consistent behind⟩

/-- The states that have been made read exactly what their keys read. -/
theorem Expands.readsExactly
    {start id : Nat}
    {automaton : Automaton τ}
    (expands : graph.Expands start automaton.states table)
    (below : id < automaton.size)
    (numbered : table.keys[id]? = some key) :
    graph.ReadsExactly table.keys automaton id key := by
  have made : automaton.states[id]? = some (automaton.state id) := by
    rw [Automaton.state, Array.getElem?_eq_getElem below]
    rfl
  obtain ⟨other, outcome, otherNumbered, isOutcome, realizes⟩ := expands.realizes id _ made
  cases numbered.symm.trans otherNumbered
  refine
    { next?_eq_some_iff := fun char =>
        realizes.next?_eq_some_iff expands.consistent isOutcome char.toNat
      sublist_prune := ?_
      next?_prune := Automaton.next?_prune realizes.ordered }
  rw [Automaton.state_prune]
  exact List.filter_sublist

end ReadsExactly

/--
The transitions for a list of nodes split the code points exactly, whatever keys there have been
before.  So every state of an automaton reads exactly the characters of its key, before it is
pruned, and pruning only drops transitions.
-/
theorem splitsExactly_transitions
    [DecidableEq τ]
    (graph : Graph τ) :
    (∀ (table : KeyTable) (members : List Nat),
      table.Consistent →
        let result := graph.transitions members table
        KeyTable.Grows (fun key => key.settled = false) table result.2 ∧
          graph.SplitsExactly result.2.keys members result.1) ∧
      ∀ (start : Nat) (automaton : Automaton τ),
        graph.subsetAutomaton start = .ok automaton →
          ∃ table,
            graph.Works start automaton.states table ∧
              table.keys.size = automaton.size ∧
                ∀ (id : Nat) (key : Key),
                  table.keys[id]? = some key → graph.ReadsExactly table.keys automaton id key := by
  refine ⟨fun table members consistent => graph.grows_and_splitsExactly consistent members, ?_⟩
  intro start automaton built
  obtain ⟨table, works, _, size⟩ := exists_works_of_subsetAutomaton built
  refine ⟨table, works, size, fun id key numbered => ?_⟩
  have below := (Array.getElem?_eq_some_iff.mp numbered).1
  rw [size] at below
  exact works.expands.readsExactly below numbered

/-- Two labels that overlap; behind the first one there is also what is behind the second one. -/
def overlapGraph : Graph Nat :=
  ⟨#[{ edges :=
        [.labelled (Label.empty.addSpan 97 110) 1, .labelled (Label.empty.addSpan 104 123) 2] },
    { edges := [.silent 2], token := some 1, priority := 1 },
    { token := some 2 }]⟩

theorem splitsExactly_overlapGraph :
    let result := overlapGraph.transitions [0] .empty
    result.1 = [⟨97, 110, 0⟩, ⟨110, 123, 1⟩] ∧
      result.2.keys = #[⟨[1, 2], false⟩, ⟨[2], false⟩] ∧
        overlapGraph.SplitsExactly result.2.keys [0] result.1 ∧
          ∃ (automaton : Automaton Nat) (table : KeyTable) (key : Key),
            overlapGraph.subsetAutomaton 0 = .ok automaton ∧
              automaton.next? 0 'h' = some 1 ∧
                table.keys[0]? = some key ∧
                  overlapGraph.ReadsExactly table.keys automaton 0 key := by
  have evaluated :
      ((overlapGraph.subsetAutomaton 0).toOption.map fun automaton =>
        (automaton.size, automaton.next? 0 'h')) = some (3, some 1) := by
    decide +kernel
  obtain ⟨automaton, isAutomaton, evaluated⟩ := Option.map_eq_some_iff.mp evaluated
  obtain ⟨size, read⟩ := Prod.mk.inj evaluated
  have built := ok_of_toOption isAutomaton
  obtain ⟨splits, reads⟩ := splitsExactly_transitions overlapGraph
  obtain ⟨table, _, sizeKeys, reads⟩ := reads 0 automaton built
  have numbered : table.keys[0]? = some table.keys[0] :=
    Array.getElem?_eq_getElem (by omega)
  exact ⟨by decide +kernel, by decide +kernel,
    (splits .empty [0] KeyTable.consistent_empty).2, automaton, table, _, built, read, numbered,
    reads 0 _ numbered⟩

end Graph

end LexicalAutomata
