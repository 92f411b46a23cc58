import LexicalAutomata.Automaton.Pruning
import LexicalAutomata.Proofs.Automaton.Construction
import LexicalAutomata.Proofs.Graph.Embedding

namespace LexicalAutomata

/-!
# The automata of graphs within other graphs

When the nodes of a graph stand in the same order in a larger graph, the subset construction
does the same in both of them: it finds keys with the places of the same members, gives them
the same numbers and makes the same states of them, or comes to the same ambiguity.
-/

variable {τ : Type}

/-- The key of the places of its members. -/
def Key.relocate
    (place : Nat → Nat)
    (key : Key) :
    Key :=
  ⟨key.members.map place, key.settled⟩

/-- The transition to the place of its target. -/
def Transition.relocate
    (place : Nat → Nat)
    (transition : Transition) :
    Transition :=
  { transition with target := place transition.target }

variable {place : Nat → Nat}

/-- Different keys are different at their new places. -/
theorem Key.relocate_injective
    (injective : Function.Injective place) :
    Function.Injective (Key.relocate place) := by
  rintro ⟨members, settled⟩ ⟨otherMembers, otherSettled⟩ same
  obtain ⟨sameMembers, sameSettled⟩ := Key.mk.inj same
  exact congrArg₂ Key.mk (injective.list_map sameMembers) sameSettled

namespace KeyTable

/-- The keys of one table are those of another one with the places of their members. -/
structure Mirrors
    (place : Nat → Nat)
    (table other : KeyTable) : Prop where
  keys : other.keys = table.keys.map (Key.relocate place)
  numbers : ∀ key : Key, other.numbers[key.relocate place]? = table.numbers[key]?

/-- From tables that mirror one another two computations come to the same, and to such tables. -/
def Parallel
    {α : Type}
    (place : Nat → Nat)
    (run other : StateM KeyTable α) :
    Prop :=
  ∀ table otherTable,
    Mirrors place table otherTable →
      (other otherTable).1 = (run table).1 ∧
        Mirrors place (run table).2 (other otherTable).2

/-- At first, neither table has any keys. -/
theorem mirrors_empty :
    Mirrors place empty empty where
  keys := by
    simp [empty]
  numbers key := by
    simp [empty]

/-- A new key gets the same number in both tables. -/
theorem Mirrors.push
    (injective : Function.Injective place)
    {table other : KeyTable}
    (mirrors : Mirrors place table other)
    (key : Key) :
    Mirrors place ⟨table.keys.push key, table.numbers.insert key table.keys.size⟩
      ⟨other.keys.push (key.relocate place),
        other.numbers.insert (key.relocate place) other.keys.size⟩ where
  keys := by
    simp [mirrors.keys]
  numbers candidate := by
    have same_iff :
        Key.order (key.relocate place) (candidate.relocate place) = .eq ↔
          Key.order key candidate = .eq := by
      simp only [Std.LawfulEqCmp.compare_eq_iff_eq, (Key.relocate_injective injective).eq_iff]
    simp only [Std.TreeMap.getElem?_insert, same_iff, mirrors.numbers, mirrors.keys,
      Array.size_map]

section Parallel

variable {α β : Type} {run other : StateM KeyTable α}

/-- A value is given back without a look at the tables. -/
theorem parallel_pure
    (value : α) :
    Parallel place (pure value) (pure value) :=
  fun _ _ mirrors => ⟨rfl, mirrors⟩

/-- Runs that are parallel can go on in parallel. -/
theorem Parallel.bind
    (parallel : Parallel place run other)
    {next otherNext : α → StateM KeyTable β}
    (nextParallel : ∀ value, Parallel place (next value) (otherNext value)) :
    Parallel place (run >>= next) (other >>= otherNext) := by
  intro table otherTable mirrors
  obtain ⟨sameValue, nextMirrors⟩ := parallel table otherTable mirrors
  have unfolded :
      (other >>= otherNext) otherTable = otherNext (run table).1 (other otherTable).2 :=
    congrArg (otherNext · (other otherTable).2) sameValue
  rw [unfolded]
  exact nextParallel _ _ _ nextMirrors

/-- A key gets the same number at its new place. -/
theorem parallel_intern
    (injective : Function.Injective place)
    (key : Key) :
    Parallel place (intern key) (intern (key.relocate place)) := by
  intro table otherTable mirrors
  unfold intern
  rw [mirrors.numbers]
  cases table.numbers[key]? with
  | some number =>
      exact ⟨rfl, mirrors⟩
  | none =>
      refine ⟨?_, mirrors.push injective key⟩
      simp [mirrors.keys]

end Parallel

end KeyTable

/-- What matters of a terminal node are not its edges. -/
theorem Contest.sweep_relocate
    [DecidableEq τ]
    (contest : Contest τ)
    (terminals : List (τ × Node τ)) :
    contest.sweep (terminals.map fun terminal => (terminal.1, terminal.2.relocate place)) =
      contest.sweep terminals := by
  induction terminals generalizing contest with
  | nil =>
      rfl
  | cons terminal rest inductionHypothesis =>
      exact inductionHypothesis _

namespace Graph

open KeyTable

variable {graph other : Graph τ}

/-- The spans of an edge lead to the place of its target when the edge does. -/
theorem spansOf_relocate
    (edge : Edge) :
    spansOf (edge.relocate place) = (spansOf edge).map (Transition.relocate place) := by
  cases edge with
  | silent =>
      rfl
  | labelled label target =>
      simp only [Edge.relocate, spansOf, List.map_map]
      rfl

/-- Spans are cut at the same code points. -/
theorem cuts_relocate
    (spans : List Transition) :
    cuts (spans.map (Transition.relocate place)) = cuts spans := by
  unfold cuts
  rw [List.flatMap_map]
  rfl

/-- A code point leads to the new places of its targets. -/
theorem targetsAt_relocate
    (mono : StrictMono place)
    (spans : List Transition)
    (codePoint : Nat) :
    targetsAt (spans.map (Transition.relocate place)) codePoint =
      (targetsAt spans codePoint).map place := by
  unfold targetsAt
  rw [List.filter_map, List.map_map, ← ascending_map mono, List.map_map]
  rfl

/-- The edges of nodes are at their new places. -/
theorem Embeds.edges_eq
    (embeds : Embeds place graph other)
    (members : List Nat) :
    (members.map place).flatMap (fun id => (other.node id).edges) =
      (members.flatMap fun id => (graph.node id).edges).map (Edge.relocate place) := by
  rw [List.flatMap_map, List.map_flatMap]
  simp only [embeds.node, Node.relocate]

/-- The terminals among nodes are at their new places. -/
theorem Embeds.terminals_eq
    (embeds : Embeds place graph other)
    (members : List Nat) :
    other.terminals (members.map place) =
      (graph.terminals members).map fun terminal =>
        (terminal.1, terminal.2.relocate place) := by
  unfold terminals
  rw [List.filterMap_map, List.map_filterMap]
  refine congrArg (List.filterMap · members) (funext fun id => ?_)
  simp only [Function.comp_apply, embeds.node, Option.map_map]
  rfl

/-- The places of some nodes accept the same as the nodes. -/
theorem Embeds.outcome_eq
    [DecidableEq τ]
    (embeds : Embeds place graph other)
    (members : List Nat) :
    other.outcome (members.map place) = graph.outcome members := by
  unfold outcome
  rw [embeds.terminals_eq]
  cases graph.terminals members with
  | nil =>
      rfl
  | cons terminal rest =>
      simp only [List.map_cons, Contest.sweep_relocate]
      rfl

/-- Nodes wait for the same boundaries. -/
theorem Embeds.awaited_eq
    (embeds : Embeds place graph other)
    (members : List Nat) :
    other.awaited (members.map place) = graph.awaited members := by
  unfold awaited
  rw [embeds.closure_eq, embeds.edges_eq, List.foldl_map]
  simp only [Edge.boundaries_relocate]

/-- So the same sets of boundaries come into question. -/
theorem Embeds.resolutionCandidates_eq
    (embeds : Embeds place graph other)
    (members : List Nat) :
    other.resolutionCandidates (members.map place) = graph.resolutionCandidates members := by
  unfold resolutionCandidates
  rw [embeds.awaited_eq]

/-- The spans of nodes lead to the new places of their targets. -/
theorem Embeds.spans_eq
    (embeds : Embeds place graph other)
    (members : List Nat) :
    other.spans (members.map place) =
      (graph.spans members).map (Transition.relocate place) := by
  unfold spans
  rw [List.flatMap_map, List.map_flatMap]
  simp only [embeds.node, Node.relocate, List.flatMap_map, List.map_flatMap, spansOf_relocate]

/-- Resolutions are found in parallel. -/
theorem Embeds.resolutions
    (embeds : Embeds place graph other)
    (members : List Nat)
    (candidates : List BoundarySet) :
    Parallel place (graph.resolutions members candidates)
      (other.resolutions (members.map place) candidates) := by
  have injective := embeds.mono.injective
  induction candidates with
  | nil =>
      exact parallel_pure []
  | cons holding rest inductionHypothesis =>
      rw [Graph.resolutions, Graph.resolutions]
      simp only [embeds.closure_eq, injective.list_map.eq_iff]
      split
      · exact inductionHypothesis
      · exact (parallel_intern injective ⟨graph.closure holding members, true⟩).bind
          fun _ => inductionHypothesis.bind fun _ => parallel_pure _

/-- Transitions are found in parallel, cut by cut. -/
theorem Embeds.transitionsBetween
    (embeds : Embeds place graph other)
    (spans : List Transition)
    (cuts : List Nat) :
    Parallel place (graph.transitionsBetween spans cuts)
      (other.transitionsBetween (spans.map (Transition.relocate place)) cuts) := by
  fun_induction Graph.transitionsBetween graph spans cuts with
  | case1 first limit rest targets isEmpty inductionHypothesis =>
      rw [Graph.transitionsBetween]
      simp only [targetsAt_relocate embeds.mono, List.isEmpty_map]
      rw [if_pos isEmpty]
      exact inductionHypothesis
  | case2 first limit rest targets nonempty inductionHypothesis =>
      rw [Graph.transitionsBetween]
      simp only [targetsAt_relocate embeds.mono, List.isEmpty_map]
      rw [if_neg nonempty, embeds.closure_eq]
      exact (parallel_intern embeds.mono.injective ⟨graph.closure .empty targets, false⟩).bind
        fun _ => inductionHypothesis.bind fun _ => parallel_pure _
  | case3 cuts short =>
      rw [Graph.transitionsBetween]
      · exact parallel_pure []
      · exact short

/-- All transitions of a state are found in parallel. -/
theorem Embeds.transitions
    (embeds : Embeds place graph other)
    (members : List Nat) :
    Parallel place (graph.transitions members) (other.transitions (members.map place)) := by
  rw [transitions_eq, transitions_eq, embeds.spans_eq, cuts_relocate]
  exact embeds.transitionsBetween _ _

/-- The same state is made of a key and of the key of the places of its members. -/
theorem Embeds.stateOf
    (embeds : Embeds place graph other)
    (key : Key)
    (outcome : Outcome τ) :
    Parallel place (graph.stateOf key outcome)
      (other.stateOf (key.relocate place) outcome) := by
  unfold Graph.stateOf
  simp only [Key.relocate, embeds.resolutionCandidates_eq, embeds.awaited_eq]
  split
  · exact parallel_pure _
  · exact (embeds.resolutions _ _).bind fun _ => (embeds.transitions _).bind fun _ =>
      parallel_pure _

/-- With equally much room the same states are made of keys that mirror one another. -/
theorem Embeds.expandAll
    [DecidableEq τ]
    (embeds : Embeds place graph other)
    {table otherTable : KeyTable}
    (mirrors : Mirrors place table otherTable)
    (states : Array (State τ))
    (fuel : Nat) :
    other.expandAll states otherTable fuel = graph.expandAll states table fuel := by
  induction fuel generalizing states table otherTable with
  | zero =>
      rfl
  | succ fuel inductionHypothesis =>
      rw [Graph.expandAll, Graph.expandAll, mirrors.keys, Array.getElem?_map]
      cases table.keys[states.size]? with
      | none =>
          rfl
      | some key =>
          have sameOutcome :
              other.outcome (key.relocate place).members = graph.outcome key.members :=
            embeds.outcome_eq key.members
          simp only [Option.map_some, sameOutcome]
          cases graph.outcome key.members with
          | error ambiguity =>
              rfl
          | ok outcome =>
              obtain ⟨sameState, nextMirrors⟩ := embeds.stateOf key outcome _ _ mirrors
              change
                other.expandAll
                    (states.push (other.stateOf (key.relocate place) outcome otherTable).1) _ fuel =
                  _
              rw [sameState]
              exact inductionHypothesis nextMirrors _

/-- The subset construction does the same in both graphs. -/
theorem Embeds.subsetAutomaton
    [DecidableEq τ]
    (embeds : Embeds place graph other)
    (start : Nat) :
    other.subsetAutomaton (place start) = graph.subsetAutomaton start := by
  have sameKey : other.startKey (place start) = (graph.startKey start).relocate place :=
    congrArg (Key.mk · false) (embeds.closure_eq .empty [start])
  obtain ⟨sameStart, mirrors⟩ :=
    parallel_intern embeds.mono.injective (graph.startKey start) _ _ mirrors_empty
  -- The larger graph has room for more keys, but no more are found.
  have room : graph.keyCount ≤ other.keyCount :=
    Nat.mul_le_mul_left 2 (Nat.pow_le_pow_right (by decide) embeds.size_le)
  obtain ⟨more, sum⟩ := Nat.exists_eq_add_of_le room
  have enough : graph.keyCount ≤ (#[] : Array (State τ)).size + graph.keyCount := by
    simp
  rw [subsetAutomaton_eq, subsetAutomaton_eq, sameKey, sameStart, embeds.expandAll mirrors, sum,
    (expands_start graph start).1.expandAll_add enough]

/-- The automata of both graphs are the same, or both graphs have the same ambiguity. -/
theorem Embeds.ofGraph
    [DecidableEq τ]
    (embeds : Embeds place graph other)
    (start : Nat) :
    Automaton.ofGraph other (place start) = Automaton.ofGraph graph start := by
  rw [Automaton.ofGraph, Automaton.ofGraph, embeds.subsetAutomaton]

end Graph

end LexicalAutomata
