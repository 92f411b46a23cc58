import LexicalAutomata.Proofs.Automaton.Partition
import LexicalAutomata.Proofs.Graph.Terminals
import LexicalAutomata.Proofs.Result
import Mathlib.Data.List.ProdSigma
import Mathlib.Data.List.Sort
import Mathlib.Data.List.Sublists

namespace LexicalAutomata

/-!
# The states of the subset construction

Every state is made from the key with its number: it accepts what the nodes of the key
accept, it is resolved for the boundaries they await, and it reads what they read.  The
keys are closures, so there are no more of them than the construction makes room for,
and every key gets its state.
-/

namespace Graph

variable {τ : Type} {graph : Graph τ}

/-- The sets of boundaries for which the state of a key may be resolved. -/
def candidates
    (graph : Graph τ)
    (key : Key) :
    List BoundarySet :=
  if key.settled then
    []
  else
    graph.resolutionCandidates key.members

/-- The key of a closure, which is what all keys of the construction are. -/
def IsClosureKey
    (graph : Graph τ)
    (key : Key) :
    Prop :=
  ∃ holding seeds, key.members = graph.closure holding seeds

/-- A run that comes to the nodes of a key may go on. -/
def GoesOn
    [DecidableEq τ]
    (graph : Graph τ)
    (key : Key) :
    Prop :=
  ∃ outcome, graph.outcome key.members = .ok outcome ∧ outcome.halts = false

/-- One key leads to another one, by reading no character or one. -/
inductive KeyStep
    [DecidableEq τ]
    (graph : Graph τ) :
    Nat →
    Key →
    Key →
    Prop where
  /-- The boundaries that hold change what the nodes of the key spread to. -/
  | resolving
      {key : Key}
      {holding : BoundarySet} :
      graph.GoesOn key →
      holding ∈ graph.candidates key →
      graph.closure holding key.members ≠ key.members →
      KeyStep graph 0 key ⟨graph.closure holding key.members, true⟩
  /-- A character is read by some of the nodes. -/
  | reading
      {key : Key}
      {codePoint : Nat} :
      graph.GoesOn key →
      targetsAt (graph.spans key.members) codePoint ≠ [] →
      KeyStep graph 1 key
        ⟨graph.closure .empty (targetsAt (graph.spans key.members) codePoint), false⟩

/-- The key of a start node. -/
def startKey
    (graph : Graph τ)
    (start : Nat) :
    Key :=
  ⟨graph.closure .empty [start], false⟩

/-- The key of a start node lists what the node spreads to. -/
theorem lists_startKey
    (graph : Graph τ)
    (start : Nat) :
    graph.Lists (graph.startKey start).members (graph.spread .empty {start}) := by
  have same : ({start} : Set Nat) = { seed | seed ∈ [start] } := by
    ext seed
    simp
  rw [same]
  exact lists_closure _ _

/-- Some steps lead from the key of the start node to a key. -/
inductive Explored
    [DecidableEq τ]
    (graph : Graph τ)
    (start : Nat) :
    Key →
    Prop where
  | start :
      Explored graph start (graph.startKey start)
  | step
      {key next : Key}
      {length : Nat} :
      Explored graph start key →
      graph.KeyStep length key next →
      Explored graph start next

/-- The keys that are explored are closures. -/
theorem Explored.isClosureKey
    [DecidableEq τ]
    {start : Nat}
    {key : Key}
    (explored : graph.Explored start key) :
    graph.IsClosureKey key := by
  cases explored with
  | start =>
      exact ⟨.empty, [start], rfl⟩
  | step _ step =>
      cases step with
      | resolving _ _ _ =>
          exact ⟨_, _, rfl⟩
      | reading _ _ =>
          exact ⟨_, _, rfl⟩

/-- A state does what the nodes of its key do. -/
structure Realizes
    (graph : Graph τ)
    (keys : Array Key)
    (key : Key)
    (outcome : Outcome τ)
    (state : State τ) : Prop where
  acceptance : state.acceptance = outcome.acceptance
  halted : outcome.halts = true → state = ⟨[], .empty, [], outcome.acceptance⟩
  resolves :
    outcome.halts = false →
      graph.Resolves keys key.members (graph.candidates key) state.resolutions
  boundaries :
    outcome.halts = false →
      state.boundaries =
        if state.resolutions.isEmpty then
          .empty
        else
          graph.awaited key.members
  splits :
    outcome.halts = false →
      graph.SplitsInto keys (graph.spans key.members) 0 state.transitions

section Realizes

variable {keys later : Array Key} {key : Key} {outcome : Outcome τ} {state : State τ}

theorem Realizes.mono
    (realizes : graph.Realizes keys key outcome state)
    (kept : KeyTable.Keeps keys later) :
    graph.Realizes later key outcome state where
  acceptance :=
    realizes.acceptance
  halted :=
    realizes.halted
  resolves goesOn :=
    (realizes.resolves goesOn).mono kept
  boundaries :=
    realizes.boundaries
  splits goesOn :=
    (realizes.splits goesOn).mono kept

/-- The transitions of a state are in ascending order. -/
theorem Realizes.ordered
    (realizes : graph.Realizes keys key outcome state) :
    state.transitions.Pairwise fun former latter => former.limit ≤ latter.first := by
  cases halts : outcome.halts with
  | true =>
      rw [realizes.halted halts]
      exact .nil
  | false =>
      exact (realizes.splits halts).ordered

end Realizes

/--
The state that is made from a key does what the nodes of the key do, and the keys that are
found with it are those to which the key leads.
-/
theorem realizes_stateOf
    [DecidableEq τ]
    {table : KeyTable}
    (consistent : table.Consistent)
    {key : Key}
    {outcome : Outcome τ}
    (found : graph.outcome key.members = .ok outcome) :
    let result := graph.stateOf key outcome table
    KeyTable.Grows (fun next => ∃ length, graph.KeyStep length key next) table result.2 ∧
      graph.Realizes result.2.keys key outcome result.1 := by
  cases halts : outcome.halts with
  | true =>
      have unfolded :
          graph.stateOf key outcome table =
            (⟨[], .empty, [], outcome.acceptance⟩, table) := by
        simp only [stateOf, halts, ↓reduceIte]
        rfl
      rw [unfolded]
      exact ⟨consistent.grows, rfl, fun _ => rfl, by simp [halts], by simp [halts],
        by simp [halts]⟩
  | false =>
      have unfolded :
          graph.stateOf key outcome table =
            let resolutions := graph.resolutions key.members (graph.candidates key) table
            let transitions := graph.transitions key.members resolutions.2
            (⟨transitions.1,
              if resolutions.1.isEmpty then .empty else graph.awaited key.members,
              resolutions.1, outcome.acceptance⟩, transitions.2) := by
        simp only [stateOf, halts, Bool.false_eq_true, ↓reduceIte]
        rfl
      rw [unfolded]
      have goesOn : graph.GoesOn key :=
        ⟨outcome, found, halts⟩
      let expected (next : Key) : Prop := ∃ length, graph.KeyStep length key next
      have resolved :
          ∀ holding ∈ graph.candidates key,
            graph.closure holding key.members ≠ key.members →
              expected ⟨graph.closure holding key.members, true⟩ :=
        fun _ candidate changes => ⟨0, .resolving goesOn candidate changes⟩
      have read :
          ∀ codePoint,
            targetsAt (graph.spans key.members) codePoint ≠ [] →
              expected
                ⟨graph.closure .empty (targetsAt (graph.spans key.members) codePoint), false⟩ :=
        fun _ read => ⟨1, .reading goesOn read⟩
      obtain ⟨first, resolves⟩ :=
        graph.resolves_resolutions consistent key.members (graph.candidates key) resolved
      obtain ⟨second, splits⟩ :=
        graph.splitsInto_transitions first.consistent key.members read
      refine ⟨first.trans second, rfl, by simp [halts], ?_, fun _ => rfl, fun _ => splits⟩
      intro _
      exact resolves.mono second.keeps

/-- Expand the keys that have no state yet, without blanks for those that are to come. -/
def expandAll
    [DecidableEq τ]
    (graph : Graph τ)
    (states : Array (State τ))
    (table : KeyTable) :
    (fuel : Nat) →
    Except (Ambiguity τ) (Array (State τ))
  | 0 =>
      .ok states
  | fuel + 1 =>
      match table.keys[states.size]? with
      | none =>
          .ok states
      | some key =>
          match graph.outcome key.members with
          | .error ambiguity =>
              .error ambiguity
          | .ok outcome =>
              let (state, table) := graph.stateOf key outcome table
              graph.expandAll (states.push state) table fuel

/-- The states that have been made, and the keys that have been found so far. -/
structure Expands
    [DecidableEq τ]
    (graph : Graph τ)
    (start : Nat)
    (states : Array (State τ))
    (table : KeyTable) : Prop where
  consistent : table.Consistent
  explored : ∀ key ∈ table.keys, graph.Explored start key
  size_le : states.size ≤ table.keys.size
  realizes :
    ∀ (id : Nat) (state : State τ),
      states[id]? = some state →
        ∃ key outcome,
          table.keys[id]? = some key ∧
            graph.outcome key.members = .ok outcome ∧
              graph.Realizes table.keys key outcome state

/-- The members of a closure are a part of the numbers of all nodes. -/
theorem sublist_range_closure
    (graph : Graph τ)
    (holding : BoundarySet)
    (seeds : List Nat) :
    (graph.closure holding seeds).Sublist (List.range graph.size) := by
  have ordered : (graph.closure holding seeds).Pairwise (· < ·) :=
    pairwise_ascending _
  apply List.sublist_of_subperm_of_pairwise (r := (· < ·)) _ ordered List.pairwise_lt_range
  apply List.Nodup.subperm (ordered.imp fun less => Nat.ne_of_lt less)
  intro id member
  exact List.mem_range.mpr (mem_closure_iff.mp member).1

/-- Without keys that wait for their states there are no blanks. -/
theorem withBlanks_of_size_le
    {states : Array (State τ)}
    {table : KeyTable}
    (enough : table.keys.size ≤ states.size) :
    withBlanks states table = states := by
  rw [withBlanks, Nat.sub_eq_zero_of_le enough]
  simp

/-- More blanks are made when more keys have been found. -/
theorem withBlanks_withBlanks
    (states : Array (State τ))
    {table next : KeyTable}
    (grows : table.keys.size ≤ next.keys.size) :
    withBlanks (withBlanks states table) next = withBlanks states next := by
  simp only [withBlanks, Array.append_assoc, Array.replicate_append_replicate, Array.size_append,
    Array.size_replicate]
  congr 2
  omega

/-- The first blank is filled in. -/
theorem setIfInBounds_withBlanks
    {states : Array (State τ)}
    {table : KeyTable}
    (waits : states.size < table.keys.size)
    (state : State τ) :
    (withBlanks states table).setIfInBounds states.size state =
      withBlanks (states.push state) table := by
  obtain ⟨more, isMore⟩ := Nat.exists_eq_add_one_of_ne_zero (Nat.sub_ne_zero_of_lt waits)
  have behind : table.keys.size - (states.size + 1) = more := by
    omega
  simp only [withBlanks, isMore, Array.size_push, behind]
  rw [Array.setIfInBounds_append_right (Nat.le_refl _), Nat.sub_self, Array.push_eq_append,
    Array.append_assoc]
  congr 1
  apply Array.ext_getElem?
  intro place
  cases place <;> simp [Array.getElem?_append, Array.getElem?_replicate]

section Expands

variable [DecidableEq τ] {start : Nat} {states : Array (State τ)} {table : KeyTable}

/-- There are no more keys than the construction makes room for. -/
theorem Expands.size_keys_le
    (expands : graph.Expands start states table) :
    table.keys.size ≤ graph.keyCount := by
  have subset :
      table.keys.toList ⊆
        ((List.range graph.size).sublists ×ˢ [true, false]).map fun pair =>
          ⟨pair.1, pair.2⟩ := by
    intro key member
    obtain ⟨holding, seeds, same⟩ :=
      (expands.explored key (Array.mem_def.mpr member)).isClosureKey
    have sublist := graph.sublist_range_closure holding seeds
    rw [← same] at sublist
    refine List.mem_map.mpr ⟨(key.members, key.settled), List.mem_product.mpr ⟨?_, ?_⟩, rfl⟩
    · exact List.mem_sublists.mpr sublist
    · cases key.settled <;> simp
  have bound := (List.Nodup.subperm expands.consistent.nodup subset).length_le
  rw [List.length_map, List.length_product, List.length_sublists, List.length_range,
    Array.length_toList] at bound
  unfold keyCount
  simp only [List.length_cons, List.length_nil, Nat.zero_add, Nat.reduceAdd] at bound
  rw [Nat.mul_comm]
  exact bound

/-- The next key gets its state, and the keys that are found with it are explored. -/
theorem Expands.push
    (expands : graph.Expands start states table)
    {key : Key}
    {outcome : Outcome τ}
    (next : table.keys[states.size]? = some key)
    (found : graph.outcome key.members = .ok outcome) :
    let result := graph.stateOf key outcome table
    graph.Expands start (states.push result.1) result.2 ∧
      KeyTable.Keeps table.keys result.2.keys := by
  obtain ⟨grows, realizes⟩ := realizes_stateOf expands.consistent found
  refine ⟨⟨grows.consistent, ?_, ?_, ?_⟩, grows.keeps⟩
  · intro other member
    rcases grows.adds other member with old | new
    · exact expands.explored other old
    · obtain ⟨_, step⟩ := new
      exact (expands.explored key (Array.mem_of_getElem? next)).step step
  · have below := (Array.getElem?_eq_some_iff.mp (grows.keeps _ _ next)).1
    simp only [Array.size_push]
    omega
  · intro id state made
    rw [Array.getElem?_push] at made
    split at made
    · rename_i last
      cases made
      exact ⟨key, outcome, by rw [last]; exact grows.keeps _ _ next, found, realizes⟩
    · obtain ⟨earlier, earlierOutcome, numbered, earlierFound, earlierRealizes⟩ :=
        expands.realizes id state made
      exact ⟨earlier, earlierOutcome, grows.keeps _ _ numbered, earlierFound,
        earlierRealizes.mono grows.keeps⟩

/-- The construction with blanks gives the same states. -/
theorem Expands.expandFrom_eq
    (expands : graph.Expands start states table)
    {fuel : Nat}
    (enough : graph.keyCount ≤ states.size + fuel) :
    graph.expandFrom states.size (withBlanks states table) table fuel =
      graph.expandAll states table fuel := by
  induction fuel generalizing states table with
  | zero =>
      rw [Graph.expandFrom, Graph.expandAll,
        withBlanks_of_size_le (expands.size_keys_le.trans enough)]
  | succ fuel inductionHypothesis =>
      rw [Graph.expandFrom, Graph.expandAll]
      cases next : table.keys[states.size]? with
      | none =>
          simp only
          rw [withBlanks_of_size_le (Array.getElem?_eq_none_iff.mp next)]
      | some key =>
          simp only
          cases found : graph.outcome key.members with
          | error ambiguity =>
              rfl
          | ok outcome =>
              obtain ⟨pushed, keeps⟩ := expands.push next found
              have waits := (Array.getElem?_eq_some_iff.mp next).1
              have goesOn := inductionHypothesis pushed (by simp only [Array.size_push]; omega)
              rw [Array.size_push, ← setIfInBounds_withBlanks (waits.trans_le keeps.size_le),
                ← withBlanks_withBlanks states keeps.size_le] at goesOn
              exact goesOn

/-- Room for more keys than there can be changes nothing. -/
theorem Expands.expandAll_add
    (expands : graph.Expands start states table)
    {fuel : Nat}
    (enough : graph.keyCount ≤ states.size + fuel)
    (more : Nat) :
    graph.expandAll states table (fuel + more) = graph.expandAll states table fuel := by
  induction fuel generalizing states table with
  | zero =>
      have finished : table.keys[states.size]? = none := by
        have bound := expands.size_keys_le
        rw [Array.getElem?_eq_none_iff]
        omega
      cases more with
      | zero =>
          rfl
      | succ more =>
          simp only [Graph.expandAll, finished]
  | succ fuel inductionHypothesis =>
      rw [Nat.add_right_comm, Graph.expandAll, Graph.expandAll]
      cases next : table.keys[states.size]? with
      | none =>
          rfl
      | some key =>
          simp only
          cases found : graph.outcome key.members with
          | error ambiguity =>
              rfl
          | ok outcome =>
              obtain ⟨pushed, _⟩ := expands.push next found
              exact inductionHypothesis pushed (by simp only [Array.size_push]; omega)

end Expands

/-- The first key is that of the start node. -/
theorem expands_start
    [DecidableEq τ]
    (graph : Graph τ)
    (start : Nat) :
    let result := KeyTable.intern (graph.startKey start) .empty
    graph.Expands start #[] result.2 ∧
      result.2.keys[result.1]? = some (graph.startKey start) := by
  obtain ⟨grows, numbered⟩ :=
    KeyTable.consistent_empty.intern (graph.Explored start) (graph.startKey start) .start
  refine ⟨⟨grows.consistent, ?_, Nat.zero_le _, by simp⟩, numbered⟩
  intro key member
  rcases grows.adds key member with old | new
  · simp [KeyTable.empty] at old
  · exact new

/-- The subset construction expands all keys, beginning with that of the start node. -/
theorem subsetAutomaton_eq
    [DecidableEq τ]
    (graph : Graph τ)
    (start : Nat) :
    graph.subsetAutomaton start =
      (graph.expandAll #[] (KeyTable.intern (graph.startKey start) .empty).2
          graph.keyCount).map
        fun states => ⟨states, (KeyTable.intern (graph.startKey start) .empty).1⟩ := by
  rw [← (expands_start graph start).1.expandFrom_eq (Nat.le_add_left _ _)]
  rfl

/--
The states and the keys each time that the next key is taken from the worklist, from the first
time on.  There have been as many expansions as there are states.
-/
inductive Works
    [DecidableEq τ]
    (graph : Graph τ)
    (start : Nat) :
    Array (State τ) →
    KeyTable →
    Prop where
  | begun :
      Works graph start #[] (KeyTable.intern (graph.startKey start) .empty).2
  | expanded
      {states : Array (State τ)}
      {table : KeyTable}
      {key : Key}
      {outcome : Outcome τ} :
      Works graph start states table →
      table.keys[states.size]? = some key →
      graph.outcome key.members = .ok outcome →
      Works graph start (states.push (graph.stateOf key outcome table).1)
        (graph.stateOf key outcome table).2

/--
How many expansions there have been when the worklist is empty, or when the tokens of its next
key turn out to be ambiguous, and what comes of it.
-/
inductive Ends
    [DecidableEq τ]
    (graph : Graph τ)
    (states : Array (State τ))
    (table : KeyTable) :
    Nat →
    Except (Ambiguity τ) (Array (State τ)) →
    Prop where
  | finished :
      table.keys[states.size]? = none →
      Ends graph states table states.size (.ok states)
  | ambiguous
      {key : Key}
      {ambiguity : Ambiguity τ} :
      table.keys[states.size]? = some key →
      graph.outcome key.members = .error ambiguity →
      Ends graph states table (states.size + 1) (.error ambiguity)

section Works

variable [DecidableEq τ] {start : Nat} {states : Array (State τ)} {table : KeyTable}

theorem Works.expands
    (works : graph.Works start states table) :
    graph.Expands start states table := by
  induction works with
  | begun =>
      exact (expands_start graph start).1
  | expanded _ next isOutcome inductionHypothesis =>
      exact (inductionHypothesis.push next isOutcome).1

/-- The first key keeps its number. -/
theorem Works.getElem?_start
    (works : graph.Works start states table) :
    table.keys[(KeyTable.intern (graph.startKey start) .empty).1]? =
      some (graph.startKey start) := by
  induction works with
  | begun =>
      exact (expands_start graph start).2
  | expanded earlier next isOutcome inductionHypothesis =>
      exact (earlier.expands.push next isOutcome).2 _ _ inductionHypothesis

/-- With room for all keys the construction comes to its end, as the worklist does. -/
theorem Works.exists_ends
    (works : graph.Works start states table)
    {fuel : Nat}
    (enough : graph.keyCount ≤ states.size + fuel) :
    ∃ final finalTable expansions,
      graph.Works start final finalTable ∧
        graph.Ends final finalTable expansions (graph.expandAll states table fuel) := by
  induction fuel generalizing states table with
  | zero =>
      -- There have been as many expansions as there can be keys.
      refine ⟨states, table, _, works, .finished ?_⟩
      have := works.expands.size_keys_le
      rw [Array.getElem?_eq_none_iff]
      omega
  | succ fuel inductionHypothesis =>
      rw [Graph.expandAll]
      split
      · rename_i done
        exact ⟨states, table, _, works, .finished done⟩
      · rename_i key next
        split
        · rename_i ambiguity isAmbiguous
          exact ⟨states, table, _, works, .ambiguous next isAmbiguous⟩
        · rename_i outcome isOutcome
          exact inductionHypothesis (works.expanded next isOutcome)
            (by simp only [Array.size_push]; omega)

/-- The construction comes to an end, and gives what there is then. -/
theorem exists_ends
    (graph : Graph τ)
    (start : Nat) :
    ∃ states table expansions result,
      graph.Works start states table ∧
        graph.Ends states table expansions result ∧
          graph.subsetAutomaton start =
            result.map fun states =>
              ⟨states, (KeyTable.intern (graph.startKey start) .empty).1⟩ := by
  have works : graph.Works start #[] (KeyTable.intern (graph.startKey start) .empty).2 :=
    .begun
  obtain ⟨states, table, expansions, works, ends⟩ := works.exists_ends (Nat.le_add_left _ _)
  exact ⟨states, table, expansions, _, works, ends, subsetAutomaton_eq graph start⟩

/-- What the subset construction makes has the states that there are when no key is left. -/
theorem exists_works_of_subsetAutomaton
    {automaton : Automaton τ}
    (built : graph.subsetAutomaton start = .ok automaton) :
    ∃ table,
      graph.Works start automaton.states table ∧
        table.keys[automaton.start]? = some (graph.startKey start) ∧
          table.keys.size = automaton.size := by
  obtain ⟨states, table, _, _, works, ends, same⟩ := graph.exists_ends start
  rw [same] at built
  obtain ⟨final, finished, rfl⟩ := exists_of_map_eq_ok built
  cases finished
  cases ends with
  | finished done =>
      exact ⟨table, works, works.getElem?_start,
        Nat.le_antisymm (Array.getElem?_eq_none_iff.mp done) works.expands.size_le⟩

end Works

/-- The states of an automaton belong to keys, beginning with that of the start node. -/
structure Determinizes
    [DecidableEq τ]
    (graph : Graph τ)
    (start : Nat)
    (keys : Array Key)
    (automaton : Automaton τ) : Prop where
  start :
    keys[automaton.start]? = some (graph.startKey start)
  realizes :
    ∀ (id : Nat) (key : Key),
      keys[id]? = some key →
        ∃ outcome,
          graph.outcome key.members = .ok outcome ∧
            graph.Realizes keys key outcome (automaton.state id)

/-- What the subset construction makes has as many states as keys. -/
theorem determinizes_numbered
    [DecidableEq τ]
    {start : Nat}
    {automaton : Automaton τ}
    (built : graph.subsetAutomaton start = .ok automaton) :
    ∃ keys, graph.Determinizes start keys automaton ∧ keys.size = automaton.size := by
  obtain ⟨table, works, isStart, size⟩ := exists_works_of_subsetAutomaton built
  refine ⟨table.keys, ⟨isStart, ?_⟩, size⟩
  intro id key present
  have below := (Array.getElem?_eq_some_iff.mp present).1
  rw [size] at below
  obtain ⟨other, outcome, otherPresent, found, realizes⟩ :=
    works.expands.realizes id automaton.states[id] (Array.getElem?_eq_getElem below)
  cases present.symm.trans otherPresent
  refine ⟨outcome, found, ?_⟩
  unfold Automaton.state
  rw [Array.getElem?_eq_getElem below]
  exact realizes

/-- What the subset construction makes has a state for each of its keys. -/
theorem determinizes_subsetAutomaton
    [DecidableEq τ]
    {start : Nat}
    {automaton : Automaton τ}
    (built : graph.subsetAutomaton start = .ok automaton) :
    ∃ keys, graph.Determinizes start keys automaton := by
  obtain ⟨keys, determinizes, _⟩ := determinizes_numbered built
  exact ⟨keys, determinizes⟩

/-- Every state of the automaton does what the nodes of some closure do. -/
theorem realizes_of_subsetAutomaton
    [DecidableEq τ]
    {start : Nat}
    {automaton : Automaton τ}
    (built : graph.subsetAutomaton start = .ok automaton)
    (id : Nat) :
    automaton.state id = default ∨
      ∃ keys key outcome,
        graph.IsClosureKey key ∧
          graph.outcome key.members = .ok outcome ∧
            graph.Realizes keys key outcome (automaton.state id) := by
  obtain ⟨table, works, _⟩ := exists_works_of_subsetAutomaton built
  have expands := works.expands
  unfold Automaton.state
  cases made : automaton.states[id]? with
  | none =>
      exact Or.inl rfl
  | some state =>
      obtain ⟨key, outcome, numbered, found, realizes⟩ := expands.realizes id state made
      exact Or.inr ⟨table.keys, key, outcome,
        (expands.explored key (Array.mem_of_getElem? numbered)).isClosureKey, found, realizes⟩

section Determinizes

variable [DecidableEq τ] {start id target length : Nat} {keys : Array Key}
  {automaton : Automaton τ} {key next : Key}

/-- An edge of a state is a step of its key. -/
theorem Determinizes.keyStep_of_mem_edges
    (determinizes : graph.Determinizes start keys automaton)
    (numbered : keys[id]? = some key)
    (leads : (target, length) ∈ (automaton.state id).edges) :
    ∃ next, graph.KeyStep length key next ∧ keys[target]? = some next := by
  obtain ⟨outcome, found, realizes⟩ := determinizes.realizes id _ numbered
  cases halts : outcome.halts with
  | true =>
      rw [realizes.halted halts] at leads
      simp [State.edges] at leads
  | false =>
      have goesOn : graph.GoesOn key :=
        ⟨outcome, found, halts⟩
      rcases List.mem_append.mp leads with resolved | read
      · obtain ⟨resolution, member, same⟩ := List.mem_map.mp resolved
        cases same
        have resolves := realizes.resolves halts
        obtain ⟨candidate, targetNumbered⟩ := resolves.target resolution member
        exact ⟨_, .resolving goesOn candidate (resolves.changes resolution member),
          targetNumbered⟩
      · obtain ⟨transition, member, same⟩ := List.mem_map.mp read
        cases same
        have splits := realizes.splits halts
        obtain ⟨reads, targetNumbered⟩ :=
          splits.target transition member transition.first
            ⟨Nat.le_refl _, splits.nonempty transition member⟩
        exact ⟨_, .reading goesOn reads, targetNumbered⟩

/-- A step of a key is an edge of its state. -/
theorem Determinizes.mem_edges_of_keyStep
    (determinizes : graph.Determinizes start keys automaton)
    (numbered : keys[id]? = some key)
    (step : graph.KeyStep length key next) :
    ∃ target, (target, length) ∈ (automaton.state id).edges ∧ keys[target]? = some next := by
  obtain ⟨outcome, found, realizes⟩ := determinizes.realizes id _ numbered
  cases step with
  | resolving goesOn candidate changes =>
      obtain ⟨other, otherFound, goesOn⟩ := goesOn
      cases found.symm.trans otherFound
      have resolves := realizes.resolves goesOn
      rcases resolves.complete _ candidate with unchanged | ⟨resolution, member, rfl⟩
      · exact (changes unchanged).elim
      · exact ⟨_, List.mem_append_left _ (List.mem_map.mpr ⟨resolution, member, rfl⟩),
          (resolves.target resolution member).2⟩
  | @reading _ codePoint goesOn read =>
      obtain ⟨other, otherFound, goesOn⟩ := goesOn
      cases found.symm.trans otherFound
      have splits := realizes.splits goesOn
      obtain ⟨transition, member, contained⟩ := splits.complete codePoint (Nat.zero_le _) read
      exact ⟨_, List.mem_append_right _ (List.mem_map.mpr ⟨transition, member, rfl⟩),
        (splits.target transition member codePoint contained).2⟩

/-- Every explored key is the key of some state. -/
theorem Determinizes.exists_number
    (determinizes : graph.Determinizes start keys automaton)
    (explored : graph.Explored start key) :
    ∃ id : Nat, keys[id]? = some key := by
  induction explored with
  | start =>
      exact ⟨_, determinizes.start⟩
  | step _ step inductionHypothesis =>
      obtain ⟨id, numbered⟩ := inductionHypothesis
      obtain ⟨target, _, targetNumbered⟩ := determinizes.mem_edges_of_keyStep numbered step
      exact ⟨target, targetNumbered⟩

end Determinizes

/-- The subset construction fails at an explored key, with the ambiguity there. -/
theorem exists_explored_of_subsetAutomaton
    [DecidableEq τ]
    {start : Nat}
    {ambiguity : Ambiguity τ}
    (failed : graph.subsetAutomaton start = .error ambiguity) :
    ∃ key, graph.Explored start key ∧ graph.outcome key.members = .error ambiguity := by
  obtain ⟨states, table, _, _, works, ends, same⟩ := graph.exists_ends start
  rw [same] at failed
  cases ends with
  | finished _ =>
      contradiction
  | @ambiguous key _ next isAmbiguous =>
      cases failed
      exact ⟨key, works.expands.explored key (Array.mem_of_getElem? next), isAmbiguous⟩

/-- The subset construction succeeds when every explored key has an outcome, and only then. -/
theorem exists_subsetAutomaton_iff
    [DecidableEq τ]
    (graph : Graph τ)
    (start : Nat) :
    (∃ automaton, graph.subsetAutomaton start = .ok automaton) ↔
      ∀ key, graph.Explored start key → ∃ outcome, graph.outcome key.members = .ok outcome := by
  constructor
  · rintro ⟨automaton, built⟩ key explored
    obtain ⟨keys, determinizes⟩ := determinizes_subsetAutomaton built
    obtain ⟨id, numbered⟩ := determinizes.exists_number explored
    obtain ⟨outcome, found, _⟩ := determinizes.realizes id key numbered
    exact ⟨outcome, found⟩
  · intro agree
    cases built : graph.subsetAutomaton start with
    | ok automaton =>
        exact ⟨automaton, rfl⟩
    | error ambiguity =>
        obtain ⟨key, explored, ambiguous⟩ := exists_explored_of_subsetAutomaton built
        obtain ⟨outcome, found⟩ := agree key explored
        rw [found] at ambiguous
        contradiction

end Graph

end LexicalAutomata
