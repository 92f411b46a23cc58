import LexicalAutomata.Proofs.Automaton.Construction

namespace LexicalAutomata

/-!
# The worklist of the subset construction

The keys that have no state yet are the worklist of the construction.  It grows while it is
gone through: by the key of the start node, and in the expansion of a key by those of its
resolutions and of its transitions.  At all times the keys are numbered once, and there are no
more of them than the graph has sets of nodes, settled or not, so the worklist comes to its end.
-/

namespace KeyTable

/-- Number some keys, one after the other. -/
def internAll
    (table : KeyTable)
    (keys : List Key) :
    KeyTable :=
  keys.foldl (fun table key => (KeyTable.intern key table).2) table

/-- Keys are entered one after the other. -/
theorem internAll_append
    (table : KeyTable)
    (keys more : List Key) :
    table.internAll (keys ++ more) = (table.internAll keys).internAll more :=
  List.foldl_append

/-- A table grows by the keys that are entered, and stays consistent. -/
theorem Consistent.internAll
    {table : KeyTable}
    (consistent : table.Consistent)
    {expected : Key → Prop}
    {keys : List Key}
    (asExpected : ∀ key ∈ keys, expected key) :
    Grows expected table (table.internAll keys) := by
  induction keys generalizing table with
  | nil =>
      exact consistent.grows
  | cons key rest inductionHypothesis =>
      obtain ⟨grown, _⟩ := consistent.intern expected key (asExpected key List.mem_cons_self)
      exact grown.trans (inductionHypothesis grown.consistent
        fun other member => asExpected other (List.mem_cons_of_mem key member))

end KeyTable

namespace Graph

variable {τ : Type} {graph : Graph τ}

/-- The keys of the resolutions of a list of nodes, in the order in which they are found. -/
def resolvedKeys
    (graph : Graph τ)
    (members : List Nat) :
    List BoundarySet →
    List Key
  | [] =>
      []
  | holding :: rest =>
      if graph.closure holding members = members then
        graph.resolvedKeys members rest
      else
        ⟨graph.closure holding members, true⟩ :: graph.resolvedKeys members rest

/-- The keys of the transitions between cuts, in the order in which they are found. -/
def readKeys
    (graph : Graph τ)
    (spans : List Transition) :
    List Nat →
    List Key
  | first :: limit :: rest =>
      if (targetsAt spans first).isEmpty then
        graph.readKeys spans (limit :: rest)
      else
        ⟨graph.closure .empty (targetsAt spans first), false⟩ ::
          graph.readKeys spans (limit :: rest)
  | _ =>
      []

/-- The keys that are found when a key is expanded. -/
def foundKeys
    (graph : Graph τ)
    (key : Key)
    (outcome : Outcome τ) :
    List Key :=
  if outcome.halts then
    []
  else
    let spans := graph.spans key.members
    graph.resolvedKeys key.members (graph.candidates key) ++ graph.readKeys spans (cuts spans)

/--
The states and the keys at every moment: when there are none, when the next key is taken from the
worklist, and when some of the keys that are found in its expansion have been numbered.
-/
inductive Moment
    [DecidableEq τ]
    (graph : Graph τ)
    (start : Nat) :
    Array (State τ) →
    KeyTable →
    Prop where
  | empty :
      Moment graph start #[] .empty
  | next
      {states : Array (State τ)}
      {table : KeyTable} :
      Works graph start states table →
      Moment graph start states table
  | expanding
      {states : Array (State τ)}
      {table : KeyTable}
      {key : Key}
      {outcome : Outcome τ}
      {found : List Key} :
      Works graph start states table →
      table.keys[states.size]? = some key →
      graph.outcome key.members = .ok outcome →
      found <+: graph.foundKeys key outcome →
      Moment graph start states (table.internAll found)

/--
The keys, their numbers and the states belong together.  Characters lead to keys that are not
settled and resolutions to settled ones, which have no resolutions in turn.
-/
structure WellNumbered
    [DecidableEq τ]
    (graph : Graph τ)
    (states : Array (State τ))
    (table : KeyTable) : Prop where
  once :
    ∀ (first second : Nat) (key : Key),
      table.keys[first]? = some key → table.keys[second]? = some key → first = second
  numbers :
    ∀ (key : Key) (number : Nat),
      table.numbers[key]? = some number ↔ table.keys[number]? = some key
  ascending :
    ∀ key ∈ table.keys, key.members.Pairwise (· < ·)
  closed :
    ∀ key ∈ table.keys, ∀ id ∈ key.members, ∀ target < graph.size,
      Edge.silent target ∈ (graph.node id).edges → target ∈ key.members
  states_le : states.size ≤ table.keys.size
  keys_le : table.keys.size ≤ 2 * Nat.pow 2 graph.size
  realizes :
    ∀ (id : Nat) (state : State τ),
      states[id]? = some state →
        ∃ key outcome,
          table.keys[id]? = some key ∧
            graph.outcome key.members = .ok outcome ∧
              graph.Realizes table.keys key outcome state
  transition :
    ∀ state ∈ states, ∀ transition ∈ state.transitions,
      ∃ key, table.keys[transition.target]? = some key ∧ key.settled = false
  resolution :
    ∀ state ∈ states, ∀ resolution ∈ state.resolutions,
      ∃ key, table.keys[resolution.target]? = some key ∧ key.settled = true
  settled :
    ∀ (id : Nat) (state : State τ) (key : Key),
      states[id]? = some state → table.keys[id]? = some key → key.settled = true →
        state.boundaries = .empty ∧ state.resolutions = []

section FoundKeys

/-- The resolutions of a state enter the keys that they lead to. -/
theorem resolutions_snd
    (graph : Graph τ)
    (members : List Nat)
    (candidates : List BoundarySet)
    (table : KeyTable) :
    (graph.resolutions members candidates table).2 =
      table.internAll (graph.resolvedKeys members candidates) := by
  induction candidates generalizing table with
  | nil =>
      rfl
  | cons holding rest inductionHypothesis =>
      rw [resolvedKeys, resolutions]
      split
      · exact inductionHypothesis table
      · exact inductionHypothesis (KeyTable.intern ⟨graph.closure holding members, true⟩ table).2

/-- So do its transitions. -/
theorem transitionsBetween_snd
    (graph : Graph τ)
    (spans : List Transition)
    (cuts : List Nat)
    (table : KeyTable) :
    (graph.transitionsBetween spans cuts table).2 =
      table.internAll (graph.readKeys spans cuts) := by
  induction cuts generalizing table with
  | nil =>
      rfl
  | cons first behind inductionHypothesis =>
      cases behind with
      | nil =>
          rfl
      | cons limit rest =>
          rw [readKeys, transitionsBetween]
          split
          · exact inductionHypothesis table
          · exact inductionHypothesis
              (KeyTable.intern ⟨graph.closure .empty (targetsAt spans first), false⟩ table).2

/-- An expansion numbers the keys that are found in it, and no others. -/
theorem stateOf_snd
    (graph : Graph τ)
    (key : Key)
    (outcome : Outcome τ)
    (table : KeyTable) :
    (graph.stateOf key outcome table).2 = table.internAll (graph.foundKeys key outcome) := by
  unfold stateOf foundKeys
  split
  · rfl
  · rw [KeyTable.internAll_append, ← resolutions_snd, ← transitionsBetween_snd, ← transitions_eq]
    rfl

/-- A resolved key comes from boundaries that change a closure. -/
theorem exists_of_mem_resolvedKeys
    {members : List Nat}
    {candidates : List BoundarySet}
    {found : Key}
    (member : found ∈ graph.resolvedKeys members candidates) :
    ∃ holding ∈ candidates,
      graph.closure holding members ≠ members ∧
        found = ⟨graph.closure holding members, true⟩ := by
  induction candidates with
  | nil =>
      simp [resolvedKeys] at member
  | cons holding rest inductionHypothesis =>
      rw [resolvedKeys] at member
      split at member
      · obtain ⟨other, candidate, changes⟩ := inductionHypothesis member
        exact ⟨other, List.mem_cons_of_mem holding candidate, changes⟩
      · rename_i changes
        rcases List.mem_cons.mp member with same | later
        · exact ⟨holding, List.mem_cons_self, changes, same⟩
        · obtain ⟨other, candidate, changes⟩ := inductionHypothesis later
          exact ⟨other, List.mem_cons_of_mem holding candidate, changes⟩

/-- A key that is read comes from a code point that leads on. -/
theorem exists_of_mem_readKeys
    {spans : List Transition}
    {cuts : List Nat}
    {found : Key}
    (member : found ∈ graph.readKeys spans cuts) :
    ∃ codePoint,
      targetsAt spans codePoint ≠ [] ∧
        found = ⟨graph.closure .empty (targetsAt spans codePoint), false⟩ := by
  induction cuts with
  | nil =>
      simp [readKeys] at member
  | cons first behind inductionHypothesis =>
      cases behind with
      | nil =>
          simp [readKeys] at member
      | cons limit rest =>
          rw [readKeys] at member
          split at member
          · exact inductionHypothesis member
          · rename_i read
            rcases List.mem_cons.mp member with same | later
            · exact ⟨first, fun unread => read (List.isEmpty_iff.mpr unread), same⟩
            · exact inductionHypothesis later

/-- A key leads to those that are found in its expansion. -/
theorem keyStep_of_mem_foundKeys
    [DecidableEq τ]
    {key found : Key}
    {outcome : Outcome τ}
    (isOutcome : graph.outcome key.members = .ok outcome)
    (member : found ∈ graph.foundKeys key outcome) :
    ∃ length, graph.KeyStep length key found := by
  cases halts : outcome.halts with
  | true =>
      simp [foundKeys, halts] at member
  | false =>
      have goesOn : graph.GoesOn key :=
        ⟨outcome, isOutcome, halts⟩
      rw [foundKeys, if_neg (by simp [halts])] at member
      rcases List.mem_append.mp member with resolved | read
      · obtain ⟨holding, candidate, changes, rfl⟩ := exists_of_mem_resolvedKeys resolved
        exact ⟨0, .resolving goesOn candidate changes⟩
      · obtain ⟨codePoint, isRead, rfl⟩ := exists_of_mem_readKeys read
        exact ⟨1, .reading goesOn isRead⟩

end FoundKeys

section Expands

variable [DecidableEq τ] {start : Nat} {states : Array (State τ)} {table next : KeyTable}

/-- More keys may be found before there is a state for the next one. -/
theorem Expands.grow
    (expands : graph.Expands start states table)
    (grows : KeyTable.Grows (graph.Explored start) table next) :
    graph.Expands start states next where
  consistent :=
    grows.consistent
  explored key member :=
    (grows.adds key member).elim (expands.explored key) id
  size_le :=
    expands.size_le.trans grows.keeps.size_le
  realizes id state made := by
    obtain ⟨key, outcome, numbered, found, realizes⟩ := expands.realizes id state made
    exact ⟨key, outcome, grows.keeps _ _ numbered, found, realizes.mono grows.keeps⟩

/-- At first, nothing has been expanded. -/
theorem expands_empty
    (graph : Graph τ)
    (start : Nat) :
    graph.Expands start #[] .empty where
  consistent :=
    KeyTable.consistent_empty
  explored key member := by
    simp [KeyTable.empty] at member
  size_le :=
    Nat.zero_le _
  realizes id state made := by
    simp at made

/-- The invariant holds at every moment. -/
theorem Moment.expands
    (moment : graph.Moment start states table) :
    graph.Expands start states table := by
  cases moment with
  | empty =>
      exact expands_empty graph start
  | next works =>
      exact works.expands
  | expanding works next isOutcome found =>
      -- The keys in question are explored, being one step behind the next key.
      have expands := works.expands
      have explored := expands.explored _ (Array.mem_of_getElem? next)
      apply expands.grow
      apply expands.consistent.internAll
      intro key member
      obtain ⟨length, step⟩ := keyStep_of_mem_foundKeys isOutcome (found.subset member)
      exact explored.step step

end Expands

section Realizes

variable {keys : Array Key} {key : Key} {outcome : Outcome τ} {state : State τ}

/-- A character leads to a key that is not settled. -/
theorem Realizes.exists_of_mem_transitions
    (realizes : graph.Realizes keys key outcome state)
    {transition : Transition}
    (member : transition ∈ state.transitions) :
    ∃ next : Key, keys[transition.target]? = some next ∧ next.settled = false := by
  cases halts : outcome.halts with
  | true =>
      rw [realizes.halted halts] at member
      contradiction
  | false =>
      have splits := realizes.splits halts
      obtain ⟨_, numbered⟩ :=
        splits.target transition member transition.first
          ⟨Nat.le_refl _, splits.nonempty transition member⟩
      exact ⟨_, numbered, rfl⟩

/-- A resolution leads to a settled key, and from a key that is not settled. -/
theorem Realizes.exists_of_mem_resolutions
    (realizes : graph.Realizes keys key outcome state)
    {resolution : Resolution}
    (member : resolution ∈ state.resolutions) :
    key.settled = false ∧
      ∃ next : Key, keys[resolution.target]? = some next ∧ next.settled = true := by
  cases halts : outcome.halts with
  | true =>
      rw [realizes.halted halts] at member
      contradiction
  | false =>
      obtain ⟨candidate, numbered⟩ := (realizes.resolves halts).target resolution member
      refine ⟨?_, _, numbered, rfl⟩
      rw [← Bool.not_eq_true]
      intro settled
      simp [candidates, settled] at candidate

/-- A settled key awaits no boundaries, and has no resolutions. -/
theorem Realizes.of_settled
    (realizes : graph.Realizes keys key outcome state)
    (settled : key.settled = true) :
    state.boundaries = .empty ∧ state.resolutions = [] := by
  have unresolved : state.resolutions = [] := by
    rw [List.eq_nil_iff_forall_not_mem]
    intro resolution member
    rw [(realizes.exists_of_mem_resolutions member).1] at settled
    contradiction
  refine ⟨?_, unresolved⟩
  cases halts : outcome.halts with
  | true =>
      rw [realizes.halted halts]
  | false =>
      rw [realizes.boundaries halts, unresolved]
      rfl

end Realizes

/-- The nodes of a key are in ascending order. -/
theorem IsClosureKey.ascending
    {key : Key}
    (isClosure : graph.IsClosureKey key) :
    key.members.Pairwise (· < ·) := by
  obtain ⟨holding, seeds, same⟩ := isClosure
  rw [same]
  exact pairwise_ascending _

/-- A key is closed under the edges that can always be taken. -/
theorem IsClosureKey.closed
    {key : Key}
    (isClosure : graph.IsClosureKey key)
    {id target : Nat}
    (member : id ∈ key.members)
    (inside : target < graph.size)
    (silent : Edge.silent target ∈ (graph.node id).edges) :
    target ∈ key.members := by
  obtain ⟨holding, seeds, same⟩ := isClosure
  rw [same, mem_closure_iff] at member ⊢
  obtain ⟨_, source, seed, path⟩ := member
  exact ⟨inside, source, seed, path.tail ⟨_, silent, rfl, rfl⟩⟩

section Expands

variable [DecidableEq τ] {start : Nat} {states : Array (State τ)} {table : KeyTable}

/-- What the invariant says about numbers. -/
theorem Expands.wellNumbered
    (expands : graph.Expands start states table) :
    graph.WellNumbered states table where
  once _ _ _ :=
    expands.consistent.number_unique
  numbers :=
    expands.consistent
  ascending key member :=
    (expands.explored key member).isClosureKey.ascending
  closed key member _ listed _ :=
    (expands.explored key member).isClosureKey.closed listed
  states_le :=
    expands.size_le
  keys_le :=
    expands.size_keys_le
  realizes :=
    expands.realizes
  transition state member transition := by
    obtain ⟨id, made⟩ := Array.getElem?_of_mem member
    obtain ⟨_, _, _, _, realizes⟩ := expands.realizes id state made
    exact realizes.exists_of_mem_transitions
  resolution state member resolution resolved := by
    obtain ⟨id, made⟩ := Array.getElem?_of_mem member
    obtain ⟨_, _, _, _, realizes⟩ := expands.realizes id state made
    exact (realizes.exists_of_mem_resolutions resolved).2
  settled id state key made numbered settled := by
    obtain ⟨other, _, otherNumbered, _, realizes⟩ := expands.realizes id state made
    cases numbered.symm.trans otherNumbered
    exact realizes.of_settled settled

/-- Every expansion is that of a key. -/
theorem Ends.expansions_le
    {expansions : Nat}
    {result : Except (Ambiguity τ) (Array (State τ))}
    (ends : graph.Ends states table expansions result)
    (states_le : states.size ≤ table.keys.size) :
    expansions ≤ table.keys.size := by
  cases ends with
  | finished _ =>
      exact states_le
  | ambiguous next _ =>
      exact (Array.getElem?_eq_some_iff.mp next).1

end Expands

/--
The worklist comes to its end: there are at most as many expansions as there are sets of nodes,
settled or not, and what is left decides what the construction gives.  An expansion numbers the
keys that are found in it, one after the other, and at every moment, also in the middle of that,
keys, numbers and states belong together.
-/
theorem subsetAutomaton_ends
    [DecidableEq τ]
    (graph : Graph τ)
    (start : Nat) :
    (∃ states table expansions result,
      graph.Works start states table ∧
        graph.Ends states table expansions result ∧
          expansions ≤ 2 * Nat.pow 2 graph.size ∧
            graph.subsetAutomaton start =
              result.map fun states =>
                ⟨states, (KeyTable.intern (graph.startKey start) .empty).1⟩) ∧
      (∀ (key : Key) (outcome : Outcome τ) (table : KeyTable),
        (graph.stateOf key outcome table).2 = table.internAll (graph.foundKeys key outcome)) ∧
        ∀ states table, graph.Moment start states table → graph.WellNumbered states table := by
  refine ⟨?ends, graph.stateOf_snd, fun states table moment => moment.expands.wellNumbered⟩
  case ends =>
    obtain ⟨states, table, expansions, result, works, ends, same⟩ := graph.exists_ends start
    have bounds := works.expands.wellNumbered
    exact ⟨states, table, expansions, result, works, ends,
      (ends.expansions_le bounds.states_le).trans bounds.keys_le, same⟩

/-- A graph that accepts letters a up to the edge of a word. -/
def wordGraph : Graph Nat :=
  ⟨#[{ edges := [.labelled (.ofChar 'a') 1] },
    { edges := [.labelled (.ofChar 'a') 1, .labelled (.ofBoundary .wordEdge) 2] },
    { token := some 1 }]⟩

theorem moment_wordGraph :
    ∃ states table,
      wordGraph.Moment 0 states table ∧
        table.keys = #[⟨[0], false⟩, ⟨[1], false⟩, ⟨[1, 2], true⟩] ∧
          states.size = 1 ∧ wordGraph.WellNumbered states table := by
  have first : wordGraph.outcome (wordGraph.startKey 0).members = .ok ⟨none, false⟩ :=
    rfl
  have second : wordGraph.outcome (Key.mk [1] false).members = .ok ⟨none, false⟩ :=
    rfl
  have found : [⟨[1, 2], true⟩] <+: wordGraph.foundKeys ⟨[1], false⟩ ⟨none, false⟩ := by
    decide +kernel
  have works : wordGraph.Works 0 #[] _ :=
    .begun
  have moment := Moment.expanding (works.expanded (by decide +kernel) first)
    (by decide +kernel) second found
  exact ⟨_, _, moment, by decide +kernel, rfl,
    (subsetAutomaton_ends wordGraph 0).2.2 _ _ moment⟩

end Graph

end LexicalAutomata
