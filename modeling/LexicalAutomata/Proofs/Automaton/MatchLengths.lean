import LexicalAutomata.Proofs.Automaton.ScanLengths
import LexicalAutomata.Proofs.Automaton.Words
import Mathlib.Order.Bounds.Image

namespace LexicalAutomata

/-!
# The lengths of matches

What is found at a place is no shorter than the least and no longer than the greatest
length of the automaton.  When no edge that can be reached waits for a boundary, every
edge of a run reads a character, so the accepted lengths are those of the accepted words.
A run can then only be too long for every limit when there are accepted words that are,
because pruning has left no edge that leads astray.
-/

variable {τ : Type}

namespace Automaton

/-- The state behind a word of code points. -/
def readWord?
    (automaton : Automaton τ)
    (id : Nat) :
    List Nat →
    Option Nat
  | [] =>
      some id
  | codePoint :: rest =>
      match (automaton.state id).next? codePoint with
      | none =>
          none
      | some next =>
          automaton.readWord? next rest

/-- The lengths of the accepted words, with the enders taken off. -/
def matchLengths
    (automaton : Automaton τ) :
    Set Nat :=
  { length |
    ∃ word last acceptance,
      (∀ codePoint ∈ word, codePoint < codePointLimit) ∧
        automaton.readWord? automaton.start word = some last ∧
          automaton.acceptance last = some acceptance ∧
            length = word.length - acceptance.enderLength }

variable {automaton : Automaton τ}

/-- A word is read along a run. -/
theorem run_of_readWord?
    {id last : Nat}
    {word : List Nat}
    (read : automaton.readWord? id word = some last) :
    automaton.Run Set.univ word.length word.length id last := by
  induction word generalizing id with
  | nil =>
      cases read
      exact .nil (Set.mem_univ _)
  | cons codePoint rest inductionHypothesis =>
      rw [readWord?] at read
      split at read
      · contradiction
      · rename_i next moves
        rw [List.length_cons]
        have run := Run.cons (Set.mem_univ id) (State.mem_edges_of_next? moves)
          (inductionHypothesis read)
        rwa [Nat.add_comm 1] at run

end Automaton

namespace Graph

variable {graph : Graph τ} {start : Nat}

/-- Edges lead from one node to another, whatever holds and is read. -/
def Reaches
    (graph : Graph τ) :
    Nat →
    Nat →
    Prop :=
  Relation.ReflTransGen fun source target => target ∈ graph.targets source

/-- No edge of a node that can be reached waits for a boundary. -/
def BoundaryFreeFrom
    (graph : Graph τ)
    (start : Nat) :
    Prop :=
  ∀ id, graph.Reaches start id → ∀ edge ∈ (graph.node id).edges, edge.boundaries = .empty

/-- What reachable nodes spread to can be reached. -/
theorem reaches_of_mem_closure
    {holding : BoundarySet}
    {seeds : List Nat}
    (reached : ∀ seed ∈ seeds, graph.Reaches start seed)
    {id : Nat}
    (member : id ∈ graph.closure holding seeds) :
    graph.Reaches start id := by
  obtain ⟨_, seed, seedMember, path⟩ := mem_closure_iff.mp member
  refine (reached seed seedMember).trans (path.lift (fun node => node) ?_)
  rintro source target ⟨edge, edgeMember, _, same⟩
  exact List.mem_map.mpr ⟨edge, edgeMember, same⟩

/-- What is read from reachable nodes can be reached. -/
theorem reaches_of_mem_targetsAt
    {members : List Nat}
    (reached : ∀ id ∈ members, graph.Reaches start id)
    {codePoint target : Nat}
    (member : target ∈ targetsAt (graph.spans members) codePoint) :
    graph.Reaches start target := by
  obtain ⟨span, spanMember, _, rfl⟩ := mem_targetsAt.mp member
  obtain ⟨id, listed, label, edgeMember, _⟩ := mem_spans_iff.mp spanMember
  exact (reached id listed).tail (List.mem_map.mpr ⟨_, edgeMember, rfl⟩)

/-- Only code points of the domain are read. -/
theorem lt_codePointLimit_of_targetsAt
    {members : List Nat}
    {codePoint : Nat}
    (read : targetsAt (graph.spans members) codePoint ≠ []) :
    codePoint < codePointLimit := by
  obtain ⟨target, member⟩ := List.exists_mem_of_ne_nil _ read
  obtain ⟨span, spanMember, contained, _⟩ := mem_targetsAt.mp member
  obtain ⟨_, _, label, _, interval⟩ := mem_spans_iff.mp spanMember
  have inLabel : codePoint ∈ label.points := ⟨_, interval, contained⟩
  exact CodePointSet.lt_codePointLimit inLabel

variable [DecidableEq τ]

/-- The nodes of the explored keys can be reached. -/
theorem Explored.reaches
    {key : Key}
    (explored : graph.Explored start key) :
    ∀ id ∈ key.members, graph.Reaches start id := by
  induction explored with
  | start =>
      intro id member
      refine reaches_of_mem_closure ?_ member
      intro seed seedMember
      rw [List.mem_singleton.mp seedMember]
      exact .refl
  | step _ step inductionHypothesis =>
      cases step with
      | resolving _ _ _ =>
          exact fun id member => reaches_of_mem_closure inductionHypothesis member
      | reading _ _ =>
          intro id member
          exact reaches_of_mem_closure
            (fun target => reaches_of_mem_targetsAt inductionHypothesis) member

/-- Steps of the explored keys read a character where no boundaries are in the way. -/
theorem Explored.length_eq_one
    {key next : Key}
    {length : Nat}
    (explored : graph.Explored start key)
    (free : graph.BoundaryFreeFrom start)
    (step : graph.KeyStep length key next) :
    length = 1 := by
  cases step with
  | resolving _ candidate _ =>
      have none := not_mem_candidates_of_free fun id member =>
        free id (reaches_of_mem_closure explored.reaches member)
      exact (none _ candidate).elim
  | reading _ _ =>
      rfl

variable {keys : Array Key} {automaton : Automaton τ} {id next : Nat} {key : Key}

/-- An edge of the pruned automaton that reads a character reads some code point. -/
theorem Determinizes.exists_next?_prune
    (determinizes : graph.Determinizes start keys automaton)
    (numbered : keys[id]? = some key)
    (leads : (next, 1) ∈ (automaton.prune.state id).edges) :
    ∃ codePoint,
      codePoint < codePointLimit ∧
        (automaton.prune.state id).next? codePoint = some next := by
  obtain ⟨outcome, _, realizes⟩ := determinizes.realizes id key numbered
  rcases List.mem_append.mp leads with resolved | read
  · obtain ⟨_, _, same⟩ := List.mem_map.mp resolved
    cases same
  · obtain ⟨transition, kept, same⟩ := List.mem_map.mp read
    cases same
    rw [Automaton.state_prune] at kept ⊢
    have member := (List.mem_filter.mp kept).1
    have goesOn : outcome.halts = false := by
      rw [← Bool.not_eq_true]
      intro halts
      rw [realizes.halted halts] at member
      contradiction
    have splits := realizes.splits goesOn
    have contained : transition.Contains transition.first :=
      ⟨Nat.le_refl _, splits.nonempty transition member⟩
    refine ⟨transition.first, ?_, ?_⟩
    · exact lt_codePointLimit_of_targetsAt (splits.target transition member _ contained).1
    · exact (State.next?_eq_some_iff (realizes.ordered.filter _)).mpr
        ⟨transition, kept, contained, rfl⟩

/-- Without boundaries the runs of the pruned automaton go along words. -/
theorem Determinizes.exists_word_of_run
    (determinizes : graph.Determinizes start keys automaton)
    (free : graph.BoundaryFreeFrom start)
    (numbered : keys[id]? = some key)
    (explored : graph.Explored start key)
    {edges characters last : Nat}
    (run : automaton.prune.Run Set.univ edges characters id last) :
    edges = characters ∧
      ∃ word : List Nat,
        (∀ codePoint ∈ word, codePoint < codePointLimit) ∧
          word.length = characters ∧
            automaton.prune.readWord? id word = some last := by
  induction run generalizing key with
  | nil _ =>
      exact ⟨rfl, [], by simp, rfl, rfl⟩
  | @cons edges characters id next amount last _ leads _ inductionHypothesis =>
      obtain ⟨nextKey, step, nextNumbered⟩ :=
        determinizes.keyStep_of_mem_edges numbered (Automaton.mem_edges_prune_iff.mp leads).1
      cases explored.length_eq_one free step
      obtain ⟨codePoint, inDomain, moves⟩ := determinizes.exists_next?_prune numbered leads
      obtain ⟨same, word, wordInDomain, length, read⟩ :=
        inductionHypothesis nextNumbered (explored.step step)
      refine ⟨by omega, codePoint :: word, ?_, ?_, ?_⟩
      · rintro other (_ | ⟨_, member⟩)
        · exact inDomain
        · exact wordInDomain other member
      · rw [List.length_cons, length, Nat.add_comm]
      · rw [Automaton.readWord?, moves]
        exact read

/-- Without boundaries the accepted lengths are those of the accepted words. -/
theorem Determinizes.matchLengths_prune
    (determinizes : graph.Determinizes start keys automaton)
    (free : graph.BoundaryFreeFrom start) :
    automaton.prune.matchLengths =
      Int.toNat '' automaton.prune.acceptedLengths automaton.prune.start := by
  ext length
  constructor
  · rintro ⟨word, last, acceptance, _, read, accepted, same⟩
    exact ⟨_, ⟨_, _, last, acceptance, Automaton.run_of_readWord? read, accepted, rfl⟩,
      by omega⟩
  · rintro ⟨_, ⟨edges, characters, last, acceptance, run, accepted, rfl⟩, same⟩
    obtain ⟨_, word, inDomain, count, read⟩ :=
      determinizes.exists_word_of_run free determinizes.start .start run
    exact ⟨word, last, acceptance, inDomain, read, accepted, by omega⟩

/-- Without boundaries the runs are bounded exactly when the accepted words are. -/
theorem Determinizes.bounded_prune_iff
    (determinizes : graph.Determinizes start keys automaton)
    (free : graph.BoundaryFreeFrom start) :
    automaton.prune.Bounded automaton.prune.start ↔ BddAbove automaton.prune.matchLengths := by
  constructor
  · rintro ⟨most, atMost⟩
    refine ⟨most, ?_⟩
    rintro _ ⟨word, last, acceptance, _, read, _, rfl⟩
    have := atMost _ _ _ (Automaton.run_of_readWord? read)
    omega
  · rintro ⟨most, atMost⟩
    obtain ⟨enderLimit, enderAtMost⟩ := automaton.prune.exists_enderLimit
    refine ⟨most + enderLimit, ?_⟩
    intro edges characters last run
    by_cases moved : edges = 0
    · omega
    -- The run goes on to a state that accepts something, and has become no shorter there.
    obtain ⟨final, path, accepts⟩ :=
      Automaton.contains_live_iff.mp (run.live_of_prune moved)
    obtain ⟨further, others, rest⟩ := Automaton.exists_run_of_path path
    obtain ⟨acceptance, accepted⟩ := Option.ne_none_iff_exists'.mp accepts
    rw [← Automaton.acceptance_prune] at accepted
    obtain ⟨same, word, inDomain, length, read⟩ :=
      determinizes.exists_word_of_run free determinizes.start .start
        (run.append (rest.prune accepts))
    have isMatch : word.length - acceptance.enderLength ∈ automaton.prune.matchLengths :=
      ⟨word, final, acceptance, inDomain, read, accepted, rfl⟩
    have := atMost isMatch
    have := enderAtMost _ _ accepted
    omega

end Graph

namespace Automaton

variable [DecidableEq τ] {graph : Graph τ} {start : Nat} {automaton : Automaton τ}

/--
Without boundaries, if anything is accepted, the lengths are the least and the greatest length
of an accepted word, and there is a limit exactly when these lengths are bounded.
-/
theorem lengths_of_boundaryFree
    (built : Automaton.ofGraph graph start = .ok automaton)
    (free : graph.BoundaryFreeFrom start)
    (nonempty : (automaton.acceptedLengths automaton.start).Nonempty) :
    IsLeast automaton.matchLengths automaton.minLength ∧
      (BddAbove automaton.matchLengths →
        ∃ most, automaton.maxLength = some most ∧ IsGreatest automaton.matchLengths most) ∧
        (automaton.maxLength = none ↔ ¬ BddAbove automaton.matchLengths) := by
  obtain ⟨whole, constructed, rfl⟩ := exists_of_map_eq_ok built
  obtain ⟨keys, determinizes⟩ := Graph.determinizes_subsetAutomaton constructed
  have monotone : Monotone Int.toNat := fun _ _ le => Int.toNat_le_toNat le
  have bounded := determinizes.bounded_prune_iff free
  rw [determinizes.matchLengths_prune free] at bounded ⊢
  refine ⟨?_, ?_, ?_⟩
  · obtain ⟨least, isLeast⟩ := exists_isLeast nonempty
    rw [minLength_eq_of_isLeast isLeast]
    exact monotone.map_isLeast isLeast
  · intro limited
    obtain ⟨most, isGreatest, limit⟩ := exists_isGreatest nonempty (bounded.mpr limited)
    exact ⟨most.toNat, limit, monotone.map_isGreatest isGreatest⟩
  · rw [← bounded]
    exact maxLength_eq_none_iff nonempty

/--
What is found at a place is at least as long as the least length and at most as long as the
greatest one, if there is a limit.  Both are zero when no accepting state can be reached.
Otherwise, if no edge that can be reached waits for a boundary, they are the least and the
greatest length of an accepted word with its ender taken off, and there is a limit exactly
when these lengths are bounded.
-/
theorem ofGraph_lengths
    (built : Automaton.ofGraph graph start = .ok automaton) :
    (∀ place searchStart found,
        automaton.longestAt place searchStart = some found →
          automaton.minLength ≤ found.length ∧
            ∀ most, automaton.maxLength = some most → found.length ≤ most) ∧
      ((¬ ∃ last,
          Relation.ReflTransGen automaton.LeadsTo automaton.start last ∧
            automaton.acceptance last ≠ none) →
        automaton.minLength = 0 ∧ automaton.maxLength = some 0) ∧
        (graph.BoundaryFreeFrom start →
          (∃ last,
            Relation.ReflTransGen automaton.LeadsTo automaton.start last ∧
              automaton.acceptance last ≠ none) →
            IsLeast automaton.matchLengths automaton.minLength ∧
              (BddAbove automaton.matchLengths →
                ∃ most,
                  automaton.maxLength = some most ∧ IsGreatest automaton.matchLengths most) ∧
                (automaton.maxLength = none ↔ ¬ BddAbove automaton.matchLengths)) := by
  refine ⟨?_, ?_, ?_⟩
  · intro place searchStart found isFound
    obtain ⟨length, member, same⟩ := exists_acceptedLength_of_longestAt isFound
    rw [same]
    exact ⟨minLength_le member, fun _ limit => le_maxLength member limit⟩
  · intro silent
    apply lengths_of_acceptedLengths_eq_empty
    rwa [← acceptedLengths_nonempty_iff, Set.not_nonempty_iff_eq_empty] at silent
  · intro free accepting
    exact lengths_of_boundaryFree built free (acceptedLengths_nonempty_iff.mpr accepting)

/-- A graph that reads two or more letters a, of which the last one is not in the match. -/
def lettersGraph : Graph Unit :=
  ⟨#[{ edges := [.labelled (.ofChar 'a') 1] },
    { edges := [.labelled (.ofChar 'a') 2] },
    { edges := [.labelled (.ofChar 'a') 2], token := some (), enderLength := 1 }]⟩

/-- The automaton of the graph goes back to its last state with every further letter. -/
def lettersAutomaton : Automaton Unit :=
  ⟨#[⟨[⟨97, 98, 1⟩], .empty, [], none⟩,
    ⟨[⟨97, 98, 2⟩], .empty, [], none⟩,
    ⟨[⟨97, 98, 2⟩], .empty, [], some ⟨(), 0, 1⟩⟩], 0⟩

theorem boundaryFreeFrom_lettersGraph :
    lettersGraph.BoundaryFreeFrom 0 := by
  intro id _ edge member
  match id with
  | 0 | 1 | 2 =>
      cases List.mem_singleton.mp member
      rfl
  | _ + 3 =>
      have := Graph.lt_size_of_mem_edges member
      have size : lettersGraph.size = 3 := rfl
      omega

theorem lengths_lettersGraph :
    Automaton.ofGraph lettersGraph 0 = .ok lettersAutomaton ∧
      IsLeast lettersAutomaton.matchLengths 1 ∧ ¬ BddAbove lettersAutomaton.matchLengths := by
  have found : (Automaton.ofGraph lettersGraph 0).toOption = some lettersAutomaton := by
    decide +kernel
  have built := ok_of_toOption found
  have distances : lettersAutomaton.distances = #[some 0, some 1, some 2] := by
    refine Array.toList_inj.mp ?_
    simp [Automaton.distances, distancesFrom, Search.start, Search.relax, size, state, State.edges,
      lettersAutomaton, List.replicate]
  have shortest : lettersAutomaton.shortest? = some 1 := by
    rw [shortest?, distances]
    decide +kernel
  have least : lettersAutomaton.minLength = 1 := by
    simp only [minLength, lengths, shortest]
    cases lettersAutomaton.postOrder? <;> rfl
  have accepting :
      ∃ last,
        Relation.ReflTransGen lettersAutomaton.LeadsTo lettersAutomaton.start last ∧
          lettersAutomaton.acceptance last ≠ none := by
    refine ⟨2, .head (b := 1) ?_ (.single ?_), by decide⟩
    · show 1 ∈ lettersAutomaton.successors 0
      decide
    · show 2 ∈ lettersAutomaton.successors 1
      decide
  have unlimited : lettersAutomaton.maxLength = none := by
    refine (maxLength_eq_none_iff (acceptedLengths_nonempty_iff.mpr accepting)).mpr ?_
    intro bounded
    have first : (1, 1) ∈ (lettersAutomaton.state 0).edges := by
      decide
    have second : (2, 1) ∈ (lettersAutomaton.state 1).edges := by
      decide
    have again : (2, 1) ∈ (lettersAutomaton.state 2).edges := by
      decide
    exact ((bounded.next first).next second).not_cycle again (.nil (Set.mem_univ 2))
  obtain ⟨isLeast, _, unbounded⟩ :=
    (ofGraph_lengths built).2.2 boundaryFreeFrom_lettersGraph accepting
  rw [least] at isLeast
  exact ⟨built, isLeast, unbounded.mp unlimited⟩

end Automaton

end LexicalAutomata
