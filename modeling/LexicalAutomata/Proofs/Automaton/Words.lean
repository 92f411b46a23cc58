import LexicalAutomata.Proofs.Automaton.Longest
import LexicalAutomata.Proofs.Graph.Words

namespace LexicalAutomata.Graph

/-!
# Keys and words

Where no label waits for a boundary and no run stops, the keys that the subset
construction explores are those of the nodes behind words, and a word behind which there
are nodes has its key.
-/

variable {τ : Type} {graph : Graph τ} {start : Nat}

/-- No edge waits for a boundary. -/
def BoundaryFree
    (graph : Graph τ) :
    Prop :=
  ∀ id, ∀ edge ∈ (graph.node id).edges, edge.boundaries = .empty

/-- Without boundaries at the nodes that may count there is nothing to resolve. -/
theorem not_mem_candidates_of_free
    {key : Key}
    (free :
      ∀ id ∈ graph.closure .full key.members,
        ∀ edge ∈ (graph.node id).edges, edge.boundaries = .empty)
    (holding : BoundarySet) :
    holding ∉ graph.candidates key := by
  unfold candidates
  split
  · exact List.not_mem_nil
  · intro candidate
    obtain ⟨nonempty, subset, _⟩ := mem_resolutionCandidates_iff.mp candidate
    apply nonempty
    apply BoundarySet.ext
    intro boundary
    refine iff_of_false ?_ (BoundarySet.not_mem_empty boundary)
    intro member
    obtain ⟨id, reached, edge, edgeMember, waits⟩ :=
      mem_awaited_iff.mp (BoundarySet.isSubset_iff.mp subset boundary member)
    rw [free id reached edge edgeMember] at waits
    exact BoundarySet.not_mem_empty boundary waits

theorem BoundaryFree.not_mem_candidates
    (free : graph.BoundaryFree)
    (key : Key)
    (holding : BoundarySet) :
    holding ∉ graph.candidates key :=
  not_mem_candidates_of_free (fun id _ => free id) holding

/-- What is read is a code point of the domain. -/
theorem lt_codePointLimit_of_afterReading
    {codePoint : Nat}
    {nodes : Set Nat}
    (nonempty : (graph.afterReading codePoint nodes).Nonempty) :
    codePoint < codePointLimit := by
  obtain ⟨_, _, _, _, _, contained⟩ := nonempty
  exact CodePointSet.lt_codePointLimit contained

variable [DecidableEq τ]

/-- Every key that is explored is that of the nodes behind some word. -/
theorem Explored.exists_word
    {key : Key}
    (explored : graph.Explored start key)
    (free : graph.BoundaryFree) :
    ∃ word : List Nat,
      (∀ codePoint ∈ word, codePoint < codePointLimit) ∧
        graph.Lists key.members (graph.behind {start} word) := by
  induction explored with
  | start =>
      exact ⟨[], by simp, graph.lists_startKey start⟩
  | step _ step inductionHypothesis =>
      obtain ⟨word, inDomain, lists⟩ := inductionHypothesis
      cases step with
      | resolving _ candidate _ =>
          exact (free.not_mem_candidates _ _ candidate).elim
      | @reading _ codePoint _ read =>
          refine ⟨word ++ [codePoint], ?_, ?_⟩
          · intro other member
            rcases List.mem_append.mp member with old | new
            · exact inDomain other old
            · cases List.mem_singleton.mp new
              exact lt_codePointLimit_of_afterReading ((lists.targetsAt_ne_nil_iff _).mp read)
          · rw [behind_concat]
            exact lists.closure_targetsAt codePoint

/-- While every explored key has an outcome, there is one for every word that can be read. -/
theorem exists_explored_of_behind
    (patient : ∀ id, (graph.node id).immediate = false)
    (agree :
      ∀ key, graph.Explored start key → ∃ outcome, graph.outcome key.members = .ok outcome)
    (word : List Nat)
    (nonempty : (graph.behind {start} word).Nonempty) :
    ∃ key,
      graph.Explored start key ∧ graph.Lists key.members (graph.behind {start} word) := by
  induction word using List.reverseRecOn with
  | nil =>
      exact ⟨_, .start, graph.lists_startKey start⟩
  | append_singleton word codePoint inductionHypothesis =>
      rw [behind_concat] at nonempty ⊢
      obtain ⟨_, next, read, _⟩ := nonempty
      have before : (graph.behind {start} word).Nonempty := by
        obtain ⟨source, member, _⟩ := read
        exact ⟨source, member⟩
      obtain ⟨key, explored, lists⟩ := inductionHypothesis before
      obtain ⟨outcome, found⟩ := agree key explored
      -- Without immediate terminals no key on the way stops the construction.
      have goesOn : outcome.halts = false := by
        rw [← Bool.not_eq_true, (lists.hasOutcome found).halts]
        exact not_stops patient _
      refine ⟨_, explored.step (.reading ⟨outcome, found, goesOn⟩ ?_),
        lists.closure_targetsAt codePoint⟩
      exact (lists.targetsAt_ne_nil_iff codePoint).mpr ⟨next, read⟩

/-- A construction fails at some word, with the tokens that conflict behind it. -/
theorem exists_word_of_ambiguous
    (free : graph.BoundaryFree)
    {ambiguity : Ambiguity τ}
    (failed : Automaton.ofGraph graph start = .error ambiguity) :
    ∃ word : List Nat,
      (∀ codePoint ∈ word, codePoint < codePointLimit) ∧
        ambiguity.tokens.Nodup ∧
          2 ≤ ambiguity.tokens.length ∧
            ∀ token,
              token ∈ ambiguity.tokens ↔
                ∃ top,
                  graph.IsTop (graph.behind {start} word) top ∧
                    (graph.node top).token = some token := by
  cases built : graph.subsetAutomaton start with
  | ok automaton =>
      rw [Automaton.ofGraph, built] at failed
      contradiction
  | error other =>
      rw [Automaton.ofGraph, built] at failed
      cases failed
      obtain ⟨key, explored, ambiguous⟩ := exists_explored_of_subsetAutomaton built
      obtain ⟨word, inDomain, lists⟩ := explored.exists_word free
      exact ⟨word, inDomain, lists.ambiguous ambiguous⟩

/-- A construction succeeds only if behind every word the terminals that count agree. -/
theorem agrees_behind_of_built
    (patient : ∀ id, (graph.node id).immediate = false)
    {automaton : Automaton τ}
    (built : Automaton.ofGraph graph start = .ok automaton)
    (word : List Nat) :
    graph.Agrees (graph.behind {start} word) := by
  intro first second firstTop secondTop
  have agree := (Automaton.exists_ofGraph_iff graph start).mp ⟨automaton, built⟩
  obtain ⟨key, explored, lists⟩ :=
    exists_explored_of_behind patient agree word ⟨first, firstTop.member⟩
  exact lists.exists_outcome_iff.mp (agree key explored) first second firstTop secondTop

end LexicalAutomata.Graph
