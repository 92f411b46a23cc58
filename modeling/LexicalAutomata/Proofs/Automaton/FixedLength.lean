import LexicalAutomata.Proofs.Automaton.Following
import LexicalAutomata.Proofs.Automaton.Longest
import LexicalAutomata.Proofs.Automaton.MatchLengths

namespace LexicalAutomata

/-!
# Words of one length

When no edge waits for a boundary, a run with some number of edges stands for a word with as
many code points.  So if all words that end at a terminal have one length, it is both the
least and the greatest length of the automaton.
-/

variable {τ : Type} [DecidableEq τ] {graph : Graph τ} {start : Nat} {keys : Array Key}
  {automaton : Automaton τ}

namespace Graph

/-- A run from a state that follows a word leads to a state that follows a longer word. -/
theorem Determinizes.follows_of_run
    (determinizes : graph.Determinizes start keys automaton)
    (free : graph.BoundaryFree)
    (patient : ∀ id, (graph.node id).immediate = false)
    {allowed : Set Nat}
    {edges characters id last : Nat}
    (run : automaton.Run allowed edges characters id last)
    {word : List Nat}
    (follows : graph.Follows start keys id word) :
    ∃ more : List Nat, more.length = edges ∧ graph.Follows start keys last (word ++ more) := by
  induction run generalizing word with
  | nil _ =>
      exact ⟨[], rfl, by rwa [List.append_nil]⟩
  | cons _ leads _ inductionHypothesis =>
      have leadsTo := Automaton.leadsTo_iff.mpr ⟨_, leads⟩
      obtain ⟨codePoint, nextFollows⟩ :=
        determinizes.follows_of_leadsTo free patient follows leadsTo
      obtain ⟨more, length, lastFollows⟩ := inductionHypothesis nextFollows
      rw [List.append_assoc] at lastFollows
      exact ⟨codePoint :: more, congrArg (· + 1) length, lastFollows⟩

end Graph

namespace Automaton

/-- All accepted words are as long as the words that end at a terminal. -/
theorem eq_of_mem_matchLengths
    (built : Automaton.ofGraph graph start = .ok automaton)
    (free : graph.BoundaryFree)
    (plain : graph.Plain)
    {count : Nat}
    (words : ∀ word, graph.HasTerminal (graph.behind {start} word) → word.length = count)
    {length : Nat}
    (member : length ∈ automaton.matchLengths) :
    length = count := by
  obtain ⟨whole, constructed, rfl⟩ := exists_of_map_eq_ok built
  obtain ⟨keys, determinizes⟩ := Graph.determinizes_subsetAutomaton constructed
  obtain ⟨word, last, acceptance, _, read, accepted, rfl⟩ := member
  have starts : graph.Follows start keys whole.start [] :=
    determinizes.standsFor_start
  obtain ⟨other, sameLength, follows⟩ :=
    determinizes.follows_of_run free plain.patient (run_of_readWord? read).of_prune starts
  rw [acceptance_prune] at accepted
  have accepts := (determinizes.acceptance_eq_some_iff follows).mp accepted
  rw [plain.enderLength_eq_zero accepts, Nat.sub_zero, ← sameLength]
  exact words other accepts.hasTerminal

/-- The least and the greatest length are that of all words, if anything can be found. -/
theorem lengths_eq_of_words
    (built : Automaton.ofGraph graph start = .ok automaton)
    (free : graph.BoundaryFree)
    (plain : graph.Plain)
    {count : Nat}
    (words : ∀ word, graph.HasTerminal (graph.behind {start} word) → word.length = count)
    {place : Place}
    {searchStart : Nat}
    {found : Found}
    (isFound : automaton.longestAt place searchStart = some found) :
    automaton.minLength = count ∧ automaton.maxLength = some count := by
  have all : ∀ length ∈ automaton.matchLengths, length = count :=
    fun _ => eq_of_mem_matchLengths built free plain words
  obtain ⟨length, member, _⟩ := exists_acceptedLength_of_longestAt isFound
  obtain ⟨least, greatest, _⟩ :=
    lengths_of_boundaryFree built (fun id _ => free id) ⟨length, member⟩
  obtain ⟨most, isMost, isGreatest⟩ := greatest ⟨count, fun length member => (all length member).le⟩
  exact ⟨all _ least.1, by rw [isMost, all _ isGreatest.1]⟩

end Automaton

end LexicalAutomata
