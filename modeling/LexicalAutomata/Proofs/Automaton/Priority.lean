import LexicalAutomata.Proofs.Automaton.Longest

namespace LexicalAutomata

/-!
# Priorities of what is found

What the automaton finds prevails over all terminals to which a run has come, except where
an immediate terminal has stopped the run before its boundaries were judged.  There it
prevails over the terminals that need no boundary, and a better terminal behind a boundary
stays hidden.
-/

variable {τ : Type}

/--
No terminal among these nodes exceeds a token with its priority, which is that of one of
them, and none with another token equals it.
-/
structure Graph.Prevails
    (graph : Graph τ)
    (nodes : Set Nat)
    (token : τ)
    (priority : Int32) : Prop where
  present :
    ∃ id ∈ nodes,
      (graph.node id).token = some token ∧ (graph.node id).priority = priority
  highest :
    ∀ id ∈ nodes,
      ∀ other,
        (graph.node id).token = some other →
          (graph.node id).priority ≤ priority ∧
            ((graph.node id).priority = priority → other = token)

/-- What a set of nodes accepts prevails in it. -/
theorem Graph.Accepts.prevails
    {graph : Graph τ}
    {nodes : Set Nat}
    {acceptance : Acceptance τ}
    (accepts : graph.Accepts nodes acceptance) :
    graph.Prevails nodes acceptance.token acceptance.priority := by
  obtain ⟨top, isTop, priority⟩ := accepts.priority
  refine ⟨⟨top, isTop.member, accepts.token top isTop, priority⟩, ?_⟩
  intro id member other stored
  have le : (graph.node id).priority ≤ acceptance.priority := by
    rw [← priority]
    exact isTop.highest id member (Option.isSome_of_mem stored)
  refine ⟨le, ?_⟩
  intro same
  have alsoTop : graph.IsTop nodes id := by
    refine ⟨member, Option.isSome_of_mem stored, ?_⟩
    rw [same, ← priority]
    exact isTop.highest
  exact Option.some.inj (stored.symm.trans (accepts.token id alsoTop))

namespace Automaton

/--
What the automaton finds was accepted behind some characters, from which its ender is taken
off.  If no immediate terminal stops the run before the boundaries are judged there, it
prevails over all terminals to which the run has come; if one does, it prevails over those
that need no boundary.
-/
theorem longestAt_prevails
    [DecidableEq τ]
    {graph : Graph τ}
    {start : Nat}
    {automaton : Automaton τ}
    (built : Automaton.ofGraph graph start = .ok automaton)
    {place : Place}
    {searchStart : Nat}
    {found : Found}
    (isFound : automaton.longestAt place searchStart = some found) :
    ∃ acceptance count,
      automaton.acceptance found.state = some acceptance ∧
        count ≤ place.rest.length ∧
          found.length = count - acceptance.enderLength ∧
            let unjudged :=
              graph.spread .empty (graph.arrived searchStart {start} place count)
            let reached := graph.reached searchStart {start} place count
            (graph.Stops unjudged →
                graph.Prevails unjudged acceptance.token acceptance.priority) ∧
              (¬ graph.Stops unjudged →
                graph.Prevails reached acceptance.token acceptance.priority) := by
  rcases acceptsLast_or_none built place searchStart with
    ⟨other, acceptance, count, otherFound, accepting, length, acceptsLast⟩ | ⟨isNone, _⟩
  · rw [isFound] at otherFound
    cases otherFound
    have accepts := acceptsLast.accepts
    refine ⟨acceptance, count, accepting, acceptsLast.le, length, ?_, ?_⟩
    · intro stops
      rw [Graph.judged_of_stops acceptsLast.le stops] at accepts
      exact accepts.prevails
    · intro goesOn
      rw [Graph.judged_of_not_stops goesOn] at accepts
      exact accepts.prevails
  · rw [isFound] at isNone
    contradiction

/-- What can be evaluated of the automaton of a graph is said of an automaton that is built. -/
theorem exists_found
    [DecidableEq τ]
    (graph : Graph τ)
    (place : Place)
    (length : Nat)
    (acceptance : Acceptance τ)
    (evaluated :
      ((Automaton.ofGraph graph 0).toOption.bind fun automaton =>
        (automaton.longestAt place 0).bind fun found =>
          (automaton.acceptance found.state).map fun acceptance => (found.length, acceptance)) =
        some (length, acceptance)) :
    ∃ automaton found,
      Automaton.ofGraph graph 0 = .ok automaton ∧
        automaton.longestAt place 0 = some found ∧
          found.length = length ∧ automaton.acceptance found.state = some acceptance := by
  obtain ⟨automaton, isAutomaton, evaluated⟩ := Option.bind_eq_some_iff.mp evaluated
  obtain ⟨found, isFound, evaluated⟩ := Option.bind_eq_some_iff.mp evaluated
  obtain ⟨acceptance, accepting, same⟩ := Option.map_eq_some_iff.mp evaluated
  obtain ⟨sameLength, rfl⟩ := Prod.mk.inj same
  exact ⟨automaton, found, ok_of_toOption isAutomaton, isFound, sameLength, accepting⟩

/--
A graph that accepts the letter a, and with a higher priority the letter a at the end of a
word.
-/
def rivalGraph
    (immediate : Bool) :
    Graph Nat :=
  ⟨#[{ edges := [.labelled (.ofChar 'a') 1] },
    { edges := [.labelled (.ofBoundary .wordEdge) 2], token := some 1, immediate := immediate },
    { token := some 2, priority := 5 }]⟩

theorem longestAt_rivalGraph :
    ∃ automaton found acceptance,
      Automaton.ofGraph (rivalGraph false) 0 = .ok automaton ∧
        automaton.longestAt (.start ['a']) 0 = some found ∧
          automaton.acceptance found.state = some acceptance ∧
            acceptance.token = 2 ∧
              (rivalGraph false).Prevails
                ((rivalGraph false).reached 0 {0} (.start ['a']) 1) 2 5 := by
  obtain ⟨automaton, found, built, isFound, isOne, accepting⟩ :=
    exists_found (rivalGraph false) (.start ['a']) 1 ⟨2, 5, 0⟩ (by decide +kernel)
  refine ⟨automaton, found, _, built, isFound, accepting, rfl, ?_⟩
  obtain ⟨other, count, otherAccepting, _, length, _, prevails⟩ :=
    longestAt_prevails built isFound
  rw [accepting] at otherAccepting
  cases otherAccepting
  rw [isOne] at length
  cases length
  apply prevails
  apply Graph.not_stops
  intro id
  match id with
  | 0 => rfl
  | 1 => rfl
  | 2 => rfl
  | id + 3 => rfl

/--
The immediate letter hides the one at the end of the word, which has the higher priority.
-/
theorem exists_hidden_terminal :
    ∃ automaton found acceptance,
      Automaton.ofGraph (rivalGraph true) 0 = .ok automaton ∧
        automaton.longestAt (.start ['a']) 0 = some found ∧
          automaton.acceptance found.state = some acceptance ∧
            acceptance.token = 1 ∧
              ∀ count ≤ 1,
                found.length = count - acceptance.enderLength →
                  ¬ (rivalGraph true).Prevails
                    ((rivalGraph true).reached 0 {0} (.start ['a']) count)
                    acceptance.token acceptance.priority := by
  obtain ⟨automaton, found, built, isFound, isOne, accepting⟩ :=
    exists_found (rivalGraph true) (.start ['a']) 1 ⟨1, 0, 0⟩ (by decide +kernel)
  refine ⟨automaton, found, _, built, isFound, accepting, rfl, ?_⟩
  intro count _ length prevails
  rw [isOne] at length
  cases length
  have letter :
      (rivalGraph true).Step 0 (0, .start ['a']) (1, (Place.start ['a']).advance 1) :=
    ⟨.labelled (.ofChar 'a') 1, by simp [rivalGraph, Graph.node], rfl, .reading (by decide)⟩
  have waits : Boundary.wordEdge ∈ (Label.ofBoundary .wordEdge).boundaries := by
    decide
  have wordEnd :
      (rivalGraph true).Step 0 (1, (Place.start ['a']).advance 1)
        (2, (Place.start ['a']).advance 1) :=
    ⟨.labelled (.ofBoundary .wordEdge) 2, by simp [rivalGraph, Graph.node], rfl,
      .holding waits (by decide)⟩
  have rival : 2 ∈ (rivalGraph true).reached 0 {0} (.start ['a']) 1 :=
    ⟨0, rfl, .tail (.single letter) wordEnd⟩
  obtain ⟨exceeds, _⟩ := prevails.highest 2 rival 2 rfl
  exact absurd exceeds (by decide)

end Automaton

end LexicalAutomata
