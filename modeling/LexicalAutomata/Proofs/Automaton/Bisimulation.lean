import LexicalAutomata.Proofs.Automaton.Length
import LexicalAutomata.Proofs.Automaton.Pruning

namespace LexicalAutomata.Automaton

/-!
# Automata that do the same

The states of two automata may be numbered differently, and their edges may come in
another order.  When related states accept the same and lead to related states, pruning
keeps the relation, and the shortest and the longest accepted runs have the same lengths.
-/

variable {τ : Type}

/-- Related states accept the same, and lead to related states. -/
structure Bisimulation
    (related : Nat → Nat → Prop)
    (automaton other : Automaton τ) : Prop where
  start : related automaton.start other.start
  acceptance :
    ∀ {id counterpart},
      related id counterpart → automaton.acceptance id = other.acceptance counterpart
  forth :
    ∀ {id counterpart next amount},
      related id counterpart →
        (next, amount) ∈ (automaton.state id).edges →
          ∃ target, (target, amount) ∈ (other.state counterpart).edges ∧ related next target
  back :
    ∀ {id counterpart target amount},
      related id counterpart →
        (target, amount) ∈ (other.state counterpart).edges →
          ∃ next, (next, amount) ∈ (automaton.state id).edges ∧ related next target

variable {related : Nat → Nat → Prop} {automaton other : Automaton τ}

theorem Bisimulation.symm
    (bisimulation : Bisimulation related automaton other) :
    Bisimulation (fun id counterpart => related counterpart id) other automaton where
  start :=
    bisimulation.start
  acceptance same :=
    (bisimulation.acceptance same).symm
  forth :=
    bisimulation.back
  back :=
    bisimulation.forth

/-- A run of one automaton is one of the other automaton with as many edges and characters. -/
theorem Bisimulation.run
    (bisimulation : Bisimulation related automaton other)
    {edges characters id counterpart last : Nat}
    (same : related id counterpart)
    (run : automaton.Run Set.univ edges characters id last) :
    ∃ target, other.Run Set.univ edges characters counterpart target ∧ related last target := by
  induction run generalizing counterpart with
  | nil _ =>
      exact ⟨counterpart, .nil (Set.mem_univ _), same⟩
  | cons _ leads _ inductionHypothesis =>
      obtain ⟨next, nextLeads, nextSame⟩ := bisimulation.forth same leads
      obtain ⟨target, rest, targetSame⟩ := inductionHypothesis nextSame
      exact ⟨target, .cons (Set.mem_univ _) nextLeads rest, targetSame⟩

theorem Bisimulation.acceptedLengths_subset
    (bisimulation : Bisimulation related automaton other)
    {id counterpart : Nat}
    (same : related id counterpart) :
    automaton.acceptedLengths id ⊆ other.acceptedLengths counterpart := by
  rintro _ ⟨edges, characters, last, acceptance, run, accepted, rfl⟩
  obtain ⟨target, otherRun, targetSame⟩ := bisimulation.run same run
  exact ⟨edges, characters, target, acceptance, otherRun,
    (bisimulation.acceptance targetSame).symm.trans accepted, rfl⟩

theorem Bisimulation.acceptedLengths_eq
    (bisimulation : Bisimulation related automaton other) :
    automaton.acceptedLengths automaton.start = other.acceptedLengths other.start :=
  Set.Subset.antisymm (bisimulation.acceptedLengths_subset bisimulation.start)
    (bisimulation.symm.acceptedLengths_subset bisimulation.start)

theorem Bisimulation.bounded
    (bisimulation : Bisimulation related automaton other)
    (bounded : automaton.Bounded automaton.start) :
    other.Bounded other.start := by
  obtain ⟨most, atMost⟩ := bounded
  refine ⟨most, fun edges characters last run => ?_⟩
  obtain ⟨_, sameRun, _⟩ := bisimulation.symm.run bisimulation.start run
  exact atMost _ _ _ sameRun

/-- Automata that do the same are bounded together. -/
theorem Bisimulation.bounded_iff
    (bisimulation : Bisimulation related automaton other) :
    automaton.Bounded automaton.start ↔ other.Bounded other.start :=
  ⟨bisimulation.bounded, bisimulation.symm.bounded⟩

/-- Automata that do the same have the same shortest and longest runs. -/
theorem Bisimulation.lengths_eq
    (bisimulation : Bisimulation related automaton other) :
    automaton.lengths = other.lengths := by
  have same := bisimulation.acceptedLengths_eq
  have bounded_iff := bisimulation.bounded_iff
  rcases automaton.lengths_cases with
    ⟨empty, lengths⟩ | ⟨least, isLeast, ends⟩ <;>
    rcases other.lengths_cases with
      ⟨otherEmpty, otherLengths⟩ | ⟨otherLeast, otherIsLeast, otherEnds⟩
  · rw [lengths, otherLengths]
  · rw [← same, empty, Set.image_empty] at otherIsLeast
    exact otherIsLeast.1.elim
  · rw [same, otherEmpty, Set.image_empty] at isLeast
    exact isLeast.1.elim
  · rw [same] at isLeast
    cases isLeast.unique otherIsLeast
    rcases ends with ⟨unbounded, lengths⟩ | ⟨bounded, most, isGreatest, lengths⟩ <;>
      rcases otherEnds with
        ⟨otherUnbounded, otherLengths⟩ | ⟨otherBounded, otherMost, otherIsGreatest, otherLengths⟩
    · rw [lengths, otherLengths]
    · exact (unbounded (bounded_iff.mpr otherBounded)).elim
    · exact (otherUnbounded (bounded_iff.mp bounded)).elim
    · rw [same] at isGreatest
      rw [lengths, otherLengths, isGreatest.unique otherIsGreatest]

section Prune

/-- A state leads to the targets of its edges. -/
theorem leadsTo_iff
    {id next : Nat} :
    automaton.LeadsTo id next ↔ ∃ amount, (next, amount) ∈ (automaton.state id).edges := by
  simp only [LeadsTo, successors, State.successors, State.edges, List.mem_append, List.mem_map,
    Prod.mk.injEq]
  constructor
  · rintro (⟨resolution, member, same⟩ | ⟨transition, member, same⟩)
    · exact ⟨0, Or.inl ⟨resolution, member, same, rfl⟩⟩
    · exact ⟨1, Or.inr ⟨transition, member, same, rfl⟩⟩
  · rintro ⟨_, ⟨resolution, member, same, _⟩ | ⟨transition, member, same, _⟩⟩
    · exact Or.inl ⟨resolution, member, same⟩
    · exact Or.inr ⟨transition, member, same⟩

/-- Pruning keeps the edges to live states. -/
theorem mem_edges_prune_iff
    {id next amount : Nat} :
    (next, amount) ∈ (automaton.prune.state id).edges ↔
      (next, amount) ∈ (automaton.state id).edges ∧ automaton.live.contains next = true := by
  rw [state_prune]
  simp only [State.edges, State.restrict, List.mem_append, List.mem_map, List.mem_filter,
    Prod.mk.injEq]
  constructor
  · rintro (⟨resolution, ⟨member, live⟩, rfl, same⟩ | ⟨transition, ⟨member, live⟩, rfl, same⟩)
    · exact ⟨Or.inl ⟨resolution, member, rfl, same⟩, live⟩
    · exact ⟨Or.inr ⟨transition, member, rfl, same⟩, live⟩
  · rintro ⟨⟨resolution, member, rfl, same⟩ | ⟨transition, member, rfl, same⟩, live⟩
    · exact Or.inl ⟨resolution, ⟨member, live⟩, rfl, same⟩
    · exact Or.inr ⟨transition, ⟨member, live⟩, rfl, same⟩

/-- A state that is related to a live one is live. -/
theorem Bisimulation.live
    (bisimulation : Bisimulation related automaton other)
    {id counterpart : Nat}
    (same : related id counterpart)
    (live : automaton.live.contains id = true) :
    other.live.contains counterpart = true := by
  obtain ⟨last, path, accepts⟩ := contains_live_iff.mp live
  induction path using Relation.ReflTransGen.head_induction_on generalizing counterpart with
  | refl =>
      rw [bisimulation.acceptance same] at accepts
      exact live_of_acceptance accepts
  | head leads path inductionHypothesis =>
      obtain ⟨amount, member⟩ := leadsTo_iff.mp leads
      obtain ⟨target, otherMember, targetSame⟩ := bisimulation.forth same member
      exact live_of_leadsTo (leadsTo_iff.mpr ⟨amount, otherMember⟩)
        (inductionHypothesis targetSame (contains_live_iff.mpr ⟨last, path, accepts⟩))

theorem Bisimulation.prune_forth
    (bisimulation : Bisimulation related automaton other)
    {id counterpart next amount : Nat}
    (same : related id counterpart)
    (leads : (next, amount) ∈ (automaton.prune.state id).edges) :
    ∃ target, (target, amount) ∈ (other.prune.state counterpart).edges ∧ related next target := by
  obtain ⟨member, live⟩ := mem_edges_prune_iff.mp leads
  obtain ⟨target, otherMember, targetSame⟩ := bisimulation.forth same member
  exact ⟨target, mem_edges_prune_iff.mpr ⟨otherMember, bisimulation.live targetSame live⟩,
    targetSame⟩

/-- Automata that do the same still do so when they are pruned. -/
theorem Bisimulation.prune
    (bisimulation : Bisimulation related automaton other) :
    Bisimulation related automaton.prune other.prune where
  start :=
    bisimulation.start
  acceptance same := by
    rw [acceptance_prune, acceptance_prune]
    exact bisimulation.acceptance same
  forth :=
    bisimulation.prune_forth
  back :=
    bisimulation.symm.prune_forth

end Prune

end LexicalAutomata.Automaton
