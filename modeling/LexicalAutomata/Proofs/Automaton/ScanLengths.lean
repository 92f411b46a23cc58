import LexicalAutomata.Proofs.Automaton.Bisimulation

namespace LexicalAutomata

/-!
# The lengths of what is found

A scan goes along a run of the automaton, so the length of what it finds is one of the
accepted lengths.  These lie between the least and the greatest length of the automaton,
and pruning keeps all of them.
-/

variable {τ : Type}

/-- Reading a code point takes an edge. -/
theorem State.mem_edges_of_next?
    {state : State τ}
    {codePoint next : Nat}
    (moves : state.next? codePoint = some next) :
    (next, 1) ∈ state.edges := by
  unfold next? at moves
  split at moves
  · contradiction
  · rename_i transition found
    split at moves
    · cases moves
      apply List.mem_append_right
      exact List.mem_map.mpr ⟨transition, List.mem_of_find?_eq_some found, rfl⟩
    · contradiction

namespace Automaton

variable {automaton : Automaton τ} {allowed : Set Nat} {edges characters id next last : Nat}

section Runs

/-- A run goes along edges. -/
theorem Run.path
    (run : automaton.Run allowed edges characters id last) :
    Relation.ReflTransGen automaton.LeadsTo id last := by
  induction run with
  | nil _ =>
      exact .refl
  | cons _ leads _ inductionHypothesis =>
      exact inductionHypothesis.head (leadsTo_iff.mpr ⟨_, leads⟩)

/-- Where edges lead, there is a run. -/
theorem exists_run_of_path
    (path : Relation.ReflTransGen automaton.LeadsTo id last) :
    ∃ edges characters, automaton.Run Set.univ edges characters id last := by
  induction path using Relation.ReflTransGen.head_induction_on with
  | refl =>
      exact ⟨0, 0, .nil (Set.mem_univ _)⟩
  | head leads _ inductionHypothesis =>
      obtain ⟨amount, edge⟩ := leadsTo_iff.mp leads
      obtain ⟨edges, characters, run⟩ := inductionHypothesis
      exact ⟨edges + 1, amount + characters, .cons (Set.mem_univ _) edge run⟩

/-- There is an accepted length exactly when something is accepted at the end of a path. -/
theorem acceptedLengths_nonempty_iff :
    (automaton.acceptedLengths id).Nonempty ↔
      ∃ last,
        Relation.ReflTransGen automaton.LeadsTo id last ∧ automaton.acceptance last ≠ none := by
  constructor
  · rintro ⟨_, _, _, last, acceptance, run, accepted, _⟩
    exact ⟨last, run.path, Option.ne_none_iff_exists'.mpr ⟨acceptance, accepted⟩⟩
  · rintro ⟨last, path, accepts⟩
    obtain ⟨edges, characters, run⟩ := exists_run_of_path path
    obtain ⟨acceptance, accepted⟩ := Option.ne_none_iff_exists'.mp accepts
    exact ⟨_, edges, characters, last, acceptance, run, accepted, rfl⟩

end Runs

section Prune

/-- A run of the pruned automaton is one of the whole automaton. -/
theorem Run.of_prune
    (run : automaton.prune.Run allowed edges characters id last) :
    automaton.Run allowed edges characters id last := by
  induction run with
  | nil member =>
      exact .nil member
  | cons member leads _ inductionHypothesis =>
      exact .cons member (mem_edges_prune_iff.mp leads).1 inductionHypothesis

/-- Pruning keeps the runs that are accepted. -/
theorem Run.prune
    (run : automaton.Run allowed edges characters id last)
    (accepts : automaton.acceptance last ≠ none) :
    automaton.prune.Run allowed edges characters id last := by
  induction run with
  | nil member =>
      exact .nil member
  | cons member leads rest inductionHypothesis =>
      have live := contains_live_iff.mpr ⟨_, rest.path, accepts⟩
      exact .cons member (mem_edges_prune_iff.mpr ⟨leads, live⟩) (inductionHypothesis accepts)

/-- Pruning keeps the accepted lengths. -/
theorem acceptedLengths_prune
    (automaton : Automaton τ)
    (id : Nat) :
    automaton.prune.acceptedLengths id = automaton.acceptedLengths id := by
  ext length
  constructor
  · rintro ⟨edges, characters, last, acceptance, run, accepted, same⟩
    rw [acceptance_prune] at accepted
    exact ⟨edges, characters, last, acceptance, run.of_prune, accepted, same⟩
  · rintro ⟨edges, characters, last, acceptance, run, accepted, same⟩
    have accepts := Option.ne_none_iff_exists'.mpr ⟨acceptance, accepted⟩
    exact ⟨edges, characters, last, acceptance, run.prune accepts,
      (automaton.acceptance_prune last).trans accepted, same⟩

/-- Behind its first edge, a run of the pruned automaton is in a live state. -/
theorem Run.live_of_prune
    (run : automaton.prune.Run allowed edges characters id last)
    (moved : edges ≠ 0) :
    automaton.live.contains last = true := by
  induction run with
  | nil _ =>
      contradiction
  | @cons edges _ _ _ _ _ _ leads rest inductionHypothesis =>
      cases rest with
      | nil _ =>
          exact (mem_edges_prune_iff.mp leads).2
      | cons _ _ _ =>
          exact inductionHypothesis (Nat.succ_ne_zero _)

end Prune

section Scan

/-- Settling stays in a state or takes an edge without reading. -/
theorem settle_eq_or_mem_edges
    (automaton : Automaton τ)
    (id : Nat)
    (here : Surroundings) :
    automaton.settle id here = id ∨
      (automaton.settle id here, 0) ∈ (automaton.state id).edges := by
  unfold settle resolve State.resolved?
  split
  · exact Or.inl rfl
  · cases found : (automaton.state id).resolutions.find? fun resolution =>
        resolution.holding == here.holding.inter (automaton.state id).boundaries with
    | none =>
        exact Or.inl rfl
    | some resolution =>
        right
        apply List.mem_append_left
        exact List.mem_map.mpr ⟨resolution, List.mem_of_find?_eq_some found, rfl⟩

/-- A match ends a run with as many characters, of which the ender has been taken off. -/
def Accepted
    (automaton : Automaton τ)
    (found : Found) :
    Prop :=
  ∃ edges characters acceptance,
    automaton.Run Set.univ edges characters automaton.start found.state ∧
      automaton.acceptance found.state = some acceptance ∧
        found.length = characters - acceptance.enderLength

/-- What is found in the last state of a run is accepted. -/
theorem Run.accepted_foundAt
    (run : automaton.Run Set.univ edges characters automaton.start id)
    {found : Option Found}
    (earlier : ∀ former, found = some former → automaton.Accepted former)
    {result : Found}
    (isFound : automaton.foundAt id characters found = some result) :
    automaton.Accepted result := by
  unfold foundAt at isFound
  split at isFound
  · exact earlier result isFound
  · rename_i acceptance accepted
    cases isFound
    exact ⟨edges, characters, acceptance, run, accepted, rfl⟩

/-- A scan that has come along a run finds what is accepted. -/
theorem accepted_of_scanFrom
    {searchStart offset : Nat}
    {before : Option Char}
    {rest : List Char}
    (run : automaton.Run Set.univ edges characters automaton.start id)
    {found : Option Found}
    (earlier : ∀ former, found = some former → automaton.Accepted former)
    {result : Found}
    (isFound :
      automaton.scanFrom searchStart id characters found before offset rest = some result) :
    automaton.Accepted result := by
  -- A resolution adds an edge to the run, but no character.
  have settled :
      ∀ {edges characters id} (here : Surroundings),
        automaton.Run Set.univ edges characters automaton.start id →
          ∃ more,
            automaton.Run Set.univ more characters automaton.start (automaton.settle id here) := by
    intro edges characters id here run
    rcases automaton.settle_eq_or_mem_edges id here with same | leads
    · exact ⟨edges, by rw [same]; exact run⟩
    · exact ⟨edges + 1, run.concat leads⟩
  induction rest generalizing id edges characters found before offset with
  | nil =>
      obtain ⟨_, settledRun⟩ := settled ((Place.mk before offset []).surroundings searchStart) run
      exact settledRun.accepted_foundAt earlier isFound
  | cons char rest inductionHypothesis =>
      obtain ⟨_, settledRun⟩ :=
        settled ((Place.mk before offset (char :: rest)).surroundings searchStart) run
      rw [scanFrom] at isFound
      split at isFound
      · exact settledRun.accepted_foundAt earlier isFound
      · rename_i next moves
        exact inductionHypothesis (settledRun.concat (State.mem_edges_of_next? moves))
          (fun _ => settledRun.accepted_foundAt earlier) isFound

/-- What is found at a place has an accepted length. -/
theorem exists_acceptedLength_of_longestAt
    {place : Place}
    {searchStart : Nat}
    {found : Found}
    (isFound : automaton.longestAt place searchStart = some found) :
    ∃ length ∈ automaton.acceptedLengths automaton.start, found.length = length.toNat := by
  obtain ⟨edges, characters, acceptance, run, accepted, same⟩ :=
    accepted_of_scanFrom (.nil (Set.mem_univ _)) (fun _ none => by contradiction) isFound
  exact ⟨_, ⟨edges, characters, found.state, acceptance, run, accepted, rfl⟩, by omega⟩

end Scan

end Automaton

end LexicalAutomata
