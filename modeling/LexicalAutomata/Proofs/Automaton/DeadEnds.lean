import LexicalAutomata.Proofs.Automaton.Domination
import LexicalAutomata.Proofs.Automaton.Following

namespace LexicalAutomata

/-!
# What pruning leaves

Every edge that is left leads to a live state, so a state is a dead end exactly when no
path from it ends in a state that accepts something.  Where the resolution for some
boundaries is dropped, a scan stays in the unresolved state while they hold.  The state
that it would have been exchanged for has all of its nodes, so there is nothing left to be
accepted or read.
-/

variable {τ : Type}

namespace Automaton

variable {automaton : Automaton τ} {id next : Nat}

/-- An edge of the pruned automaton can be followed until something is accepted. -/
theorem exists_accepting_of_leadsTo_prune
    (leads : automaton.prune.LeadsTo id next) :
    ∃ last,
      Relation.ReflTransGen automaton.prune.LeadsTo next last ∧
        automaton.prune.acceptance last ≠ none := by
  obtain ⟨last, path, accepts⟩ := contains_live_iff.mp (leadsTo_prune_iff.mp leads).2
  exact ⟨last, (path_prune_iff accepts).mpr path, by rwa [acceptance_prune]⟩

/-- A state is a dead end when it leads to no other state. -/
theorem isDeadEnd_iff :
    automaton.isDeadEnd id = true ↔ ∀ next, ¬ automaton.LeadsTo id next := by
  unfold isDeadEnd LeadsTo
  rw [List.isEmpty_iff, List.eq_nil_iff_forall_not_mem]

/-- A state of the pruned automaton is a dead end when no path from it is accepted. -/
theorem isDeadEnd_prune_iff :
    automaton.prune.isDeadEnd id = true ↔
      ¬ ∃ last,
        Relation.TransGen automaton.prune.LeadsTo id last ∧
          automaton.prune.acceptance last ≠ none := by
  rw [isDeadEnd_iff]
  constructor
  · rintro stuck ⟨last, path, _⟩
    obtain ⟨next, leads, _⟩ := Relation.TransGen.head'_iff.mp path
    exact stuck next leads
  · intro none next leads
    obtain ⟨last, path, accepts⟩ := exists_accepting_of_leadsTo_prune leads
    exact none ⟨last, Relation.TransGen.head' leads path, accepts⟩

/-- The resolutions that are dropped are those to dead states. -/
theorem dead_of_dropped
    {resolution : Resolution}
    (member : resolution ∈ (automaton.state id).resolutions)
    (dropped : resolution ∉ (automaton.prune.state id).resolutions) :
    automaton.Dead resolution.target := by
  rw [state_prune] at dropped
  cases live : automaton.live.contains resolution.target with
  | false =>
      exact live
  | true =>
      exact (dropped (List.mem_filter.mpr ⟨member, live⟩)).elim

/-- A scan ends in a state without transitions that accepts nothing and is not exchanged. -/
theorem scanFrom_of_stuck
    (silent : automaton.acceptance id = none)
    (unread : (automaton.state id).transitions = [])
    {place : Place}
    {searchStart : Nat}
    (stays : automaton.settle id (place.surroundings searchStart) = id)
    (count : Nat)
    (found : Option Found) :
    automaton.scanFrom searchStart id count found place.before place.offset place.rest =
      found := by
  obtain ⟨before, offset, rest⟩ := place
  cases rest with
  | nil =>
      simp only [scanFrom, stays, foundAt, silent]
  | cons char rest =>
      have stuck : automaton.next? id char = none := by
        rw [next?, State.next?, unread]
        rfl
      simp only [scanFrom, stays, foundAt, silent, stuck]

end Automaton

namespace Graph

variable [DecidableEq τ] {graph : Graph τ} {start id : Nat} {keys : Array Key}
  {automaton : Automaton τ} {resolution : Resolution} {members : List Nat}

/-- Only the state of an unsettled key has resolutions. -/
theorem Determinizes.exists_resolves
    (determinizes : graph.Determinizes start keys automaton)
    (size : keys.size = automaton.size)
    (member : resolution ∈ (automaton.state id).resolutions) :
    ∃ members,
      keys[id]? = some ⟨members, false⟩ ∧
        graph.Resolves keys members (graph.resolutionCandidates members)
          (automaton.state id).resolutions := by
  have inside : id < keys.size := by
    rw [size]
    exact Automaton.lt_size_of_mem_successors
      (List.mem_append_left _ (List.mem_map_of_mem (f := Resolution.target) member))
  obtain ⟨⟨members, settled⟩, numbered⟩ : ∃ key, keys[id]? = some key :=
    ⟨keys[id], Array.getElem?_eq_getElem inside⟩
  obtain ⟨outcome, _, realizes⟩ := determinizes.realizes id _ numbered
  have goesOn : outcome.halts = false := by
    rw [← Bool.not_eq_true]
    intro halts
    rw [realizes.halted halts] at member
    simp at member
  have resolves := realizes.resolves goesOn
  cases settled with
  | false =>
      exact ⟨members, numbered, resolves⟩
  | true =>
      have candidate := (resolves.target resolution member).1
      simp [candidates] at candidate

/-- A state with a resolution to a dead state accepts nothing. -/
theorem Determinizes.silent_of_dead
    (determinizes : graph.Determinizes start keys automaton)
    (numbered : keys[id]? = some ⟨members, false⟩)
    (targetNumbered :
      keys[resolution.target]? = some ⟨graph.closure resolution.holding members, true⟩)
    (dead : automaton.Dead resolution.target) :
    automaton.acceptance id = none := by
  by_contra accepts
  exact determinizes.acceptance_of_covers numbered targetNumbered
    (graph.covers_closure _ members) accepts dead.acceptance

/-- A state with a resolution to a dead state has no transition to a live state. -/
theorem Determinizes.transitions_prune_of_dead
    (determinizes : graph.Determinizes start keys automaton)
    (numbered : keys[id]? = some ⟨members, false⟩)
    (targetNumbered :
      keys[resolution.target]? = some ⟨graph.closure resolution.holding members, true⟩)
    (dead : automaton.Dead resolution.target) :
    (automaton.prune.state id).transitions = [] := by
  rw [List.eq_nil_iff_forall_not_mem, Automaton.state_prune]
  intro transition kept
  obtain ⟨member, live⟩ := List.mem_filter.mp kept
  have edge : (transition.target, 1) ∈ (automaton.state id).edges :=
    List.mem_append_right _ (List.mem_map.mpr ⟨transition, member, rfl⟩)
  obtain ⟨reached, isTarget | leads, dominates⟩ :=
    determinizes.exists_dominates numbered targetNumbered (graph.covers_closure _ members)
      dead.acceptance (fun one => by contradiction) edge
  · have targetLive := dominates.live determinizes live
    rw [isTarget, dead] at targetLive
    contradiction
  · have reachedLive := dominates.live determinizes live
    rw [dead.leadsTo leads] at reachedLive
    contradiction

/-- While the boundaries of a resolution to a dead state hold, the pruned state is kept. -/
theorem Determinizes.settle_prune_of_dead
    (determinizes : graph.Determinizes start keys automaton)
    (resolves :
      graph.Resolves keys members (graph.resolutionCandidates members)
        (automaton.state id).resolutions)
    (targetNumbered :
      keys[resolution.target]? = some ⟨graph.closure resolution.holding members, true⟩)
    (dead : automaton.Dead resolution.target)
    {here : Surroundings}
    (holds : here.holding.inter (automaton.boundaries id) = resolution.holding) :
    automaton.prune.settle id here = id := by
  unfold Automaton.settle
  split
  · rfl
  · rename_i waits
    have boundaries : automaton.prune.boundaries id = automaton.boundaries id := by
      unfold Automaton.boundaries at waits ⊢
      rw [Automaton.state_prune] at waits ⊢
      simp only [State.restrict] at waits ⊢
      split at waits
      · exact (waits rfl).elim
      · rename_i left
        rw [if_neg left]
    unfold Automaton.resolve State.resolved?
    rw [List.find?_eq_none.mpr]
    · rfl
    · -- Another resolution for the same boundaries would lead to the state of the same key.
      intro other kept same
      rw [← Automaton.boundaries, boundaries, holds, beq_iff_eq] at same
      rw [Automaton.state_prune] at kept
      obtain ⟨member, live⟩ := List.mem_filter.mp kept
      have otherNumbered := (resolves.target other member).2
      rw [same] at otherNumbered
      have dominates : graph.Dominates keys resolution.target other.target :=
        ⟨_, _, targetNumbered, otherNumbered, fun _ listed _ => listed, fun settled => settled⟩
      have targetLive := dominates.live determinizes live
      rw [dead] at targetLive
      contradiction

end Graph

namespace Automaton

variable [DecidableEq τ] {graph : Graph τ} {start : Nat} {automaton : Automaton τ}

/--
The pruned automaton finds the same as the whole one at every place.  While exactly the
boundaries of a resolution that was dropped hold, it stays in the unresolved state, where
it neither accepts nor reads anything.  Its edges lead to states from which something is
accepted, and its dead ends are the states without a path to such a state.
-/
theorem prune_exact
    (built : graph.subsetAutomaton start = .ok automaton) :
    (∀ place searchStart,
        automaton.prune.longestAt place searchStart = automaton.longestAt place searchStart) ∧
      (∀ id, automaton.prune.acceptance id = automaton.acceptance id) ∧
        (∀ id, ∀ resolution ∈ (automaton.state id).resolutions,
          resolution ∉ (automaton.prune.state id).resolutions →
            (¬ ∃ last,
              Relation.ReflTransGen automaton.LeadsTo resolution.target last ∧
                automaton.acceptance last ≠ none) ∧
              automaton.prune.acceptance id = none ∧
                (automaton.prune.state id).transitions = [] ∧
                  ∀ place : Place, ∀ searchStart,
                    (place.surroundings searchStart).holding.inter (automaton.boundaries id) =
                        resolution.holding →
                      automaton.prune.settle id (place.surroundings searchStart) = id ∧
                        ∀ count found,
                          automaton.prune.scanFrom searchStart id count found place.before
                            place.offset place.rest = found) ∧
          (∀ id next, automaton.prune.LeadsTo id next →
            ∃ last,
              Relation.ReflTransGen automaton.prune.LeadsTo next last ∧
                automaton.prune.acceptance last ≠ none) ∧
            ∀ id,
              automaton.prune.isDeadEnd id = true ↔
                ¬ ∃ last,
                  Relation.TransGen automaton.prune.LeadsTo id last ∧
                    automaton.prune.acceptance last ≠ none := by
  obtain ⟨keys, determinizes, size⟩ := Graph.determinizes_numbered built
  refine ⟨determinizes.longestAt_prune, automaton.acceptance_prune, ?_,
    fun _ _ leads => exists_accepting_of_leadsTo_prune leads, fun _ => isDeadEnd_prune_iff⟩
  intro id resolution member dropped
  have dead := dead_of_dropped member dropped
  obtain ⟨members, numbered, resolves⟩ := determinizes.exists_resolves size member
  have targetNumbered := (resolves.target resolution member).2
  have silent : automaton.prune.acceptance id = none := by
    rw [acceptance_prune]
    exact determinizes.silent_of_dead numbered targetNumbered dead
  have unread := determinizes.transitions_prune_of_dead numbered targetNumbered dead
  refine ⟨?_, silent, unread, ?_⟩
  · rw [← contains_live_iff, dead]
    exact Bool.false_ne_true
  · intro place searchStart holds
    have stays := determinizes.settle_prune_of_dead resolves targetNumbered dead holds
    exact ⟨stays, scanFrom_of_stuck silent unread stays⟩

/-- A graph that reads a line feed, and then accepts at the end of a line but not at its start. -/
def lineFeedGraph : Graph Unit :=
  ⟨#[{ edges := [.labelled (.ofChar '\n') 1] },
    { edges := [.labelled (.ofBoundary .lineStart) 2, .labelled (.ofBoundary .lineEnd) 3] },
    {},
    { token := some () }]⟩

theorem scanFrom_prune_lineFeedGraph :
    ∃ automaton : Automaton Unit,
      lineFeedGraph.subsetAutomaton 0 = .ok automaton ∧
        ⟨.singleton .lineStart, 4⟩ ∈ (automaton.state 1).resolutions ∧
          ⟨.singleton .lineStart, 4⟩ ∉ (automaton.prune.state 1).resolutions ∧
            ∀ count found,
              automaton.prune.scanFrom 0 1 count found (some '\n') 1 ['a'] = found := by
  have dropped :
      ((lineFeedGraph.subsetAutomaton 0).toOption.map fun automaton =>
        decide (⟨.singleton .lineStart, 4⟩ ∈ (automaton.state 1).resolutions) &&
          decide (⟨.singleton .lineStart, 4⟩ ∉ (automaton.prune.state 1).resolutions) &&
            decide (((Place.mk (some '\n') 1 ['a']).surroundings 0).holding.inter
              (automaton.boundaries 1) = .singleton .lineStart)) = some true := by
    decide +kernel
  obtain ⟨automaton, found, holds⟩ := Option.map_eq_some_iff.mp dropped
  simp only [Bool.and_eq_true, decide_eq_true_eq] at holds
  obtain ⟨⟨member, gone⟩, realized⟩ := holds
  have built := ok_of_toOption found
  obtain ⟨_, _, ofDropped, _⟩ := prune_exact built
  obtain ⟨_, _, _, stuck⟩ := ofDropped 1 _ member gone
  exact ⟨automaton, built, member, gone, (stuck (Place.mk (some '\n') 1 ['a']) 0 realized).2⟩

end Automaton

end LexicalAutomata
