import LexicalAutomata.Proofs.Automaton.Liveness
import LexicalAutomata.Proofs.Automaton.Simulation

namespace LexicalAutomata

/-!
# Pruning does not change what is found

The pruned automaton settles elsewhere only where the automaton itself settles in a dead
state, because the resolution to it has been dropped.  From there on the nodes of the one
are among those of the other, so that it finds nothing more either.
-/

variable {τ : Type}

namespace Automaton

variable {automaton : Automaton τ}

/-- A state of the pruned automaton. -/
theorem state_prune
    (automaton : Automaton τ)
    (id : Nat) :
    automaton.prune.state id = (automaton.state id).restrict automaton.live.contains := by
  unfold prune state
  simp only [Array.getElem?_map]
  cases automaton.states[id]? with
  | none =>
      rfl
  | some _ =>
      rfl

@[simp] theorem acceptance_prune
    (automaton : Automaton τ)
    (id : Nat) :
    automaton.prune.acceptance id = automaton.acceptance id := by
  unfold acceptance
  rw [state_prune]
  rfl

/-- Pruning leaves a state that leads nowhere as it is. -/
theorem halted_prune
    (automaton : Automaton τ)
    {id : Nat}
    {acceptance : Option (Acceptance τ)}
    (halted : automaton.state id = ⟨[], .empty, [], acceptance⟩) :
    automaton.prune.state id = ⟨[], .empty, [], acceptance⟩ := by
  rw [state_prune, halted]
  rfl

@[simp] theorem foundAt_prune
    (automaton : Automaton τ)
    (id count : Nat)
    (found : Option Found) :
    automaton.prune.foundAt id count found = automaton.foundAt id count found := by
  unfold foundAt
  rw [acceptance_prune]

/-- What the pruned automaton reads, the other one reads as well. -/
theorem next?_of_next?_prune
    {id successor : Nat}
    {char : Char}
    (ordered :
      (automaton.state id).transitions.Pairwise fun former latter =>
        former.limit ≤ latter.first)
    (next : automaton.prune.next? id char = some successor) :
    automaton.next? id char = some successor := by
  unfold next? at next
  rw [state_prune, State.next?_eq_some_iff (ordered.filter _)] at next
  obtain ⟨transition, member, contained, same⟩ := next
  exact (State.next?_eq_some_iff ordered).mpr
    ⟨transition, (List.mem_filter.mp member).1, contained, same⟩

/-- The pruned automaton reads the same, unless that leads to a dead state. -/
theorem next?_prune
    {id : Nat}
    (ordered :
      (automaton.state id).transitions.Pairwise fun former latter =>
        former.limit ≤ latter.first)
    (char : Char) :
    automaton.prune.next? id char = automaton.next? id char ∨
      (automaton.prune.next? id char = none ∧
        ∃ next, automaton.next? id char = some next ∧ automaton.Dead next) := by
  cases pruned : automaton.prune.next? id char with
  | some next =>
      exact Or.inl (next?_of_next?_prune ordered pruned).symm
  | none =>
      cases read : automaton.next? id char with
      | none =>
          exact Or.inl rfl
      | some next =>
          refine Or.inr ⟨rfl, next, rfl, ?_⟩
          obtain ⟨transition, member, contained, rfl⟩ :=
            (State.next?_eq_some_iff ordered).mp read
          cases live : automaton.live.contains transition.target with
          | false =>
              exact live
          | true =>
              have kept : automaton.prune.next? id char = some transition.target := by
                unfold next?
                rw [state_prune, State.next?_eq_some_iff (ordered.filter _)]
                exact ⟨transition, List.mem_filter.mpr ⟨member, live⟩, contained, rfl⟩
              rw [kept] at pruned
              contradiction

end Automaton

namespace Graph

variable [DecidableEq τ] {graph : Graph τ} {start : Nat} {keys : Array Key}
  {automaton : Automaton τ} {settled : Bool} {id : Nat} {nodes : Set Nat}

/-- A dead state stands for nodes at which runs go on. -/
theorem Determinizes.goesOn_of_dead
    (determinizes : graph.Determinizes start keys automaton)
    (stands : graph.StandsFor keys settled id nodes)
    (dead : automaton.Dead id) :
    ¬ graph.HasTerminal nodes ∧ ¬ graph.Stops nodes := by
  have silent := (determinizes.acceptance_eq_none_iff stands).mp dead.acceptance
  exact ⟨silent, fun stops => silent stops.hasTerminal⟩

/-- The resolutions that are left when the state is pruned. -/
theorem Determinizes.settle_prune_eq
    (determinizes : graph.Determinizes start keys automaton)
    {members : List Nat}
    (numbered : keys[id]? = some ⟨members, false⟩)
    (lists : graph.Lists members nodes)
    (goesOn : ¬ graph.Stops nodes)
    (here : Surroundings) :
    automaton.prune.settle id here =
      ((((automaton.state id).resolutions.filter fun resolution =>
          automaton.live.contains resolution.target).find? fun resolution =>
            resolution.holding == here.holding.inter (graph.awaited members)).map
              Resolution.target).getD id := by
  have awaits := determinizes.awaits numbered lists goesOn
  have pruned : Awaits automaton.prune id (graph.awaited members) := by
    constructor
    · intro resolution member
      rw [Automaton.state_prune] at member
      exact awaits.nonempty resolution (List.mem_filter.mp member).1
    · rw [Automaton.state_prune]
      simp only [State.restrict, awaits.boundaries]
      split
      · rfl
      · rename_i some
        rw [if_neg]
        intro none
        rw [List.isEmpty_iff.mp none] at some
        exact some rfl
  rw [pruned.settle_eq, Automaton.state_prune]
  rfl

/--
Where the pruned automaton settles in another state than the automaton itself, that one
settles in a dead state.
-/
theorem Determinizes.settle_prune
    (determinizes : graph.Determinizes start keys automaton)
    (stands : graph.StandsFor keys false id (graph.spread .empty nodes))
    (goesOn : ¬ graph.Stops (graph.spread .empty nodes))
    (here : Surroundings) :
    automaton.prune.settle id here = automaton.settle id here ∨
      automaton.Dead (automaton.settle id here) := by
  obtain ⟨members, numbered, lists⟩ := stands
  rw [determinizes.settle_prune_eq numbered lists goesOn here,
    (determinizes.awaits numbered lists goesOn).settle_eq here, List.find?_filter]
  cases found : (automaton.state id).resolutions.find? fun resolution =>
      resolution.holding == here.holding.inter (graph.awaited members) with
  | none =>
      left
      rw [List.find?_eq_none.mpr]
      intro resolution member both
      apply List.find?_eq_none.mp found resolution member
      rw [decide_eq_true_eq] at both
      exact both.2
  | some resolution =>
      cases live : automaton.live.contains resolution.target with
      | false =>
          exact Or.inr live
      | true =>
          left
          rw [List.find?_eq_some_iff_append] at found
          obtain ⟨same, before, behind, split, others⟩ := found
          rw [List.find?_eq_some_iff_append.mpr
            ⟨by rw [same, live]; rfl, before, behind, split, ?_⟩]
          intro other member
          have := others other member
          simp_all

/-- The pruned automaton settles in a state that stands for no more than what is spread to. -/
theorem Determinizes.standsFor_settle_prune
    (determinizes : graph.Determinizes start keys automaton)
    (stands : graph.StandsFor keys false id (graph.spread .empty nodes))
    (goesOn : ¬ graph.Stops (graph.spread .empty nodes))
    (here : Surroundings) :
    ∃ settled few,
      graph.StandsFor keys settled (automaton.prune.settle id here) few ∧
        few ⊆ graph.spread here.holding nodes := by
  obtain ⟨members, numbered, lists⟩ := stands
  rw [determinizes.settle_prune_eq numbered lists goesOn here]
  obtain ⟨outcome, halts, realizes⟩ := determinizes.exists_realizes numbered lists goesOn
  cases found : ((automaton.state id).resolutions.filter fun resolution =>
      automaton.live.contains resolution.target).find? fun resolution =>
        resolution.holding == here.holding.inter (graph.awaited members) with
  | none =>
      refine ⟨false, _, ⟨members, numbered, lists⟩, ?_⟩
      apply spread_mono_holding
      intro boundary impossible
      exact (BoundarySet.not_mem_empty boundary impossible).elim
  | some resolution =>
      have member := (List.mem_filter.mp (List.mem_of_find?_eq_some found)).1
      have same : resolution.holding = here.holding.inter (graph.awaited members) := by
        simpa using List.find?_some found
      refine ⟨true, _, ⟨_, ((realizes.resolves halts).target resolution member).2, ?_⟩,
        Set.Subset.rfl⟩
      rw [same]
      exact lists.closure_inter_awaited here.holding

/-- The transitions of a state are in ascending order. -/
theorem Determinizes.ordered
    (determinizes : graph.Determinizes start keys automaton)
    (stands : graph.StandsFor keys settled id nodes) :
    (automaton.state id).transitions.Pairwise fun former latter =>
      former.limit ≤ latter.first := by
  obtain ⟨members, numbered, _⟩ := stands
  obtain ⟨_, _, realizes⟩ := determinizes.realizes id _ numbered
  exact realizes.ordered

/--
The pruned automaton finds nothing more when it has settled in a state whose nodes are
among those of a dead one.
-/
theorem Determinizes.scanFrom_prune_of_dead
    (determinizes : graph.Determinizes start keys automaton)
    (searchStart count : Nat)
    (found : Option Found)
    (before : Option Char)
    (offset : Nat)
    (rest : List Char)
    {few many : Set Nat}
    {settled deadSettled : Bool}
    {deadId : Nat}
    (stands :
      graph.StandsFor keys settled
        (automaton.prune.settle id ((Place.mk before offset rest).surroundings searchStart))
        few)
    (deadStands : graph.StandsFor keys deadSettled deadId many)
    (subset : few ⊆ many)
    (dead : automaton.Dead deadId) :
    automaton.prune.scanFrom searchStart id count found before offset rest = found := by
  induction rest generalizing id deadId few many settled deadSettled count before offset with
  | nil =>
      have silent := (determinizes.goesOn_of_dead deadStands dead).1
      have none := (determinizes.acceptance_eq_none_iff stands).mpr
        fun hasTerminal => silent (hasTerminal.mono subset)
      simp only [Automaton.scanFrom, Automaton.foundAt, Automaton.acceptance_prune, none]
  | cons char rest inductionHypothesis =>
      obtain ⟨silent, goesOn⟩ := determinizes.goesOn_of_dead deadStands dead
      have none := (determinizes.acceptance_eq_none_iff stands).mpr
        fun hasTerminal => silent (hasTerminal.mono subset)
      simp only [Automaton.scanFrom, Automaton.foundAt, Automaton.acceptance_prune, none]
      split
      · rfl
      · rename_i next moves
        have read := Automaton.next?_of_next?_prune (determinizes.ordered stands) moves
        have fewStands := determinizes.standsFor_next stands read
        have fewGoesOn : ¬ graph.Stops few :=
          fun stops => silent (stops.hasTerminal.mono subset)
        -- The dead state reads the character as well, and stays dead.
        obtain ⟨deadNext, deadRead⟩ : ∃ deadNext, automaton.next? deadId char = some deadNext := by
          rw [← Option.ne_none_iff_exists']
          intro stuck
          have empty := (determinizes.next?_eq_none_iff deadStands goesOn char).mp stuck
          have : graph.afterReading char.toNat few = ∅ :=
            Set.subset_eq_empty (afterReading_mono subset _) empty
          rw [(determinizes.next?_eq_none_iff stands fewGoesOn char).mpr this] at read
          contradiction
        have deadNextStands := determinizes.standsFor_next deadStands deadRead
        have nextDead := dead.leadsTo (Automaton.leadsTo_of_next? deadRead)
        have spreadSubset :
            graph.spread .empty (graph.afterReading char.toNat few) ⊆
              graph.spread .empty (graph.afterReading char.toNat many) :=
          spread_mono (afterReading_mono subset char.toNat)
        have nextGoesOn := determinizes.goesOn_of_dead deadNextStands nextDead
        let here := (Place.mk (some char) (offset + char.utf8Size) rest).surroundings searchStart
        obtain ⟨_, fewer, fewerStands, fewerSubset⟩ :=
          determinizes.standsFor_settle_prune fewStands
            (fun stops => nextGoesOn.1 (stops.hasTerminal.mono spreadSubset)) here
        obtain ⟨_, settledStands⟩ :=
          determinizes.standsFor_settle deadNextStands nextGoesOn.2 here
        exact inductionHypothesis (count + 1) (some char) (offset + char.utf8Size) fewerStands
          settledStands
          (fewerSubset.trans (spread_mono (afterReading_mono subset _))) (nextDead.settle here)

/-- Both automata settle in the same state, unless they find the same from here on. -/
theorem Determinizes.settle_prune_or_scanFrom_prune
    (determinizes : graph.Determinizes start keys automaton)
    (searchStart count : Nat)
    (found : Option Found)
    (before : Option Char)
    (offset : Nat)
    (rest : List Char)
    (stands : graph.StandsFor keys false id (graph.spread .empty nodes)) :
    (¬ graph.Stops (graph.spread .empty nodes) ∧
        automaton.prune.settle id ((Place.mk before offset rest).surroundings searchStart) =
          automaton.settle id ((Place.mk before offset rest).surroundings searchStart)) ∨
      automaton.prune.scanFrom searchStart id count found before offset rest =
        automaton.scanFrom searchStart id count found before offset rest := by
  let here := (Place.mk before offset rest).surroundings searchStart
  by_cases stops : graph.Stops (graph.spread .empty nodes)
  · right
    have halted := determinizes.state_of_stops stands stops
    rw [Automaton.scanFrom_of_halted halted,
      Automaton.scanFrom_of_halted (automaton.halted_prune halted), automaton.foundAt_prune]
  · rcases determinizes.settle_prune stands stops here with same | dead
    · exact Or.inl ⟨stops, same⟩
    · right
      obtain ⟨_, few, fewStands, subset⟩ :=
        determinizes.standsFor_settle_prune stands stops here
      obtain ⟨_, settledStands⟩ := determinizes.standsFor_settle stands stops here
      rw [Automaton.scanFrom_of_dead searchStart count found before offset rest dead]
      exact determinizes.scanFrom_prune_of_dead searchStart count found before offset rest
        fewStands settledStands subset dead

/-- The pruned automaton finds the same from a state on. -/
theorem Determinizes.scanFrom_prune
    (determinizes : graph.Determinizes start keys automaton)
    (searchStart count : Nat)
    (found : Option Found)
    (before : Option Char)
    (offset : Nat)
    (rest : List Char)
    (stands : graph.StandsFor keys false id (graph.spread .empty nodes)) :
    automaton.prune.scanFrom searchStart id count found before offset rest =
      automaton.scanFrom searchStart id count found before offset rest := by
  induction rest generalizing id nodes count found before offset with
  | nil =>
      rcases determinizes.settle_prune_or_scanFrom_prune searchStart count found before offset []
        stands with ⟨_, same⟩ | found
      · simp only [Automaton.scanFrom, same, automaton.foundAt_prune]
      · exact found
  | cons char rest inductionHypothesis =>
      rcases determinizes.settle_prune_or_scanFrom_prune searchStart count found before offset
        (char :: rest) stands with ⟨goesOn, same⟩ | found
      · simp only [Automaton.scanFrom, same, automaton.foundAt_prune]
        obtain ⟨_, settledStands⟩ := determinizes.standsFor_settle stands goesOn
          ((Place.mk before offset (char :: rest)).surroundings searchStart)
        rcases Automaton.next?_prune (determinizes.ordered settledStands) char with
          read | ⟨dropped, next, read, dead⟩
        · rw [read]
          split
          · rfl
          · rename_i next moves
            exact inductionHypothesis _ _ _ _ (determinizes.standsFor_next settledStands moves)
        · rw [dropped, read]
          exact (Automaton.scanFrom_of_dead _ _ _ _ _ _ (dead.settle _)).symm
      · exact found

/-- The pruned automaton finds the same at every place. -/
theorem Determinizes.longestAt_prune
    (determinizes : graph.Determinizes start keys automaton)
    (place : Place)
    (searchStart : Nat) :
    automaton.prune.longestAt place searchStart = automaton.longestAt place searchStart :=
  determinizes.scanFrom_prune _ _ _ _ _ _ determinizes.standsFor_start

end Graph

end LexicalAutomata
