import LexicalAutomata.Automaton.Basic
import Mathlib.Data.Finset.Card

namespace LexicalAutomata.Automaton

/-!
# Runs of an automaton

A run goes along resolutions and transitions, whatever holds and is read, and has a number
of edges and of characters.  A run that comes back to a state can be cut short there, so
there is always one with fewer edges than there are states.  Where all runs are bounded,
they have no more edges anyway.
-/

variable {τ : Type}

/-- A run over allowed states with its number of edges and of characters. -/
inductive Run
    (automaton : Automaton τ)
    (allowed : Set Nat) :
    (edges characters : Nat) →
    Nat →
    Nat →
    Prop where
  | nil
      {id : Nat} :
      id ∈ allowed →
      Run automaton allowed 0 0 id id
  | cons
      {edges characters id next amount last : Nat} :
      id ∈ allowed →
      (next, amount) ∈ (automaton.state id).edges →
      Run automaton allowed edges characters next last →
      Run automaton allowed (edges + 1) (amount + characters) id last

/-- The runs from a state do not have more edges than some number. -/
def Bounded
    (automaton : Automaton τ)
    (id : Nat) :
    Prop :=
  ∃ most, ∀ edges characters last, automaton.Run Set.univ edges characters id last → edges ≤ most

/-- The numbers of characters of the accepted runs from a state, with their enders taken off. -/
def acceptedLengths
    (automaton : Automaton τ)
    (id : Nat) :
    Set Int :=
  { length |
    ∃ edges characters last acceptance,
      automaton.Run Set.univ edges characters id last ∧
        automaton.acceptance last = some acceptance ∧
          length = characters - acceptance.enderLength }

variable {automaton : Automaton τ} {allowed more : Set Nat}
  {edges characters further others id middle last : Nat}

theorem Run.mono
    (run : automaton.Run allowed edges characters id last)
    (subset : allowed ⊆ more) :
    automaton.Run more edges characters id last := by
  induction run with
  | nil member =>
      exact .nil (subset member)
  | cons member leads _ inductionHypothesis =>
      exact .cons (subset member) leads inductionHypothesis

theorem Run.first_mem
    (run : automaton.Run allowed edges characters id last) :
    id ∈ allowed := by
  cases run with
  | nil member =>
      exact member
  | cons member _ _ =>
      exact member

/-- One run behind another one. -/
theorem Run.append
    (front : automaton.Run allowed edges characters id middle)
    (back : automaton.Run allowed further others middle last) :
    automaton.Run allowed (edges + further) (characters + others) id last := by
  induction front with
  | nil _ =>
      rw [Nat.zero_add, Nat.zero_add]
      exact back
  | cons member leads _ inductionHypothesis =>
      rw [Nat.succ_add, Nat.add_assoc]
      exact .cons member leads (inductionHypothesis back)

/-- One edge more. -/
theorem Run.concat
    {next amount : Nat}
    (run : automaton.Run Set.univ edges characters id last)
    (leads : (next, amount) ∈ (automaton.state last).edges) :
    automaton.Run Set.univ (edges + 1) (characters + amount) id next :=
  run.append (.cons (Set.mem_univ _) leads (.nil (Set.mem_univ _)))

/-- An edge reads at most one character. -/
theorem Run.characters_le
    (run : automaton.Run allowed edges characters id last) :
    characters ≤ edges := by
  induction run with
  | nil _ =>
      exact Nat.le_refl 0
  | @cons _ _ _ _ amount _ _ leads _ inductionHypothesis =>
      have atMostOne : amount ≤ 1 := by
        rcases List.mem_append.mp leads with resolved | read
        · obtain ⟨_, _, same⟩ := List.mem_map.mp resolved
          cases same
          exact Nat.zero_le 1
        · obtain ⟨_, _, same⟩ := List.mem_map.mp read
          cases same
          exact Nat.le_refl 1
      omega

/-- States that lead somewhere are states of the automaton. -/
theorem lt_size_of_mem_stateEdges
    {edge : Nat × Nat}
    (member : edge ∈ (automaton.state id).edges) :
    id < automaton.size := by
  rcases Nat.lt_or_ge id automaton.size with inside | outside
  · exact inside
  · unfold state at member
    rw [Array.getElem?_eq_none outside] at member
    simp [State.edges, default] at member

/-- All states of a run belong to the automaton when its last one does. -/
theorem Run.of_last_lt_size
    (run : automaton.Run allowed edges characters id last)
    (inside : last < automaton.size) :
    automaton.Run (Finset.range automaton.size) edges characters id last := by
  induction run with
  | nil _ =>
      exact .nil (by simpa using inside)
  | cons _ leads _ inductionHypothesis =>
      exact .cons (by simpa using lt_size_of_mem_stateEdges leads) leads
        (inductionHypothesis inside)

/-- A run avoids a state, or it comes there and goes on. -/
theorem Run.avoids_or_visits
    (run : automaton.Run allowed edges characters id last)
    (node : Nat) :
    automaton.Run (allowed \ {node}) edges characters id last ∨
      ∃ firstEdges firstCharacters restEdges restCharacters,
        automaton.Run allowed firstEdges firstCharacters id node ∧
          automaton.Run allowed restEdges restCharacters node last ∧
            firstEdges + restEdges = edges ∧
              firstCharacters + restCharacters = characters := by
  induction run with
  | @nil id member =>
      by_cases same : id = node
      · subst same
        exact Or.inr ⟨0, 0, 0, 0, .nil member, .nil member, rfl, rfl⟩
      · exact Or.inl (.nil ⟨member, same⟩)
  | @cons edges characters id next amount last member leads run inductionHypothesis =>
      by_cases same : id = node
      · subst same
        refine Or.inr ⟨0, 0, _, _, .nil member, .cons member leads run, ?_, ?_⟩
        · exact Nat.zero_add _
        · exact Nat.zero_add _
      · rcases inductionHypothesis with avoids | visits
        · exact Or.inl (.cons ⟨member, same⟩ leads avoids)
        · obtain ⟨firstEdges, firstCharacters, restEdges, restCharacters, first, rest, rfl, rfl⟩ :=
            visits
          refine Or.inr ⟨firstEdges + 1, amount + firstCharacters, restEdges, restCharacters,
            .cons member leads first, rest, ?_, ?_⟩ <;> omega

/-- There is a run with no more characters and fewer edges than there are allowed states. -/
theorem Run.exists_short
    {states : Finset Nat}
    (run : automaton.Run states edges characters id last) :
    ∃ fewer less,
      fewer < states.card ∧ less ≤ characters ∧ automaton.Run states fewer less id last := by
  induction states using Finset.strongInduction generalizing edges characters id with
  | H states smaller =>
      -- The inner induction is on the edges, for a run that comes back to where it begins.
      induction edges using Nat.strong_induction_on generalizing characters id with
      | h edges shorter =>
          have member := run.first_mem
          cases run with
          | nil _ =>
              exact ⟨0, 0, Finset.card_pos.mpr ⟨_, member⟩, Nat.le_refl _, .nil member⟩
          | @cons edges characters _ next amount _ _ leads rest =>
              rcases rest.avoids_or_visits id with
                avoids | ⟨firstEdges, firstCharacters, restEdges, _, _, back, rfl, rfl⟩
              · rw [← Finset.coe_singleton, ← Finset.coe_sdiff, Finset.sdiff_singleton_eq_erase]
                  at avoids
                obtain ⟨fewer, less, few, le, short⟩ :=
                  smaller _ (Finset.erase_ssubset member) avoids
                rw [Finset.card_erase_of_mem member] at few
                refine ⟨fewer + 1, amount + less, by omega, by omega, .cons member leads ?_⟩
                exact short.mono (by simp)
              · obtain ⟨fewer, less, few, le, short⟩ := shorter restEdges (by omega) back
                exact ⟨fewer, less, few, by omega, short⟩

/-- Where the runs from all successors are bounded, so are those from the state itself. -/
theorem bounded_of_forall
    (all : ∀ edge ∈ (automaton.state id).edges, automaton.Bounded edge.1) :
    automaton.Bounded id := by
  have common :
      ∀ successors : List (Nat × Nat),
        (∀ edge ∈ successors, automaton.Bounded edge.1) →
          ∃ most,
            ∀ edge ∈ successors, ∀ edges characters last,
              automaton.Run Set.univ edges characters edge.1 last → edges ≤ most := by
    intro successors
    induction successors with
    | nil =>
        intro _
        exact ⟨0, by simp⟩
    | cons edge rest inductionHypothesis =>
        intro all
        obtain ⟨most, atMost⟩ := all edge List.mem_cons_self
        obtain ⟨others, othersAtMost⟩ :=
          inductionHypothesis fun other member => all other (List.mem_cons_of_mem _ member)
        refine ⟨max most others, fun other member edges characters last run => ?_⟩
        rcases List.mem_cons.mp member with rfl | later
        · exact (atMost _ _ _ run).trans (Nat.le_max_left _ _)
        · exact (othersAtMost other later _ _ _ run).trans (Nat.le_max_right _ _)
  obtain ⟨most, atMost⟩ := common _ all
  refine ⟨most + 1, fun edges characters last run => ?_⟩
  cases run with
  | nil _ =>
      exact Nat.zero_le _
  | cons _ leads rest =>
      exact Nat.succ_le_succ (atMost _ leads _ _ _ rest)

/-- Beyond the states there are no runs. -/
theorem bounded_of_size_le
    (outside : automaton.size ≤ id) :
    automaton.Bounded id := by
  apply bounded_of_forall
  intro edge leads
  exact (Nat.not_lt_of_le outside (lt_size_of_mem_stateEdges leads)).elim

/-- What comes behind a run is bounded with it. -/
theorem Bounded.of_run
    (bounded : automaton.Bounded id)
    (run : automaton.Run Set.univ edges characters id middle) :
    automaton.Bounded middle := by
  obtain ⟨most, atMost⟩ := bounded
  refine ⟨most, fun further others last back => ?_⟩
  have := atMost _ _ _ (run.append back)
  omega

theorem Bounded.next
    (bounded : automaton.Bounded id)
    {edge : Nat × Nat}
    (leads : edge ∈ (automaton.state id).edges) :
    automaton.Bounded edge.1 := by
  obtain ⟨most, atMost⟩ := bounded
  refine ⟨most, fun edges characters last run => ?_⟩
  have := atMost _ _ _ (.cons (Set.mem_univ id) leads run)
  omega

/-- Runs that come back to where they begin can be repeated. -/
theorem Bounded.not_cycle
    (bounded : automaton.Bounded id)
    {edge : Nat × Nat}
    (leads : edge ∈ (automaton.state id).edges) :
    ¬ automaton.Run Set.univ edges characters edge.1 id := by
  intro back
  have cycle := Run.cons (Set.mem_univ id) leads back
  have repeated :
      ∀ times, ∃ characters, automaton.Run Set.univ (times * (edges + 1)) characters id id := by
    intro times
    induction times with
    | zero =>
        rw [Nat.zero_mul]
        exact ⟨0, .nil (Set.mem_univ id)⟩
    | succ times inductionHypothesis =>
        obtain ⟨characters, run⟩ := inductionHypothesis
        rw [Nat.succ_mul]
        exact ⟨_, run.append cycle⟩
  obtain ⟨most, atMost⟩ := bounded
  obtain ⟨characters, run⟩ := repeated (most + 1)
  have := atMost _ _ _ run
  have := Nat.le_mul_of_pos_right (most + 1) edges.add_one_pos
  omega

/-- Where runs are bounded, they have fewer edges than there are allowed states. -/
theorem Bounded.edges_lt_card
    (bounded : automaton.Bounded id)
    {states : Finset Nat}
    (run : automaton.Run states edges characters id last) :
    edges < states.card := by
  induction edges generalizing characters id states with
  | zero =>
      exact Finset.card_pos.mpr ⟨id, run.first_mem⟩
  | succ edges inductionHypothesis =>
      have member := run.first_mem
      cases run with
      | @cons _ characters _ next amount _ _ leads rest =>
          rcases rest.avoids_or_visits id with avoids | ⟨_, _, _, _, back, _⟩
          · rw [← Finset.coe_singleton, ← Finset.coe_sdiff, Finset.sdiff_singleton_eq_erase]
              at avoids
            have few := inductionHypothesis (bounded.next leads) avoids
            rw [Finset.card_erase_of_mem member] at few
            omega
          · exact (bounded.not_cycle leads (back.mono (Set.subset_univ _))).elim

end LexicalAutomata.Automaton
