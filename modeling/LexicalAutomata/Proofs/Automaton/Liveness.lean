import LexicalAutomata.Automaton.Pruning
import LexicalAutomata.Automaton.Scan
import LexicalAutomata.Proofs.StateSet.Reachability
import Mathlib.Logic.Relation

namespace LexicalAutomata

/-!
# States from which something can be found

The predecessors of the states are entered in a table, and a search over it finds the
live states, those from which an accepting state is reached.  A scan that has settled in
any other state finds nothing more.
-/

variable {τ : Type}

namespace Automaton

variable {automaton : Automaton τ}

/-- A number that no state has leads nowhere. -/
theorem lt_size_of_mem_successors
    {id successor : Nat}
    (member : successor ∈ automaton.successors id) :
    id < automaton.size := by
  rcases Nat.lt_or_ge id automaton.size with inside | outside
  · exact inside
  · unfold successors state at member
    rw [Array.getElem?_eq_none outside] at member
    simp [State.successors, default] at member

/-- A number that no state has accepts nothing. -/
theorem lt_size_of_acceptance
    {id : Nat}
    (accepts : automaton.acceptance id ≠ none) :
    id < automaton.size := by
  rcases Nat.lt_or_ge id automaton.size with inside | outside
  · exact inside
  · unfold acceptance state at accepts
    rw [Array.getElem?_eq_none outside] at accepts
    simp [default] at accepts

/-- The predecessors of a state as far as they have been entered in a table. -/
def predecessorsIn
    (table : Array (List Nat))
    (id : Nat) :
    List Nat :=
  table[id]?.getD []

theorem mem_predecessorsIn_modify
    {table : Array (List Nat)}
    {entered target other id : Nat} :
    other ∈ predecessorsIn (table.modify entered fun others => id :: others) target ↔
      other ∈ predecessorsIn table target ∨
        (other = id ∧ entered = target ∧ target < table.size) := by
  unfold predecessorsIn
  rw [Array.getElem?_modify]
  by_cases same : entered = target
  · rw [if_pos same]
    rcases Nat.lt_or_ge target table.size with inside | outside
    · simp [same, inside, or_comm]
    · simp [Nat.not_lt.mpr outside]
  · simp [same]

/-- A state is entered for each of its successors that the table has. -/
theorem mem_foldl_modify
    {successors : List Nat}
    {table : Array (List Nat)}
    {target other id : Nat} :
    other ∈
        predecessorsIn
          (successors.foldl
            (fun table successor => table.modify successor fun others => id :: others)
            table) target ↔
      other ∈ predecessorsIn table target ∨
        (other = id ∧ target ∈ successors ∧ target < table.size) := by
  induction successors generalizing table with
  | nil =>
      simp
  | cons successor rest inductionHypothesis =>
      rw [List.foldl_cons, inductionHypothesis, mem_predecessorsIn_modify,
        Array.size_modify, List.mem_cons, eq_comm (a := target)]
      tauto

theorem size_addPredecessor
    {table : Array (List Nat)}
    {id : Nat} :
    (automaton.addPredecessor table id).size = table.size := by
  unfold addPredecessor
  induction automaton.successors id generalizing table with
  | nil =>
      rfl
  | cons successor rest inductionHypothesis =>
      rw [List.foldl_cons, inductionHypothesis, Array.size_modify]

/-- Each of the given states is entered for all of its successors. -/
theorem mem_foldl_addPredecessor
    {ids : List Nat}
    {table : Array (List Nat)}
    {target other : Nat} :
    other ∈ predecessorsIn (ids.foldl automaton.addPredecessor table) target ↔
      other ∈ predecessorsIn table target ∨
        (other ∈ ids ∧ target ∈ automaton.successors other ∧ target < table.size) := by
  induction ids generalizing table with
  | nil =>
      simp
  | cons id rest inductionHypothesis =>
      rw [List.foldl_cons, inductionHypothesis, size_addPredecessor, addPredecessor,
        mem_foldl_modify, List.mem_cons]
      constructor
      · rintro ((old | ⟨rfl, leads, inside⟩) | ⟨later, leads, inside⟩)
        · exact Or.inl old
        · exact Or.inr ⟨Or.inl rfl, leads, inside⟩
        · exact Or.inr ⟨Or.inr later, leads, inside⟩
      · rintro (old | ⟨rfl | later, leads, inside⟩)
        · exact Or.inl (Or.inl old)
        · exact Or.inl (Or.inr ⟨rfl, leads, inside⟩)
        · exact Or.inr ⟨later, leads, inside⟩

/-- The predecessors of a state are the states that lead to it. -/
theorem mem_predecessors_iff
    {target other : Nat} :
    other ∈ predecessorsIn automaton.predecessors target ↔
      target ∈ automaton.successors other ∧ target < automaton.size := by
  have empty : predecessorsIn (Array.replicate automaton.size []) target = [] := by
    unfold predecessorsIn
    rw [Array.getElem?_replicate]
    split <;> rfl
  unfold predecessors
  rw [mem_foldl_addPredecessor, empty, List.mem_range, Array.size_replicate]
  constructor
  · rintro (old | ⟨_, leads, inside⟩)
    · simp at old
    · exact ⟨leads, inside⟩
  · rintro ⟨leads, inside⟩
    exact Or.inr ⟨lt_size_of_mem_successors leads, leads, inside⟩

/-- A state leads to another one along its resolutions and transitions. -/
def LeadsTo
    (automaton : Automaton τ)
    (id successor : Nat) :
    Prop :=
  successor ∈ automaton.successors id

/-- The live states are those from which a state that accepts something is reached. -/
theorem contains_live_iff
    {id : Nat} :
    automaton.live.contains id = true ↔
      ∃ last,
        Relation.ReflTransGen automaton.LeadsTo id last ∧
          automaton.acceptance last ≠ none := by
  have consistent : automaton.live.Consistent := StateSet.consistent_reachable _ _ _
  rw [consistent.contains_iff]
  unfold live
  rw [StateSet.mem_reachable_iff]
  constructor
  · intro reached
    induction reached with
    | seed member _ =>
        refine ⟨_, .refl, ?_⟩
        unfold acceptingStates at member
        rw [List.mem_filter, Option.isSome_iff_ne_none] at member
        exact member.2
    | neighbour _ near _ inductionHypothesis =>
        obtain ⟨last, path, accepts⟩ := inductionHypothesis
        exact ⟨last, path.head (mem_predecessors_iff.mp near).1, accepts⟩
  · rintro ⟨last, path, accepts⟩
    induction path using Relation.ReflTransGen.head_induction_on with
    | refl =>
        have inside := lt_size_of_acceptance accepts
        refine .seed ?_ inside
        unfold acceptingStates
        rw [List.mem_filter, List.mem_range, Option.isSome_iff_ne_none]
        exact ⟨inside, accepts⟩
    | @head _ successor leads path inductionHypothesis =>
        have inside : successor < automaton.size := by
          rcases path.cases_head with same | ⟨_, step, _⟩
          · rw [same]
            exact lt_size_of_acceptance accepts
          · exact lt_size_of_mem_successors step
        exact .neighbour inductionHypothesis (mem_predecessors_iff.mpr ⟨leads, inside⟩)
          (lt_size_of_mem_successors leads)

/-- A state is live when it accepts something. -/
theorem live_of_acceptance
    {id : Nat}
    (accepts : automaton.acceptance id ≠ none) :
    automaton.live.contains id = true :=
  contains_live_iff.mpr ⟨id, .refl, accepts⟩

/-- A state is live when it leads to a live one. -/
theorem live_of_leadsTo
    {id successor : Nat}
    (leads : automaton.LeadsTo id successor)
    (live : automaton.live.contains successor = true) :
    automaton.live.contains id = true := by
  obtain ⟨last, path, accepts⟩ := contains_live_iff.mp live
  exact contains_live_iff.mpr ⟨last, path.head leads, accepts⟩

/-- Nothing can be found from a state on. -/
def Dead
    (automaton : Automaton τ)
    (id : Nat) :
    Prop :=
  automaton.live.contains id = false

theorem Dead.acceptance
    {id : Nat}
    (dead : automaton.Dead id) :
    automaton.acceptance id = none := by
  by_contra accepts
  rw [Dead, live_of_acceptance accepts] at dead
  contradiction

theorem Dead.leadsTo
    {id successor : Nat}
    (dead : automaton.Dead id)
    (leads : automaton.LeadsTo id successor) :
    automaton.Dead successor := by
  cases live : automaton.live.contains successor with
  | false =>
      exact live
  | true =>
      rw [Dead, live_of_leadsTo leads live] at dead
      contradiction

/-- Settling stays in a state or follows one of its resolutions. -/
theorem settle_eq_or_leadsTo
    (automaton : Automaton τ)
    (id : Nat)
    (here : Surroundings) :
    automaton.settle id here = id ∨ automaton.LeadsTo id (automaton.settle id here) := by
  unfold settle resolve State.resolved?
  split
  · exact Or.inl rfl
  · cases found : (automaton.state id).resolutions.find? fun resolution =>
        resolution.holding == here.holding.inter (automaton.state id).boundaries with
    | none =>
        exact Or.inl rfl
    | some resolution =>
        right
        apply List.mem_append_left
        exact List.mem_map_of_mem (List.mem_of_find?_eq_some found)

theorem leadsTo_of_next?
    {id successor : Nat}
    {char : Char}
    (next : automaton.next? id char = some successor) :
    automaton.LeadsTo id successor := by
  unfold Automaton.next? State.next? at next
  split at next
  · contradiction
  · rename_i transition found
    split at next
    · cases next
      apply List.mem_append_right
      exact List.mem_map_of_mem (List.mem_of_find?_eq_some found)
    · contradiction

theorem Dead.settle
    {id : Nat}
    (dead : automaton.Dead id)
    (here : Surroundings) :
    automaton.Dead (automaton.settle id here) := by
  rcases automaton.settle_eq_or_leadsTo id here with same | leads
  · rw [same]
    exact dead
  · exact dead.leadsTo leads

/-- A scan that has settled in a dead state finds nothing more. -/
theorem scanFrom_of_dead
    (searchStart count : Nat)
    (found : Option Found)
    (before : Option Char)
    (offset : Nat)
    (rest : List Char)
    {id : Nat}
    (dead :
      automaton.Dead
        (automaton.settle id ((Place.mk before offset rest).surroundings searchStart))) :
    automaton.scanFrom searchStart id count found before offset rest = found := by
  induction rest generalizing id count before offset with
  | nil =>
      simp only [Automaton.scanFrom, foundAt, dead.acceptance]
  | cons char rest inductionHypothesis =>
      simp only [Automaton.scanFrom, foundAt, dead.acceptance]
      split
      · rfl
      · rename_i next
        exact inductionHypothesis _ _ _ ((dead.leadsTo (leadsTo_of_next? next)).settle _)

end Automaton

end LexicalAutomata
