import LexicalAutomata.Proofs.StateSet.Members

namespace LexicalAutomata.StateSet

/-!
# What a search reaches

The search visits its members in the order in which they came, and enters the
neighbours of each.  There are never more members than numbers below the capacity,
so as many steps visit all of them, and what has been entered by then is closed
under neighbours.
-/

/-- What can be reached from `seeds` over neighbours below the capacity. -/
inductive Reachable
    (capacity : Nat)
    (neighbours : Nat → List Nat)
    (seeds : List Nat) : Nat → Prop where
  | seed
      {state : Nat} :
      state ∈ seeds →
      state < capacity →
      Reachable capacity neighbours seeds state
  | neighbour
      {state next : Nat} :
      Reachable capacity neighbours seeds state →
      next ∈ neighbours state →
      next < capacity →
      Reachable capacity neighbours seeds next

section Search

variable {neighbours : Nat → List Nat} {set : StateSet}

/-- The neighbours of the members in front of `place` have been entered. -/
def Explored
    (neighbours : Nat → List Nat)
    (place : Nat)
    (set : StateSet) :
    Prop :=
  ∀ earlier state : Nat,
    earlier < place →
      set.toList[earlier]? = some state →
        ∀ next ∈ neighbours state, next < set.capacity → next ∈ set.toList

/-- Entering the neighbours of the member at `place` explores one place more. -/
theorem Explored.step
    {place state : Nat}
    (explored : Explored neighbours place set)
    (consistent : set.Consistent)
    (present : set.toList[place]? = some state) :
    Explored neighbours (place + 1) (set.insertAll (neighbours state)) := by
  obtain ⟨entered, grown⟩ := consistent.prefix_insertAll (neighbours state)
  have here : place < set.toList.length :=
    (List.getElem?_eq_some_iff.mp present).1
  intro earlier other before found next member below
  rw [capacity_insertAll] at below
  rw [← grown, List.getElem?_append_left (by omega)] at found
  rw [consistent.mem_insertAll]
  rcases Nat.lt_or_ge earlier place with less | equal
  · exact Or.inl (explored earlier other less found next member below)
  · have same : earlier = place := by
      omega
    subst same
    rw [present] at found
    cases found
    exact Or.inr ⟨member, below⟩

/-- When all places have been explored, the set is closed under neighbours. -/
theorem Explored.closed
    {place : Nat}
    (explored : Explored neighbours place set)
    (all : set.size ≤ place) :
    ∀ state ∈ set.toList, ∀ next ∈ neighbours state,
      next < set.capacity → next ∈ set.toList := by
  intro state member
  obtain ⟨earlier, found⟩ := List.mem_iff_getElem?.mp member
  have live : earlier < set.toList.length :=
    (List.getElem?_eq_some_iff.mp found).1
  rw [length_toList] at live
  exact explored earlier state (by omega) found

/-- The search ends with a consistent set that has kept its members and is closed. -/
theorem exploreFrom_closed
    (consistent : set.Consistent)
    {steps place : Nat}
    (explored : Explored neighbours place set)
    (enough : set.capacity ≤ place + steps) :
    let result := exploreFrom neighbours steps place set
    result.Consistent ∧
      set.toList <+: result.toList ∧
      ∀ state ∈ result.toList, ∀ next ∈ neighbours state,
        next < set.capacity → next ∈ result.toList := by
  induction steps generalizing place set with
  | zero =>
      have := consistent.size_le_capacity
      exact ⟨consistent, List.prefix_refl _, explored.closed (by omega)⟩
  | succ steps inductionHypothesis =>
      unfold exploreFrom
      split
      · rename_i absent
        rw [get?_eq_getElem?, List.getElem?_eq_none_iff, length_toList] at absent
        exact ⟨consistent, List.prefix_refl _, explored.closed absent⟩
      · rename_i state present
        rw [get?_eq_getElem?] at present
        have later := explored.step consistent present
        have stillConsistent := consistent.insertAll (neighbours state)
        obtain ⟨resultConsistent, kept, closed⟩ :=
          inductionHypothesis stillConsistent later
            (by rw [capacity_insertAll]; omega)
        rw [capacity_insertAll] at closed
        exact ⟨resultConsistent,
          (consistent.prefix_insertAll (neighbours state)).trans kept, closed⟩

/-- The search enters nothing that cannot be reached. -/
theorem exploreFrom_sound
    {capacity steps place : Nat}
    {seeds : List Nat}
    (consistent : set.Consistent)
    (bound : set.capacity = capacity)
    (sound : ∀ state ∈ set.toList, Reachable capacity neighbours seeds state) :
    ∀ state ∈ (exploreFrom neighbours steps place set).toList,
      Reachable capacity neighbours seeds state := by
  induction steps generalizing place set with
  | zero =>
      exact sound
  | succ steps inductionHypothesis =>
      unfold exploreFrom
      split
      · exact sound
      · rename_i state present
        rw [get?_eq_getElem?] at present
        apply inductionHypothesis (consistent.insertAll (neighbours state))
        · rw [capacity_insertAll]
          exact bound
        · intro other member
          rcases consistent.mem_insertAll.mp member with old | ⟨near, below⟩
          · exact sound other old
          · rw [bound] at below
            exact .neighbour (sound state (List.mem_of_getElem? present)) near below

end Search

section Reachable

variable
  (capacity : Nat)
  (neighbours : Nat → List Nat)
  (seeds : List Nat)

theorem consistent_reachable :
    (reachable capacity neighbours seeds).Consistent := by
  have start := (consistent_withCapacity capacity).insertAll seeds
  exact (exploreFrom_closed start (by intro _ _ less; omega) (by simp)).1

/-- The search finds exactly what can be reached. -/
theorem mem_reachable_iff
    {state : Nat} :
    state ∈ (reachable capacity neighbours seeds).toList ↔
      Reachable capacity neighbours seeds state := by
  have fresh := consistent_withCapacity capacity
  have start := fresh.insertAll seeds
  have unexplored :
      Explored neighbours 0 ((withCapacity capacity).insertAll seeds) :=
    fun _ _ impossible => (Nat.not_lt_zero _ impossible).elim
  have enough : ((withCapacity capacity).insertAll seeds).capacity = 0 + capacity := by
    simp
  obtain ⟨_, kept, closed⟩ :=
    exploreFrom_closed start unexplored (Nat.le_of_eq enough)
  constructor
  · apply exploreFrom_sound start (by simp)
    intro other member
    rcases fresh.mem_insertAll.mp member with old | ⟨seed, below⟩
    · simp at old
    · rw [capacity_withCapacity] at below
      exact .seed seed below
  · intro reached
    induction reached with
    | seed member below =>
        apply kept.subset
        rw [fresh.mem_insertAll, capacity_withCapacity]
        exact Or.inr ⟨member, below⟩
    | neighbour _ near below inductionHypothesis =>
        exact closed _ inductionHypothesis _ near (by simpa using below)

end Reachable

end LexicalAutomata.StateSet
