import LexicalAutomata.StateSet
import Mathlib.Data.List.Nodup
import Mathlib.Data.List.Perm.Subperm

namespace LexicalAutomata.StateSet

/-!
# The members of a set of states

The arrays of a set hold leftovers, which must not be taken for members.  A set is
consistent when every live place of `dense` is the one that `sparse` names for the
number in it.  Insertion keeps a set consistent, and the list of its members then
says all there is to know: what is a member, and in which order members came.
-/

/-- Every live place holds a number, and that number has its place there. -/
def Consistent
    (set : StateSet) :
    Prop :=
  ∀ place state : Nat,
    set.toList[place]? = some state →
      set.sparse[state]? = some place

@[simp] theorem toList_withCapacity
    (capacity : Nat) :
    (withCapacity capacity).toList = [] := by
  simp [withCapacity, toList]

@[simp] theorem capacity_withCapacity
    (capacity : Nat) :
    (withCapacity capacity).capacity = capacity := by
  simp [withCapacity, StateSet.capacity]

/-- A new set is consistent. -/
theorem consistent_withCapacity
    (capacity : Nat) :
    (withCapacity capacity).Consistent := by
  intro place state member
  simp at member

@[simp] theorem length_toList
    (set : StateSet) :
    set.toList.length = set.size := by
  have := set.size_le
  simp [toList]
  omega

/-- The live places are those of the list of members. -/
theorem get?_eq_getElem?
    (set : StateSet)
    (place : Nat) :
    set.get? place = set.toList[place]? := by
  unfold get? toList
  split
  · rename_i live
    rw [List.getElem?_take_of_lt live, Array.getElem?_toList]
  · rename_i dead
    rw [List.getElem?_take_eq_none (by omega)]

/-- The membership test is exact in spite of the leftovers. -/
theorem Consistent.contains_iff
    {set : StateSet}
    (consistent : set.Consistent)
    {state : Nat} :
    set.contains state = true ↔ state ∈ set.toList := by
  unfold contains
  constructor
  · intro found
    split at found
    · contradiction
    · rename_i place _
      obtain ⟨live, stored⟩ : place < set.size ∧ set.dense[place]? = some state := by
        simpa using found
      apply List.mem_of_getElem? (i := place)
      rw [← get?_eq_getElem?, get?, if_pos live]
      exact stored
  · intro member
    obtain ⟨place, stored⟩ := List.mem_iff_getElem?.mp member
    have live : place < set.size := by
      simpa using (List.getElem?_eq_some_iff.mp stored).1
    rw [consistent place state stored]
    rw [← get?_eq_getElem?, get?, if_pos live] at stored
    simp [live, stored]

/-- A member is below the capacity. -/
theorem Consistent.lt_capacity
    {set : StateSet}
    (consistent : set.Consistent)
    {state : Nat}
    (member : state ∈ set.toList) :
    state < set.capacity := by
  obtain ⟨place, stored⟩ := List.mem_iff_getElem?.mp member
  exact (Array.getElem?_eq_some_iff.mp (consistent place state stored)).1

/-- No number is listed twice. -/
theorem Consistent.nodup
    {set : StateSet}
    (consistent : set.Consistent) :
    set.toList.Nodup := by
  rw [List.nodup_iff_getElem?_ne_getElem?]
  intro first second less below same
  have stored : set.toList[second]? = some set.toList[second] :=
    List.getElem?_eq_getElem below
  have firstPlace := consistent first _ (same.trans stored)
  have secondPlace := consistent second _ stored
  rw [firstPlace] at secondPlace
  cases secondPlace
  omega

/-- There are not more members than numbers below the capacity. -/
theorem Consistent.size_le_capacity
    {set : StateSet}
    (consistent : set.Consistent) :
    set.size ≤ set.capacity := by
  have inside : set.toList ⊆ List.range set.capacity :=
    fun state member => List.mem_range.mpr (consistent.lt_capacity member)
  have fewer := (List.Nodup.subperm consistent.nodup inside).length_le
  simpa using fewer

@[simp] theorem toList_push
    (set : StateSet)
    (state : Nat) :
    (set.push state).toList = set.toList ++ [state] := by
  obtain ⟨dense, sparse, size, size_le⟩ := set
  unfold push toList
  dsimp only
  split
  · rename_i room
    simp only [Array.toList_set, List.take_add_one, List.take_set_of_le (Nat.le_refl size)]
    simp [room]
  · have full : size = dense.size := by
      omega
    simp [full, List.take_of_length_le]

@[simp] theorem capacity_push
    (set : StateSet)
    (state : Nat) :
    (set.push state).capacity = set.capacity := by
  obtain ⟨dense, sparse, size, size_le⟩ := set
  unfold push
  dsimp only
  split <;> simp [StateSet.capacity]

/-- The index of a state that is pushed is its place in the list. -/
theorem sparse_push
    (set : StateSet)
    (state : Nat) :
    (set.push state).sparse = set.sparse.setIfInBounds state set.size := by
  obtain ⟨dense, sparse, size, size_le⟩ := set
  unfold push
  dsimp only
  split <;> rfl

/-- A new number below the capacity gets the next place. -/
theorem Consistent.push
    {set : StateSet}
    (consistent : set.Consistent)
    {state : Nat}
    (below : state < set.capacity)
    (absent : state ∉ set.toList) :
    (set.push state).Consistent := by
  intro place other stored
  rw [sparse_push]
  rw [toList_push] at stored
  have below : state < set.sparse.size := below
  rcases Nat.lt_or_ge place set.toList.length with live | behind
  · rw [List.getElem?_append_left live] at stored
    have different : state ≠ other := by
      rintro rfl
      exact absent (List.mem_of_getElem? stored)
    rw [Array.getElem?_setIfInBounds_ne different]
    exact consistent place other stored
  · rw [List.getElem?_append_right behind] at stored
    have last : place = set.size ∧ state = other := by
      cases offset : place - set.toList.length with
      | zero =>
          rw [offset] at stored
          simp only [length_toList] at offset behind
          exact ⟨by omega, by simpa using stored⟩
      | succ further =>
          rw [offset] at stored
          simp at stored
    obtain ⟨rfl, rfl⟩ := last
    simp [below]

/-- Insertion adds one member behind the others, if it is new and below the capacity. -/
theorem Consistent.toList_insert
    {set : StateSet}
    (consistent : set.Consistent)
    (state : Nat) :
    (set.insert state).toList =
      if state ∈ set.toList ∨ set.capacity ≤ state then
        set.toList
      else
        set.toList ++ [state] := by
  unfold insert insertNew
  by_cases kept : state ∈ set.toList ∨ set.capacity ≤ state
  · have refused : (set.contains state || decide (set.capacity ≤ state)) = true := by
      simpa [consistent.contains_iff] using kept
    simp [refused, kept]
  · have accepted : (set.contains state || decide (set.capacity ≤ state)) = false := by
      rw [← Bool.not_eq_true]
      simpa [consistent.contains_iff] using kept
    simp [accepted, kept]

/-- An insertion keeps a set consistent. -/
theorem Consistent.insert
    {set : StateSet}
    (consistent : set.Consistent)
    (state : Nat) :
    (set.insert state).Consistent := by
  unfold StateSet.insert insertNew
  split
  · exact consistent
  · rename_i accepted
    obtain ⟨absent, below⟩ : state ∉ set.toList ∧ state < set.capacity := by
      simpa [consistent.contains_iff] using accepted
    exact consistent.push below absent

@[simp] theorem capacity_insert
    (set : StateSet)
    (state : Nat) :
    (set.insert state).capacity = set.capacity := by
  unfold insert insertNew
  split <;> simp

/-- An insertion adds a state below the capacity, and nothing else. -/
theorem Consistent.mem_insert
    {set : StateSet}
    (consistent : set.Consistent)
    {state other : Nat} :
    other ∈ (set.insert state).toList ↔
      other ∈ set.toList ∨ (other = state ∧ state < set.capacity) := by
  rw [consistent.toList_insert]
  split
  · rename_i kept
    constructor
    · exact Or.inl
    · rintro (member | ⟨rfl, below⟩)
      · exact member
      · rcases kept with member | above
        · exact member
        · omega
  · rename_i new
    have below : state < set.capacity := by
      omega
    simp [below]

/-- The members of a set stay in front of a state that is inserted. -/
theorem Consistent.prefix_insert
    {set : StateSet}
    (consistent : set.Consistent)
    (state : Nat) :
    set.toList <+: (set.insert state).toList := by
  rw [consistent.toList_insert]
  split
  · exact List.prefix_refl _
  · exact List.prefix_append _ _

section InsertAll

variable {set : StateSet}

/-- Several insertions keep a set consistent. -/
theorem Consistent.insertAll
    (consistent : set.Consistent)
    (states : List Nat) :
    (set.insertAll states).Consistent := by
  induction states generalizing set with
  | nil =>
      exact consistent
  | cons state rest inductionHypothesis =>
      exact inductionHypothesis (consistent.insert state)

@[simp] theorem capacity_insertAll
    (set : StateSet)
    (states : List Nat) :
    (set.insertAll states).capacity = set.capacity := by
  induction states generalizing set with
  | nil =>
      rfl
  | cons state rest inductionHypothesis =>
      exact (inductionHypothesis (set.insert state)).trans (capacity_insert set state)

/-- Inserting numbers adds those of them that are below the capacity. -/
theorem Consistent.mem_insertAll
    (consistent : set.Consistent)
    {states : List Nat}
    {other : Nat} :
    other ∈ (set.insertAll states).toList ↔
      other ∈ set.toList ∨ (other ∈ states ∧ other < set.capacity) := by
  induction states generalizing set with
  | nil =>
      simp [StateSet.insertAll]
  | cons state rest inductionHypothesis =>
      have later := inductionHypothesis (consistent.insert state)
      rw [consistent.mem_insert, capacity_insert] at later
      have unfolded : set.insertAll (state :: rest) = (set.insert state).insertAll rest :=
        rfl
      rw [unfolded, later, List.mem_cons]
      constructor
      · rintro ((member | ⟨rfl, below⟩) | ⟨member, below⟩)
        · exact Or.inl member
        · exact Or.inr ⟨Or.inl rfl, below⟩
        · exact Or.inr ⟨Or.inr member, below⟩
      · rintro (member | ⟨rfl | member, below⟩)
        · exact Or.inl (Or.inl member)
        · exact Or.inl (Or.inr ⟨rfl, below⟩)
        · exact Or.inr ⟨member, below⟩

/-- The members of a set stay in front of all states that are inserted. -/
theorem Consistent.prefix_insertAll
    (consistent : set.Consistent)
    (states : List Nat) :
    set.toList <+: (set.insertAll states).toList := by
  induction states generalizing set with
  | nil =>
      exact List.prefix_refl _
  | cons state rest inductionHypothesis =>
      exact (consistent.prefix_insert state).trans
        (inductionHypothesis (consistent.insert state))

end InsertAll

end LexicalAutomata.StateSet
