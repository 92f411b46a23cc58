import LexicalAutomata.Proofs.Graph.Contest
import LexicalAutomata.Proofs.StateSet.Members
import Mathlib.Data.Finset.Card

namespace LexicalAutomata.StateSet

/-!
# Sequences of calls

A set of states is used over and over again: it is filled, asked and emptied.  What it should
answer depends only on what has been inserted since it was emptied last, which is kept in a
list here.  The arrays keep all that was ever stored in them, and the main statement is that
nevertheless every answer is right, and that no access to them is out of range.
-/

/-- What a set of states is called upon to do. -/
inductive Call where
  | insert (state : Nat)
  | contains (state : Nat)
  | clear
  deriving Repr, DecidableEq

namespace Call

/-- The number in a call is below the capacity. -/
def Below
    (capacity : Nat) :
    Call → Prop
  | .insert state =>
      state < capacity
  | .contains state =>
      state < capacity
  | .clear =>
      True

instance
    (capacity : Nat) :
    (call : Call) →
    Decidable (call.Below capacity)
  | .insert state =>
      inferInstanceAs (Decidable (state < capacity))
  | .contains state =>
      inferInstanceAs (Decidable (state < capacity))
  | .clear =>
      .isTrue trivial

/-- What has been inserted since the last clearance when a call has come behind `inserted`. -/
def note
    (inserted : List Nat) :
    Call → List Nat
  | .insert state =>
      inserted ++ [state]
  | .contains _ =>
      inserted
  | .clear =>
      []

/-- The right answer to a call when `inserted` has been inserted since the last clearance. -/
def answer
    (inserted : List Nat) :
    Call → Option Bool
  | .insert state =>
      some (state ∉ inserted)
  | .contains state =>
      some (state ∈ inserted)
  | .clear =>
      none

/-- Answer a call. -/
def perform
    (set : StateSet) :
    Call → Option Bool × StateSet
  | .insert state =>
      (some (set.insertNew state).1, (set.insertNew state).2)
  | .contains state =>
      (some (set.contains state), set)
  | .clear =>
      (none, set.clear)

end Call

/-- What has been inserted since the last clearance behind all of the calls. -/
def insertedBy
    (calls : List Call) :
    List Nat :=
  calls.foldl Call.note []

/-- The right answers to calls when `inserted` has been inserted since the last clearance. -/
def answersFrom
    (inserted : List Nat) :
    List Call →
    List (Option Bool)
  | [] =>
      []
  | call :: rest =>
      call.answer inserted :: answersFrom (call.note inserted) rest

/-- Answer calls one after the other. -/
def performAll
    (set : StateSet) :
    List Call →
    List (Option Bool) × StateSet
  | [] =>
      ([], set)
  | call :: rest =>
      let (answer, next) := call.perform set
      let (answers, last) := next.performAll rest
      (answer :: answers, last)

section Checked

/-!
## Checked accesses

Here every access that is out of range is a failure.  The place in `dense` is only looked up
where it is a live one, and the write to `dense` is a write only where there is room.
-/

/-- Whether a number is a member, with checked accesses. -/
def contains?
    (set : StateSet)
    (state : Nat) :
    Option Bool := do
  let place ← set.sparse[state]?
  if place < set.size then
    let member ← set.dense[place]?
    return member == state
  else
    return false

/-- Insert a number, with checked accesses. -/
def insertNew?
    (set : StateSet)
    (state : Nat) :
    Option (Bool × StateSet) := do
  if ← set.contains? state then
    return (false, set)
  else if state < set.sparse.size then
    return (true, set.push state)
  else
    none

/-- The live part of `dense`, if it is a part. -/
def toList?
    (set : StateSet) :
    Option (List Nat) :=
  if set.size ≤ set.dense.size then
    some (set.dense.toList.take set.size)
  else
    none

/-- Answer a call, with checked accesses. -/
def Call.perform?
    (set : StateSet) :
    Call → Option (Option Bool × StateSet)
  | .insert state => do
      let (new, next) ← set.insertNew? state
      return (some new, next)
  | .contains state => do
      return (some (← set.contains? state), set)
  | .clear =>
      some (none, set.clear)

/-- Answer calls one after the other, with checked accesses. -/
def performAll?
    (set : StateSet) :
    List Call →
    Option (List (Option Bool) × StateSet)
  | [] =>
      some ([], set)
  | call :: rest => do
      let (answer, next) ← call.perform? set
      let (answers, last) ← next.performAll? rest
      return (answer :: answers, last)

variable {set : StateSet} {state : Nat}

/-- A live place is a place of `dense`, so below the capacity no access is out of range. -/
theorem contains?_eq
    (below : state < set.capacity) :
    set.contains? state = some (set.contains state) := by
  have stored : set.sparse[state]? = some set.sparse[state] :=
    Array.getElem?_eq_getElem below
  simp only [contains?, contains, stored, Option.bind_eq_bind, Option.bind_some]
  split
  · rename_i live
    have inside : set.sparse[state] < set.dense.size :=
      Nat.lt_of_lt_of_le live set.size_le
    simp [live, inside]
  · rename_i dead
    simp [dead]

theorem insertNew?_eq
    (below : state < set.capacity) :
    set.insertNew? state = some (set.insertNew state) := by
  have inside : state < set.sparse.size := below
  have refused : ¬ set.capacity ≤ state := Nat.not_le_of_lt below
  simp only [insertNew?, insertNew, contains?_eq below, Option.bind_eq_bind, Option.bind_some]
  cases set.contains state <;> simp [inside, refused]

theorem toList?_eq
    (set : StateSet) :
    set.toList? = some set.toList :=
  if_pos set.size_le

theorem Call.perform?_eq
    {call : Call}
    (below : call.Below set.capacity) :
    call.perform? set = some (call.perform set) := by
  cases call with
  | insert state =>
      simp [perform?, perform, insertNew?_eq below]
  | contains state =>
      simp [perform?, perform, contains?_eq below]
  | clear =>
      rfl

@[simp] theorem Call.capacity_perform
    (set : StateSet)
    (call : Call) :
    (call.perform set).2.capacity = set.capacity := by
  cases call with
  | insert state =>
      exact capacity_insert set state
  | contains state =>
      rfl
  | clear =>
      rfl

/-- No access of a sequence of calls is out of range. -/
theorem performAll?_eq
    {calls : List Call}
    (below : ∀ call ∈ calls, call.Below set.capacity) :
    set.performAll? calls = some (set.performAll calls) := by
  induction calls generalizing set with
  | nil =>
      rfl
  | cons call rest inductionHypothesis =>
      obtain ⟨first, others⟩ := List.forall_mem_cons.mp below
      have later := @inductionHypothesis (call.perform set).2 (by simpa using others)
      simp [performAll?, performAll, Call.perform?_eq first, later]

end Checked

section Tracks

/-- A set holds what has been inserted since the last clearance, each number where it first came. -/
structure Tracks
    (set : StateSet)
    (capacity : Nat)
    (inserted : List Nat) : Prop where
  consistent : set.Consistent
  capacity_eq : set.capacity = capacity
  toList_eq : set.toList = inserted.eraseDups

variable {set : StateSet} {capacity : Nat} {inserted : List Nat}

theorem tracks_withCapacity
    (capacity : Nat) :
    (withCapacity capacity).Tracks capacity [] :=
  ⟨consistent_withCapacity capacity, capacity_withCapacity capacity, by simp⟩

theorem Tracks.contains_eq
    (tracks : set.Tracks capacity inserted)
    (state : Nat) :
    set.contains state = decide (state ∈ inserted) := by
  rw [Bool.eq_iff_iff, tracks.consistent.contains_iff, tracks.toList_eq, List.mem_eraseDups,
    decide_eq_true_iff]

/-- What is left over from before a clearance is never taken for a member. -/
theorem Tracks.clear
    (tracks : set.Tracks capacity inserted) :
    set.clear.Tracks capacity [] := by
  have none : set.clear.toList = [] := by
    simp [StateSet.clear, toList]
  refine ⟨?_, tracks.capacity_eq, by simpa using none⟩
  intro place state stored
  rw [none] at stored
  simp at stored

/-- An insertion finds out whether the number is new, and puts it behind the others if it is. -/
theorem Tracks.insertNew
    (tracks : set.Tracks capacity inserted)
    {state : Nat}
    (below : state < capacity) :
    (set.insertNew state).1 = decide (state ∉ inserted) ∧
      (set.insertNew state).2.Tracks capacity (inserted ++ [state]) := by
  have room : ¬ set.capacity ≤ state := by
    rw [tracks.capacity_eq]
    exact Nat.not_le_of_lt below
  constructor
  · unfold StateSet.insertNew
    rw [tracks.contains_eq]
    by_cases member : state ∈ inserted <;> simp [member, room]
  · refine ⟨tracks.consistent.insert state, ?_, ?_⟩
    · exact (capacity_insert set state).trans tracks.capacity_eq
    · have added := tracks.consistent.toList_insert state
      simp only [tracks.toList_eq, List.mem_eraseDups, room, or_false] at added
      rw [Contest.eraseDups_concat]
      exact added

/-- A call below the capacity is answered rightly, and the set goes on holding what it should. -/
theorem Tracks.perform
    (tracks : set.Tracks capacity inserted)
    {call : Call}
    (below : call.Below capacity) :
    (call.perform set).1 = call.answer inserted ∧
      (call.perform set).2.Tracks capacity (call.note inserted) := by
  cases call with
  | insert state =>
      obtain ⟨new, later⟩ := tracks.insertNew below
      exact ⟨congrArg some new, later⟩
  | contains state =>
      exact ⟨congrArg some (tracks.contains_eq state), tracks⟩
  | clear =>
      exact ⟨rfl, tracks.clear⟩

/-- So are all calls of a sequence. -/
theorem Tracks.performAll
    (tracks : set.Tracks capacity inserted)
    {calls : List Call}
    (below : ∀ call ∈ calls, call.Below capacity) :
    (set.performAll calls).1 = answersFrom inserted calls ∧
      (set.performAll calls).2.Tracks capacity (calls.foldl Call.note inserted) := by
  induction calls generalizing set inserted with
  | nil =>
      exact ⟨rfl, tracks⟩
  | cons call rest inductionHypothesis =>
      obtain ⟨first, others⟩ := List.forall_mem_cons.mp below
      obtain ⟨answer, later⟩ := tracks.perform first
      obtain ⟨answers, last⟩ := inductionHypothesis later others
      exact ⟨congrArg₂ List.cons answer answers, last⟩

/-- The size is the number of different numbers that have been inserted. -/
theorem Tracks.size_eq
    (tracks : set.Tracks capacity inserted) :
    set.size = inserted.toFinset.card := by
  have same : inserted.toFinset = set.toList.toFinset := by
    ext state
    rw [tracks.toList_eq, List.mem_toFinset, List.mem_toFinset, List.mem_eraseDups]
  rw [same, List.toFinset_card_of_nodup tracks.consistent.nodup, length_toList]

/-- Sorting loses no member. -/
theorem Consistent.toSorted_perm
    (consistent : set.Consistent) :
    set.toSorted.Perm set.toList := by
  have sorted : set.toSorted.Nodup :=
    (pairwise_ascending set.toList).imp Nat.ne_of_lt
  exact (List.perm_ext_iff_of_nodup sorted consistent.nodup).mpr fun _ => mem_ascending

/-- What is to be seen of a set into which `inserted` has been inserted since the last clearance. -/
structure Shows
    (set : StateSet)
    (inserted : List Nat) : Prop where
  /-- The members are listed where they first came. -/
  toList_eq : set.toList = inserted.eraseDups
  /-- To list them is to read a part of `dense` that is there. -/
  toList?_eq : set.toList? = some set.toList
  nodup : set.toList.Nodup
  size_eq : set.size = inserted.toFinset.card
  ascending : set.toSorted.Pairwise (· < ·)
  toSorted_perm : set.toSorted.Perm set.toList

theorem Tracks.shows
    (tracks : set.Tracks capacity inserted) :
    set.Shows inserted where
  toList_eq :=
    tracks.toList_eq
  toList?_eq :=
    set.toList?_eq
  nodup :=
    tracks.consistent.nodup
  size_eq :=
    tracks.size_eq
  ascending :=
    pairwise_ascending set.toList
  toSorted_perm :=
    tracks.consistent.toSorted_perm

end Tracks

/--
Calls with numbers below the capacity are answered rightly, and no access is out of range.
The set shows what has been inserted since the last clearance, although a clearance leaves
the arrays as they are.
-/
theorem performAll_withCapacity
    (capacity : Nat)
    (calls : List Call)
    (below : ∀ call ∈ calls, call.Below capacity) :
    ∃ set : StateSet,
      (withCapacity capacity).performAll calls = (answersFrom [] calls, set) ∧
        (withCapacity capacity).performAll? calls = some (answersFrom [] calls, set) ∧
          set.Shows (insertedBy calls) ∧
            set.clear.dense = set.dense ∧ set.clear.sparse = set.sparse := by
  obtain ⟨answers, tracks⟩ := (tracks_withCapacity capacity).performAll below
  have answered :
      (withCapacity capacity).performAll calls =
        (answersFrom [] calls, ((withCapacity capacity).performAll calls).2) :=
    Prod.ext answers rfl
  have inside : ∀ call ∈ calls, call.Below (withCapacity capacity).capacity := by
    simpa using below
  have checked := performAll?_eq inside
  rw [answered] at checked
  exact ⟨_, answered, checked, tracks.shows, rfl, rfl⟩

/-- Behind a clearance, two of three numbers are left over in `dense`, and none is a member. -/
theorem performAll_leftovers :
    let calls : List Call :=
      [.insert 1, .insert 2, .insert 3, .clear, .contains 1, .insert 4, .insert 4, .contains 2]
    (∀ call ∈ calls, call.Below 5) ∧
      ∃ set : StateSet,
        (withCapacity 5).performAll? calls =
            some
              ([some true, some true, some true, none, some false, some true, some false,
                some false], set) ∧
          set.toList = [4] ∧ set.size = 1 ∧ set.dense = #[4, 2, 3] := by
  intro calls
  have below : ∀ call ∈ calls, call.Below 5 := by
    decide
  obtain ⟨set, answered, checked, shows, _⟩ := performAll_withCapacity 5 calls below
  have isSet : ((withCapacity 5).performAll calls).2 = set :=
    congrArg Prod.snd answered
  refine ⟨below, set, checked, shows.toList_eq, shows.size_eq, ?_⟩
  rw [← isSet]
  rfl

end LexicalAutomata.StateSet
