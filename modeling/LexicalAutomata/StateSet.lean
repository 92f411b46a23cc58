import LexicalAutomata.Ascending

namespace LexicalAutomata

/-!
# Sets of states

A set of numbers below a fixed capacity, which remembers the order of insertion
and is emptied at once.  The members are listed in `dense`, and `sparse` tells
where in that list a number would stand.  A number is a member when the two agree
within the first `size` places; what else is in the arrays does not matter.
-/

/-- A set of states below a capacity. -/
structure StateSet where
  /-- The members in the order of insertion, and leftovers behind them. -/
  dense : Array Nat
  /-- For each number, the place in `dense` where it would stand. -/
  sparse : Array Nat
  size : Nat
  size_le : size ≤ dense.size

namespace StateSet

/-- The empty set for numbers below `capacity`. -/
def withCapacity
    (capacity : Nat) :
    StateSet where
  dense :=
    #[]
  sparse :=
    Array.replicate capacity 0
  size :=
    0
  size_le := by
    simp

/-- All members are below this number. -/
def capacity
    (set : StateSet) :
    Nat :=
  set.sparse.size

/-- Whether a number is a member. -/
def contains
    (set : StateSet)
    (state : Nat) :
    Bool :=
  match set.sparse[state]? with
  | none =>
      false
  | some place =>
      place < set.size && set.dense[place]? == some state

/-- The members in the order of insertion. -/
def toList
    (set : StateSet) :
    List Nat :=
  set.dense.toList.take set.size

/-- The members in ascending order. -/
def toSorted
    (set : StateSet) :
    List Nat :=
  ascending set.toList

/-- The member that was inserted behind `place` others. -/
def get?
    (set : StateSet)
    (place : Nat) :
    Option Nat :=
  if place < set.size then
    set.dense[place]?
  else
    none

/-- Put a number behind the last member. -/
def push
    (set : StateSet)
    (state : Nat) :
    StateSet :=
  let ⟨dense, sparse, size, size_le⟩ := set
  if room : size < dense.size then
    ⟨dense.set size state room, sparse.setIfInBounds state size, size + 1, by simp; omega⟩
  else
    ⟨dense.push state, sparse.setIfInBounds state size, size + 1, by simp; omega⟩

/-- Insert a number, and tell whether it is a new member. -/
def insertNew
    (set : StateSet)
    (state : Nat) :
    Bool × StateSet :=
  if set.contains state || set.capacity ≤ state then
    (false, set)
  else
    (true, set.push state)

/-- Insert a number. -/
def insert
    (set : StateSet)
    (state : Nat) :
    StateSet :=
  (set.insertNew state).2

/-- Insert every number of a list. -/
def insertAll
    (set : StateSet)
    (states : List Nat) :
    StateSet :=
  states.foldl insert set

/-- Remove all members. -/
def clear
    (set : StateSet) :
    StateSet :=
  { set with size := 0, size_le := Nat.zero_le _ }

/--
Insert what can be reached from the members: the neighbours of the member at
`place`, of the one behind it, and so on for at most `steps` members.
-/
def exploreFrom
    (neighbours : Nat → List Nat) :
    (steps place : Nat) →
    StateSet →
    StateSet
  | 0, _, set =>
      set
  | steps + 1, place, set =>
      match set.get? place with
      | none =>
          set
      | some state =>
          exploreFrom neighbours steps (place + 1) (set.insertAll (neighbours state))

/--
What can be reached from `seeds`, in the order of a breadth-first search.  There
are at most `capacity` members, so that many steps visit each of them.
-/
def reachable
    (capacity : Nat)
    (neighbours : Nat → List Nat)
    (seeds : List Nat) :
    StateSet :=
  exploreFrom neighbours capacity 0 ((withCapacity capacity).insertAll seeds)

end StateSet

end LexicalAutomata
