import Std.Data.TreeMap

namespace LexicalAutomata

/-!
# Keys and their numbers

A state of an automaton is made from a key, the set of nodes that it stands for.
Keys are numbered in the order in which they are found, each of them once.
-/

/-- The set of nodes that a state stands for. -/
structure Key where
  /-- The nodes in ascending order. -/
  members : List Nat
  /-- The boundaries have been decided. -/
  settled : Bool
  deriving Repr, DecidableEq

namespace Key

/-- An order of keys: those that are not settled first, and by their members. -/
def order :
    Key →
    Key →
    Ordering :=
  compareLex (compareOn settled) (compareOn members)

instance : Std.TransCmp order :=
  inferInstanceAs (Std.TransCmp (compareLex (compareOn settled) (compareOn members)))

instance : Std.LawfulEqCmp order where
  compare_self := by
    intro key
    simp [order, compareLex, compareOn]
  eq_of_compare := by
    intro first second same
    obtain ⟨sameSettled, sameMembers⟩ : first.settled = second.settled ∧
        first.members = second.members := by
      simpa [order, compareLex, compareOn, Ordering.then_eq_eq] using same
    cases first
    cases second
    simp_all

end Key

/-- The keys that have been found, in the order of their numbers, and the number of each. -/
structure KeyTable where
  keys : Array Key
  numbers : Std.TreeMap Key Nat Key.order

namespace KeyTable

/-- No keys. -/
def empty :
    KeyTable :=
  ⟨#[], ∅⟩

/-- The number of a key; a key that is new gets the next number. -/
def intern
    (key : Key) :
    StateM KeyTable Nat :=
  fun table =>
    match table.numbers[key]? with
    | some number =>
        (number, table)
    | none =>
        let ⟨keys, numbers⟩ := table
        let number := keys.size
        (number, ⟨keys.push key, numbers.insert key number⟩)

end KeyTable

end LexicalAutomata
