import Std.Data.TreeSet

namespace LexicalAutomata

/-!
# Ascending lists

The members of a list of numbers, each of them once and in ascending order.  Two
lists with the same members have the same ascending list, so a set of numbers is
represented by it.
-/

/-- The members of a list in ascending order, each of them once. -/
def ascending
    (numbers : List Nat) :
    List Nat :=
  (Std.TreeSet.ofList numbers).toList

/-- A number is in the ascending list when it is in the list itself. -/
@[simp] theorem mem_ascending
    {numbers : List Nat}
    {number : Nat} :
    number ∈ ascending numbers ↔ number ∈ numbers := by
  simp [ascending, Std.TreeSet.mem_toList, Std.TreeSet.mem_ofList]

/-- Each number is less than the ones behind it. -/
theorem pairwise_ascending
    (numbers : List Nat) :
    (ascending numbers).Pairwise (· < ·) :=
  Std.TreeSet.ordered_toList.imp fun less => Nat.compare_eq_lt.mp less

section PartitionPoint

variable {α : Type} {property : α → Bool}

/--
The number of elements in front of the first one that lacks a property.  In a
sorted list whose elements have it up to some place, this is that place.
-/
def partitionPoint
    (property : α → Bool)
    (list : List α) :
    Nat :=
  list.findIdx fun element => !property element

/-- A partition point is a place of the list, or the one behind it. -/
theorem partitionPoint_le_length
    (property : α → Bool)
    (list : List α) :
    partitionPoint property list ≤ list.length :=
  List.findIdx_le_length

/-- An element with the property moves the partition point by one place. -/
theorem partitionPoint_cons_of_pos
    {element : α}
    (rest : List α)
    (holds : property element = true) :
    partitionPoint property (element :: rest) = partitionPoint property rest + 1 := by
  simp [partitionPoint, List.findIdx_cons, holds]

/-- An element without the property ends the search at once. -/
theorem partitionPoint_cons_of_neg
    {element : α}
    (rest : List α)
    (fails : property element = false) :
    partitionPoint property (element :: rest) = 0 := by
  simp [partitionPoint, List.findIdx_cons, fails]

/-- Properties that agree on a list have one partition point. -/
theorem partitionPoint_congr
    {other : α → Bool}
    {list : List α}
    (agree : ∀ element ∈ list, property element = other element) :
    partitionPoint property list = partitionPoint other list := by
  induction list with
  | nil =>
      rfl
  | cons element rest inductionHypothesis =>
      obtain ⟨same, agreeBehind⟩ := List.forall_mem_cons.mp agree
      have behind := inductionHypothesis agreeBehind
      cases holds : other element with
      | true =>
          rw [partitionPoint_cons_of_pos rest (same.trans holds),
            partitionPoint_cons_of_pos rest holds, behind]
      | false =>
          rw [partitionPoint_cons_of_neg rest (same.trans holds),
            partitionPoint_cons_of_neg rest holds]

end PartitionPoint

end LexicalAutomata
