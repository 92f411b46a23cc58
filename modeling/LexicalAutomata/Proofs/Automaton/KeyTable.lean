import LexicalAutomata.Automaton.KeyTable

namespace LexicalAutomata.KeyTable

/-!
# Keys and their numbers agree

The array of a key table and its map from keys to numbers say the same, so a key has
one number.  Numbers that have been given away stay as they are while keys are added.
-/

/-- The map says of a key that it has a number exactly when the array has it there. -/
def Consistent
    (table : KeyTable) :
    Prop :=
  ∀ (key : Key) (number : Nat),
    table.numbers[key]? = some number ↔ table.keys[number]? = some key

/-- Every number of one array of keys stands for the same key in another one. -/
def Keeps
    (keys later : Array Key) :
    Prop :=
  ∀ (number : Nat) (key : Key),
    keys[number]? = some key → later[number]? = some key

/-- Keys keep their numbers when nothing happens. -/
theorem Keeps.refl
    (keys : Array Key) :
    Keeps keys keys :=
  fun _ _ present => present

/-- Keys that keep their numbers twice keep them. -/
theorem Keeps.trans
    {keys later last : Array Key}
    (first : Keeps keys later)
    (second : Keeps later last) :
    Keeps keys last :=
  fun number key present => second number key (first number key present)

/-- No keys are lost. -/
theorem Keeps.size_le
    {keys later : Array Key}
    (kept : Keeps keys later) :
    keys.size ≤ later.size := by
  refine Nat.le_of_not_lt fun fewer => ?_
  have last := kept _ _ (Array.getElem?_eq_getElem fewer)
  rw [Array.getElem?_eq_none (Nat.le_refl _)] at last
  contradiction

/-- What has been added to a table is as expected, and nothing else has changed. -/
structure Grows
    (expected : Key → Prop)
    (table next : KeyTable) : Prop where
  consistent : next.Consistent
  keeps : Keeps table.keys next.keys
  adds :
    ∀ key ∈ next.keys, key ∈ table.keys ∨ expected key

section Grows

variable {expected : Key → Prop} {table next last : KeyTable}

/-- A consistent table may stay as it is. -/
theorem Consistent.grows
    (consistent : table.Consistent) :
    Grows expected table table where
  consistent :=
    consistent
  keeps :=
    Keeps.refl _
  adds _ member :=
    Or.inl member

/-- A table that grows twice grows. -/
theorem Grows.trans
    (first : Grows expected table next)
    (second : Grows expected next last) :
    Grows expected table last where
  consistent :=
    second.consistent
  keeps :=
    first.keeps.trans second.keeps
  adds key member := by
    rcases second.adds key member with earlier | new
    · exact first.adds key earlier
    · exact Or.inr new

end Grows

/-- A table without keys is consistent. -/
theorem consistent_empty :
    empty.Consistent := by
  intro key number
  simp [empty]

/-- A key has only one number. -/
theorem Consistent.number_unique
    {table : KeyTable}
    (consistent : table.Consistent)
    {first second : Nat}
    {key : Key}
    (firstNumber : table.keys[first]? = some key)
    (secondNumber : table.keys[second]? = some key) :
    first = second := by
  rw [← consistent key first] at firstNumber
  rw [← consistent key second, firstNumber] at secondNumber
  exact Option.some.inj secondNumber

/-- No key has two numbers. -/
theorem Consistent.nodup
    {table : KeyTable}
    (consistent : table.Consistent) :
    table.keys.toList.Nodup := by
  rw [List.nodup_iff_pairwise_ne, List.pairwise_iff_getElem]
  intro first second firstBelow secondBelow less same
  have firstNumber : table.keys[first]? = some table.keys.toList[first] := by
    rw [← Array.getElem?_toList]
    exact List.getElem?_eq_getElem firstBelow
  have secondNumber : table.keys[second]? = some table.keys.toList[first] := by
    rw [← Array.getElem?_toList, same]
    exact List.getElem?_eq_getElem secondBelow
  have := consistent.number_unique firstNumber secondNumber
  omega

/-- A new key gets the next number, and all others keep theirs. -/
theorem Consistent.push
    {table : KeyTable}
    (consistent : table.Consistent)
    {key : Key}
    (new : table.numbers[key]? = none) :
    KeyTable.Consistent
      ⟨table.keys.push key, table.numbers.insert key table.keys.size⟩ := by
  intro other number
  simp only [Std.TreeMap.getElem?_insert, Array.getElem?_push]
  by_cases same : Key.order key other = .eq
  · rw [if_pos same]
    have equal := Std.LawfulEqCmp.eq_of_compare same
    subst equal
    constructor
    · intro found
      cases found
      simp
    · intro found
      split at found
      · rename_i last
        rw [last]
      · rw [← consistent key number, new] at found
        contradiction
  · rw [if_neg same, consistent other number]
    constructor
    · intro found
      have below := (Array.getElem?_eq_some_iff.mp found).1
      rw [if_neg (by omega)]
      exact found
    · intro found
      split at found
      · cases found
        exact (same Std.ReflCmp.compare_self).elim
      · exact found

/-- The number that a key is given stands for it, and the table only grows by that key. -/
theorem Consistent.intern
    {table : KeyTable}
    (consistent : table.Consistent)
    (expected : Key → Prop)
    (key : Key)
    (asExpected : expected key) :
    Grows expected table (KeyTable.intern key table).2 ∧
      (KeyTable.intern key table).2.keys[(KeyTable.intern key table).1]? = some key := by
  unfold KeyTable.intern
  split
  · rename_i number found
    exact ⟨consistent.grows, (consistent key number).mp found⟩
  · rename_i new
    refine ⟨⟨consistent.push new, ?_, ?_⟩, by simp⟩
    · intro number other present
      have below := (Array.getElem?_eq_some_iff.mp present).1
      simp only [Array.getElem?_push]
      rw [if_neg (by omega)]
      exact present
    · intro other member
      rcases Array.mem_push.mp member with old | rfl
      · exact Or.inl old
      · exact Or.inr asExpected

end LexicalAutomata.KeyTable
