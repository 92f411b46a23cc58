import LexicalAutomata.Stream.Reader

namespace LexicalAutomata

/-!
# What is still to be read

A reader has only so many characters and bytes left.  Looking ahead does not add
to them, and reading a character takes one away, so loops over a reader end.
-/

/-- The number of bytes that a call delivers. -/
def Delivery.size : Delivery → Nat
  | .chunk bytes =>
      bytes.length
  | .interrupted =>
      0
  | .failure _ =>
      0

/-- The number of bytes that a source delivers. -/
def Source.size
    (source : Source) :
    Nat :=
  source.foldr (fun delivery size => delivery.size + size) 0

@[simp] theorem Source.size_nil :
    Source.size [] = 0 :=
  rfl

@[simp] theorem Source.size_cons
    (delivery : Delivery)
    (rest : Source) :
    Source.size (delivery :: rest) = delivery.size + Source.size rest :=
  rfl

namespace Reader

/-- At most this many characters can still be read. -/
def remaining
    (reader : Reader) :
    Nat :=
  (reader.buffer.size - reader.cursor) + reader.pending.length + Source.size reader.source

theorem pullFrom_remaining_le
    (reader : Reader)
    (source : Source) :
    (reader.pullFrom source).2.remaining ≤
      (reader.buffer.size - reader.cursor) + reader.pending.length + Source.size source := by
  fun_induction pullFrom reader source with
  | case1 reader =>
      simp [finish, remaining]
  | case2 _ _ inductionHypothesis =>
      simpa [Delivery.size] using inductionHypothesis
  | case3 =>
      simp [remaining, Delivery.size]
  | case4 reader =>
      simp [finish, remaining]
  | case5 reader bytes rest _ pending =>
      simp only [remaining, Delivery.size, Source.size_cons, pending, List.length_append]
      omega
  | case6 reader bytes rest _ pending _ _ _ inductionHypothesis =>
      simp only [Delivery.size, Source.size_cons, pending, List.length_append]
        at inductionHypothesis ⊢
      omega
  | case7 reader bytes rest _ pending decoded =>
      have decodedLength := Utf8.length_decode_le (reader.pending ++ bytes)
      have := reader.cursor_le
      simp only [remaining, extend, Delivery.size, Source.size_cons, pending, decoded,
        Array.append_eq_append, Array.size_append, List.size_toArray, List.length_append]
        at decodedLength ⊢
      omega

theorem pull_remaining_le
    (reader : Reader) :
    reader.pull.2.remaining ≤ reader.remaining := by
  unfold pull
  split
  · exact Nat.le_refl _
  · exact pullFrom_remaining_le reader reader.source

/-- Getting more characters into the buffer leaves those alone that are there. -/
theorem pullFrom_keeps
    (reader : Reader)
    (source : Source) :
    (reader.pullFrom source).2.cursor = reader.cursor ∧
      reader.buffer.size ≤ (reader.pullFrom source).2.buffer.size := by
  fun_induction pullFrom reader source with
  | case6 _ _ _ _ _ _ _ _ inductionHypothesis =>
      exact inductionHypothesis
  | case2 _ _ inductionHypothesis =>
      exact inductionHypothesis
  | _ =>
      simp [finish, extend]

theorem pull_keeps
    (reader : Reader) :
    reader.pull.2.cursor = reader.cursor ∧
      reader.buffer.size ≤ reader.pull.2.buffer.size := by
  unfold pull
  split
  · exact ⟨rfl, Nat.le_refl _⟩
  · exact pullFrom_keeps reader reader.source

theorem peek_remaining_le
    (reader : Reader)
    (count : Nat) :
    (reader.peek count).2.remaining ≤ reader.remaining := by
  fun_induction peek reader count with
  | case1 =>
      exact Nat.le_refl _
  | case2 reader _ fault next pulled =>
      have := pull_remaining_le reader
      rwa [pulled] at this
  | case3 reader _ next pulled =>
      have := pull_remaining_le reader
      rwa [pulled] at this
  | case4 reader _ next pulled inductionHypothesis =>
      have := pull_remaining_le reader
      rw [pulled] at this
      exact Nat.le_trans inductionHypothesis this

/-- Looking ahead leaves the characters alone that are in the buffer. -/
theorem peek_keeps
    (reader : Reader)
    (count : Nat) :
    (reader.peek count).2.cursor = reader.cursor ∧
      reader.buffer.size ≤ (reader.peek count).2.buffer.size := by
  fun_induction peek reader count with
  | case1 =>
      exact ⟨rfl, Nat.le_refl _⟩
  | case2 reader _ fault next pulled =>
      have := pull_keeps reader
      rwa [pulled] at this
  | case3 reader _ next pulled =>
      have := pull_keeps reader
      rwa [pulled] at this
  | case4 reader _ next pulled inductionHypothesis =>
      have := pull_keeps reader
      rw [pulled] at this
      dsimp only at this
      exact ⟨inductionHypothesis.1.trans this.1, Nat.le_trans this.2 inductionHypothesis.2⟩

/-- A character that has been seen is in the buffer. -/
theorem lt_size_of_peek
    {reader next : Reader}
    {count : Nat}
    {char : Char}
    (peeked : reader.peek count = (.ok (some char), next)) :
    next.cursor + count < next.buffer.size := by
  fun_induction peek reader count with
  | case1 reader char present =>
      cases peeked
      exact (Array.getElem?_eq_some_iff.mp present).1
  | case2 =>
      cases peeked
  | case3 =>
      cases peeked
  | case4 _ _ _ _ inductionHypothesis =>
      exact inductionHypothesis peeked

theorem step_remaining
    {reader : Reader}
    (inside : reader.cursor < reader.buffer.size) :
    reader.step.remaining + 1 = reader.remaining := by
  simp only [step, inside, ↓reduceDIte, remaining]
  omega

/-- Reading a character takes one away. -/
theorem read_shorter
    {reader next : Reader}
    {char : Char}
    (read : reader.read = (.ok (some char), next)) :
    next.remaining < reader.remaining := by
  unfold Reader.read at read
  split at read
  · rename_i peeked
    have inside := lt_size_of_peek peeked
    have le := peek_remaining_le reader 0
    rw [peeked] at le
    have := step_remaining inside
    cases read
    dsimp only at le
    omega
  · rename_i other different
    exact (different char next read).elim

theorem read_remaining_le
    (reader : Reader) :
    reader.read.2.remaining ≤ reader.remaining := by
  unfold Reader.read
  split
  · rename_i char next peeked
    have inside := lt_size_of_peek peeked
    have le := peek_remaining_le reader 0
    rw [peeked] at le
    have := step_remaining inside
    dsimp only at le ⊢
    omega
  · exact peek_remaining_le reader 0

theorem takeOnto_remaining_le
    (reader : Reader)
    (taken : Array Char)
    (count : Nat) :
    (reader.takeOnto taken count).2.remaining ≤ reader.remaining := by
  induction count generalizing reader taken with
  | zero =>
      exact Nat.le_refl _
  | succ count inductionHypothesis =>
      have le := read_remaining_le reader
      unfold takeOnto
      split
      · rename_i fault next read
        rwa [read] at le
      · rename_i next read
        rwa [read] at le
      · rename_i char next read
        rw [read] at le
        exact Nat.le_trans (inductionHypothesis next (taken.push char)) le

/-- What is in the buffer is read from there. -/
theorem read_of_buffered
    {reader : Reader}
    (inside : reader.cursor < reader.buffer.size) :
    reader.read = (.ok (some reader.buffer[reader.cursor]), reader.step) := by
  have present : reader.buffered? 0 = some reader.buffer[reader.cursor] :=
    Array.getElem?_eq_getElem inside
  have peeked : reader.peek 0 = (.ok (some reader.buffer[reader.cursor]), reader) := by
    unfold peek
    split <;> rename_i found <;> rw [present] at found <;> cases found
    rfl
  rw [Reader.read, peeked]

/-- Taking characters that are there takes them away. -/
theorem takeUpTo_shorter
    {reader : Reader}
    {count : Nat}
    (positive : 0 < count)
    (inside : reader.cursor < reader.buffer.size) :
    (reader.takeUpTo count).2.remaining < reader.remaining := by
  obtain ⟨less, rfl⟩ : ∃ less, count = less + 1 := ⟨count - 1, by omega⟩
  have := step_remaining inside
  have := takeOnto_remaining_le reader.step #[reader.buffer[reader.cursor]] less
  simp only [takeUpTo, takeOnto, read_of_buffered inside]
  simp only [List.push_toArray, List.nil_append] at *
  omega

theorem clear_remaining
    (reader : Reader) :
    reader.clear.remaining = reader.remaining := by
  have := reader.cursor_le
  unfold clear
  split
  · rfl
  · simp [remaining]

end Reader

end LexicalAutomata
