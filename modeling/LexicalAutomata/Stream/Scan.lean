import LexicalAutomata.Automaton.Scan
import LexicalAutomata.Stream.Remaining

namespace LexicalAutomata

/-!
# Scanning a stream

The scan of a stream looks ahead of the cursor and reads nothing.  Boundaries are
judged by the characters around the place that the scan has reached, and positions
are counted in characters.
-/

namespace Reader

/-- The characters from `start` places behind the cursor on, at most `count` of them. -/
def peekMany
    (reader : Reader)
    (start : Nat) :
    (count : Nat) →
    Except StreamFault (List Char) × Reader
  | 0 =>
      (.ok [], reader)
  | count + 1 =>
      match reader.peek start with
      | (.error fault, next) =>
          (.error fault, next)
      | (.ok char?, next) =>
          match next.peekMany (start + 1) count with
          | (.error fault, last) =>
              (.error fault, last)
          | (.ok chars, last) =>
              (.ok (char?.toList ++ chars), last)

theorem peekMany_remaining_le
    (reader : Reader)
    (start count : Nat) :
    (reader.peekMany start count).2.remaining ≤ reader.remaining := by
  induction count generalizing reader start with
  | zero =>
      exact Nat.le_refl _
  | succ count inductionHypothesis =>
      have le := peek_remaining_le reader start
      unfold peekMany
      split
      · rename_i fault next peeked
        rwa [peeked] at le
      · rename_i char? next peeked
        rw [peeked] at le
        have later := inductionHypothesis next (start + 1)
        split <;> rename_i result last followed <;> rw [followed] at later <;>
          exact Nat.le_trans later le

theorem peekMany_keeps
    (reader : Reader)
    (start count : Nat) :
    (reader.peekMany start count).2.cursor = reader.cursor ∧
      reader.buffer.size ≤ (reader.peekMany start count).2.buffer.size := by
  induction count generalizing reader start with
  | zero =>
      exact ⟨rfl, Nat.le_refl _⟩
  | succ count inductionHypothesis =>
      have kept := peek_keeps reader start
      unfold peekMany
      split
      · rename_i fault next peeked
        rwa [peeked] at kept
      · rename_i char? next peeked
        rw [peeked] at kept
        have later := inductionHypothesis next (start + 1)
        split <;> rename_i result last followed <;> rw [followed] at later <;>
          exact ⟨later.1.trans kept.1, Nat.le_trans kept.2 later.2⟩

/--
What surrounds the place `count` characters behind the cursor, when `ahead` follows
and the search started at the position `searchStart`.
-/
def surroundings
    (reader : Reader)
    (searchStart count : Nat)
    (ahead : List Char) :
    Surroundings where
  before :=
    reader.before count
  ahead :=
    ahead
  atInputStart :=
    reader.position + count == 0
  atSearchStart :=
    reader.position + count == searchStart

end Reader

namespace Automaton

variable {τ : Type}

/-- The state that counts `count` characters behind the cursor. -/
def settleIn
    (automaton : Automaton τ)
    (searchStart id count : Nat)
    (reader : Reader) :
    Except StreamFault Nat × Reader :=
  if (automaton.boundaries id).isEmpty then
    (.ok id, reader)
  else
    match reader.peekMany count 3 with
    | (.error fault, next) =>
        (.error fault, next)
    | (.ok ahead, next) =>
        (.ok (automaton.resolve id (next.surroundings searchStart count ahead).holding), next)

theorem settleIn_remaining_le
    (automaton : Automaton τ)
    (searchStart id count : Nat)
    (reader : Reader) :
    (automaton.settleIn searchStart id count reader).2.remaining ≤ reader.remaining := by
  have le := reader.peekMany_remaining_le count 3
  unfold settleIn
  split
  · exact Nat.le_refl _
  · split <;> rename_i result next peeked <;> rwa [peeked] at le

theorem settleIn_keeps
    (automaton : Automaton τ)
    (searchStart id count : Nat)
    (reader : Reader) :
    (automaton.settleIn searchStart id count reader).2.cursor = reader.cursor ∧
      reader.buffer.size ≤ (automaton.settleIn searchStart id count reader).2.buffer.size := by
  have kept := reader.peekMany_keeps count 3
  unfold settleIn
  split
  · exact ⟨rfl, Nat.le_refl _⟩
  · split <;> rename_i result next peeked <;> rwa [peeked] at kept

/--
Look at the character `count` places behind the cursor, and at what surrounds it if the
state asks for that: the answer is the state that counts there, and the character.
-/
def lookIn
    (automaton : Automaton τ)
    (searchStart id count : Nat)
    (reader : Reader) :
    Except StreamFault (Nat × Option Char) × Reader :=
  match automaton.settleIn searchStart id count reader with
  | (.error fault, next) =>
      (.error fault, next)
  | (.ok settled, next) =>
      match next.peek count with
      | (.error fault, last) =>
          (.error fault, last)
      | (.ok char?, last) =>
          (.ok (settled, char?), last)

theorem lookIn_remaining_le
    (automaton : Automaton τ)
    (searchStart id count : Nat)
    (reader : Reader) :
    (automaton.lookIn searchStart id count reader).2.remaining ≤ reader.remaining := by
  have le := automaton.settleIn_remaining_le searchStart id count reader
  unfold lookIn
  split
  · rename_i fault next settled
    rwa [settled] at le
  · rename_i state next settled
    rw [settled] at le
    have later := next.peek_remaining_le count
    split <;> rename_i result last peeked <;> rw [peeked] at later <;>
      exact Nat.le_trans later le

theorem lookIn_keeps
    (automaton : Automaton τ)
    (searchStart id count : Nat)
    (reader : Reader) :
    (automaton.lookIn searchStart id count reader).2.cursor = reader.cursor ∧
      reader.buffer.size ≤ (automaton.lookIn searchStart id count reader).2.buffer.size := by
  have kept := automaton.settleIn_keeps searchStart id count reader
  unfold lookIn
  split
  · rename_i fault next settled
    rwa [settled] at kept
  · rename_i state next settled
    rw [settled] at kept
    have later := next.peek_keeps count
    split <;> rename_i result last peeked <;> rw [peeked] at later <;>
      exact ⟨later.1.trans kept.1, Nat.le_trans kept.2 later.2⟩

/-- A character that has been looked at is in the buffer. -/
theorem lt_size_of_lookIn
    {automaton : Automaton τ}
    {searchStart id count settled : Nat}
    {reader next : Reader}
    {char : Char}
    (looked : automaton.lookIn searchStart id count reader = (.ok (settled, some char), next)) :
    next.cursor + count < next.buffer.size := by
  unfold lookIn at looked
  split at looked
  · cases looked
  · split at looked
    · cases looked
    · rename_i peeked
      cases looked
      exact Reader.lt_size_of_peek peeked

/--
Scan on from the place `count` characters behind the cursor, when `found` is what the
scan has found so far.
-/
def scanIn
    (automaton : Automaton τ)
    (searchStart id count : Nat)
    (found : Option Found)
    (reader : Reader) :
    Except StreamFault (Option Found) × Reader :=
  match _ : automaton.lookIn searchStart id count reader with
  | (.error fault, next) =>
      (.error fault, next)
  | (.ok (settled, none), next) =>
      (.ok (automaton.foundAt settled count found), next)
  | (.ok (settled, some char), next) =>
      match automaton.next? settled char with
      | none =>
          (.ok (automaton.foundAt settled count found), next)
      | some state =>
          automaton.scanIn searchStart state (count + 1)
            (automaton.foundAt settled count found) next
  termination_by reader.remaining - count
  decreasing_by
    have inside := lt_size_of_lookIn ‹_›
    have le := automaton.lookIn_remaining_le searchStart id count reader
    rw [‹automaton.lookIn searchStart id count reader = _›] at le
    dsimp only at le
    simp only [Reader.remaining] at le ⊢
    omega

/-- The longest accepted run at the cursor, when the search started at a given position. -/
def longestIn
    (automaton : Automaton τ)
    (reader : Reader)
    (searchStart : Nat) :
    Except StreamFault (Option Found) × Reader :=
  automaton.scanIn searchStart automaton.start 0 none reader

theorem scanIn_remaining_le
    (automaton : Automaton τ)
    (searchStart id count : Nat)
    (found : Option Found)
    (reader : Reader) :
    (automaton.scanIn searchStart id count found reader).2.remaining ≤ reader.remaining := by
  fun_induction scanIn automaton searchStart id count found reader with
  | case1 id count _ reader _ next looked =>
      have le := automaton.lookIn_remaining_le searchStart id count reader
      rwa [looked] at le
  | case2 id count _ reader _ next looked =>
      have le := automaton.lookIn_remaining_le searchStart id count reader
      rwa [looked] at le
  | case3 id count _ reader _ _ next looked =>
      have le := automaton.lookIn_remaining_le searchStart id count reader
      rwa [looked] at le
  | case4 id count _ reader _ _ next looked _ _ inductionHypothesis =>
      have le := automaton.lookIn_remaining_le searchStart id count reader
      rw [looked] at le
      exact Nat.le_trans inductionHypothesis le

/-- What is found at a place is not longer than the way to that place. -/
theorem length_foundAt_le
    {automaton : Automaton τ}
    {id count bound : Nat}
    {found : Option Found}
    {best : Found}
    (known : ∀ earlier ∈ found, earlier.length ≤ bound)
    (le : count ≤ bound)
    (result : automaton.foundAt id count found = some best) :
    best.length ≤ bound := by
  unfold foundAt at result
  split at result
  · exact known best result
  · cases result
    dsimp only
    omega

/-- What is found at a place that the scan has looked at is in the buffer. -/
theorem foundAt_inside
    {automaton : Automaton τ}
    {id count : Nat}
    {found : Option Found}
    {best : Found}
    {reader next : Reader}
    (inside : reader.cursor + count ≤ reader.buffer.size)
    (known : ∀ earlier ∈ found, reader.cursor + earlier.length ≤ reader.buffer.size)
    (kept : next.cursor = reader.cursor ∧ reader.buffer.size ≤ next.buffer.size)
    (result : automaton.foundAt id count found = some best) :
    next.cursor + best.length ≤ next.buffer.size := by
  have shorter : ∀ earlier ∈ found, earlier.length ≤ reader.buffer.size - reader.cursor := by
    intro earlier member
    have := known earlier member
    omega
  have := length_foundAt_le shorter (by omega) result
  have := reader.cursor_le
  omega

/-- The characters of a run that was found are in the buffer. -/
theorem length_scanIn_le
    {automaton : Automaton τ}
    {searchStart id count : Nat}
    {found : Option Found}
    {reader next : Reader}
    {best : Found}
    (inside : reader.cursor + count ≤ reader.buffer.size)
    (known : ∀ earlier ∈ found, reader.cursor + earlier.length ≤ reader.buffer.size)
    (scanned : automaton.scanIn searchStart id count found reader = (.ok (some best), next)) :
    next.cursor + best.length ≤ next.buffer.size := by
  fun_induction scanIn automaton searchStart id count found reader with
  | case1 =>
      cases scanned
  | case2 id count _ reader _ after looked =>
      have kept := automaton.lookIn_keeps searchStart id count reader
      rw [looked] at kept
      simp only [Prod.mk.injEq, Except.ok.injEq] at scanned
      obtain ⟨result, rfl⟩ := scanned
      exact foundAt_inside inside known kept result
  | case3 id count _ reader _ _ after looked =>
      have kept := automaton.lookIn_keeps searchStart id count reader
      rw [looked] at kept
      simp only [Prod.mk.injEq, Except.ok.injEq] at scanned
      obtain ⟨result, rfl⟩ := scanned
      exact foundAt_inside inside known kept result
  | case4 id count _ reader _ _ after looked _ _ inductionHypothesis =>
      have kept := automaton.lookIn_keeps searchStart id count reader
      rw [looked] at kept
      have within := lt_size_of_lookIn looked
      exact inductionHypothesis (by omega)
        (fun _ member => foundAt_inside inside known kept member) scanned

/-- A run that was found at the cursor and is not empty begins with a character in the buffer. -/
theorem lt_size_of_longestIn
    {automaton : Automaton τ}
    {searchStart : Nat}
    {reader next : Reader}
    {best : Found}
    (positive : 0 < best.length)
    (scanned : automaton.longestIn reader searchStart = (.ok (some best), next)) :
    next.cursor < next.buffer.size := by
  have := length_scanIn_le (by simpa using reader.cursor_le) (by simp) scanned
  omega

end Automaton

end LexicalAutomata
