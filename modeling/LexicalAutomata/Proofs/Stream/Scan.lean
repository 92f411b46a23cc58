import LexicalAutomata.Proofs.Stream.Place

namespace LexicalAutomata

/-!
# The scan of a stream is the scan of its text

Both scans settle in the same states and read the same characters, because the reader
shows at every place what surrounds it in the text.  The place in front of which a scan
has come is in the buffer, so the scan of the stream knows the character there.  A scan
reads nothing, and when it fails the reader is still at its place.
-/

namespace Reader

variable {reader : Reader} {text rest : List Char} {place : Place} {reasons : List String}
  {searchStart searchOffset count : Nat}

/-- What is in the buffer is not more than what is to be read. -/
theorem Expects.le_length
    (expects : reader.Expects rest reasons)
    (inside : reader.cursor + count ≤ reader.buffer.size) :
    count ≤ rest.length := by
  obtain ⟨undelivered, rfl, _⟩ := expects
  rw [List.length_append, buffered, List.length_drop, Array.length_toList]
  omega

/-- The reader knows the character in front of a place up to which it has characters. -/
theorem StandsAt.before_eq
    (stands : reader.StandsAt text place reasons)
    (inside : reader.cursor + count ≤ reader.buffer.size) :
    reader.before count = (place.advance count).before := by
  have le := stands.expects.le_length inside
  cases count with
  | zero =>
      rw [Place.advance_zero]
      exact stands.previous
  | succ count =>
      have behind : reader.cursor + (count + 1) ≠ 0 :=
        Nat.succ_ne_zero _
      rw [Place.before_advance_succ place le, stands.expects.getElem?_eq count inside, before,
        if_neg behind]
      rfl

/-- What surrounds a place is seen in the stream as in the text. -/
theorem StandsAt.surroundings_eq
    (stands : reader.StandsAt text place reasons)
    (marks : Place.Marks text searchOffset searchStart)
    (inside : reader.cursor + count ≤ reader.buffer.size) :
    reader.surroundings searchStart count ((place.rest.drop count).take 3) =
      (place.advance count).surroundings searchOffset := by
  have here := stands.follows.advance count (stands.expects.le_length inside)
  have atStart := here.offset_eq_iff (Place.follows_start text)
  have atOrigin := marks _ _ here
  rw [surroundings, Place.surroundings, stands.before_eq inside, Place.rest_advance]
  congr 1
  · rw [Bool.eq_iff_iff, beq_iff_eq, beq_iff_eq]
    exact atStart.symm
  · rw [Bool.eq_iff_iff, beq_iff_eq, beq_iff_eq]
    exact atOrigin.symm

end Reader

namespace Automaton

variable {τ : Type} (automaton : Automaton τ) {reader : Reader} {text : List Char}
  {place origin : Place} {reasons : List String} {searchStart searchOffset : Nat}

/-- The state that counts at a place of the stream is the one that counts in the text. -/
theorem looks_settleIn
    (stands : reader.StandsAt text place reasons)
    (marks : Place.Marks text searchOffset searchStart)
    (id : Nat)
    {count : Nat}
    (inside : reader.cursor + count ≤ reader.buffer.size) :
    reader.Looks place.rest reasons
      (automaton.settle id ((place.advance count).surroundings searchOffset))
      (automaton.settleIn searchStart id count reader) := by
  unfold settleIn settle
  split
  · exact stands.expects.looks id
  · refine (stands.expects.peekMany count 3).andThen ?_ ?_
    · intro fault next failed
      simp only [failed]
    · intro next peeked grows expects
      have nextStands := stands.grows grows expects
      have nextInside : next.cursor + count ≤ next.buffer.size := by
        rw [grows.cursor]
        exact Nat.le_trans inside grows.size_le
      simp only [peeked, nextStands.surroundings_eq marks nextInside]
      exact expects.looks _

/-- A look at a place of the stream settles as in the text, and sees the next character. -/
theorem looks_lookIn
    (stands : reader.StandsAt text place reasons)
    (marks : Place.Marks text searchOffset searchStart)
    (id : Nat)
    {count : Nat}
    (inside : reader.cursor + count ≤ reader.buffer.size) :
    reader.Looks place.rest reasons
      (automaton.settle id ((place.advance count).surroundings searchOffset),
        (place.advance count).rest.head?)
      (automaton.lookIn searchStart id count reader) := by
  rw [Place.rest_advance, List.head?_drop]
  refine (automaton.looks_settleIn stands marks id inside).andThen ?_ ?_
  · intro fault next failed
    simp only [lookIn, failed]
  · intro next settled _ expects
    simp only [lookIn, settled]
    refine (expects.peek count).andThen ?_ ?_
    · intro fault last failed
      simp only [failed]
    · intro last peeked _ lastExpects
      simp only [peeked]
      exact lastExpects.looks _

theorem scanIn_of_lookIn_fails
    {automaton : Automaton τ}
    {id count : Nat}
    {found : Option Found}
    {fault : StreamFault}
    {next : Reader}
    (looked : automaton.lookIn searchStart id count reader = (.error fault, next)) :
    automaton.scanIn searchStart id count found reader = (.error fault, next) := by
  rw [scanIn]
  split <;> rename_i result <;> rw [looked] at result <;> cases result
  rfl

theorem scanIn_of_lookIn_end
    {automaton : Automaton τ}
    {id count settled : Nat}
    {found : Option Found}
    {next : Reader}
    (looked : automaton.lookIn searchStart id count reader = (.ok (settled, none), next)) :
    automaton.scanIn searchStart id count found reader =
      (.ok (automaton.foundAt settled count found), next) := by
  rw [scanIn]
  split <;> rename_i result <;> rw [looked] at result <;> cases result
  rfl

/-- Where there is a character, a scan goes on as far as there is a transition. -/
theorem scanIn_of_lookIn
    {automaton : Automaton τ}
    {id count settled : Nat}
    {found : Option Found}
    {next : Reader}
    {char : Char}
    (looked : automaton.lookIn searchStart id count reader = (.ok (settled, some char), next)) :
    automaton.scanIn searchStart id count found reader =
      match automaton.next? settled char with
      | none =>
          (.ok (automaton.foundAt settled count found), next)
      | some state =>
          automaton.scanIn searchStart state (count + 1)
            (automaton.foundAt settled count found) next := by
  rw [scanIn]
  split <;> rename_i result <;> rw [looked] at result <;> cases result
  rfl

/-- From a place of the stream on, a scan finds what it finds in the text. -/
theorem looks_scanIn
    (stands : reader.StandsAt text place reasons)
    (marks : Place.Marks text searchOffset searchStart)
    (id : Nat)
    {count : Nat}
    (found : Option Found)
    (inside : reader.cursor + count ≤ reader.buffer.size)
    {before : Option Char}
    {offset : Nat}
    {rest : List Char}
    (here : place.advance count = ⟨before, offset, rest⟩) :
    reader.Looks place.rest reasons
      (automaton.scanFrom searchOffset id count found before offset rest)
      (automaton.scanIn searchStart id count found reader) := by
  induction rest generalizing reader id count found before offset with
  | nil =>
      have looks := automaton.looks_lookIn stands marks id inside
      rw [here] at looks
      refine looks.andThen (fun fault next failed => scanIn_of_lookIn_fails failed) ?_
      intro next looked _ expects
      rw [scanIn_of_lookIn_end looked, scanFrom]
      exact expects.looks _
  | cons char rest inductionHypothesis =>
      have looks := automaton.looks_lookIn stands marks id inside
      rw [here] at looks
      refine looks.andThen (fun fault next failed => scanIn_of_lookIn_fails failed) ?_
      intro next looked grows expects
      rw [scanFrom]
      generalize
        automaton.settle id
          ((Place.mk before offset (char :: rest)).surroundings searchOffset) = settled
        at looked ⊢
      rw [scanIn_of_lookIn looked]
      cases automaton.next? settled char with
      | none =>
          exact expects.looks _
      | some state =>
          have further :
              place.advance (count + 1) = ⟨some char, offset + char.utf8Size, rest⟩ := by
            rw [← Place.advance_advance, here]
            rfl
          exact inductionHypothesis (stands.grows grows expects) state
            (automaton.foundAt settled count found) (lt_size_of_lookIn looked) further

/-- At a place of the stream, a scan finds what it finds in the text, or it fails. -/
theorem looks_longestIn
    (stands : reader.StandsAt text place reasons)
    (marks : Place.Marks text searchOffset searchStart) :
    reader.Looks place.rest reasons (automaton.longestAt place searchOffset)
      (automaton.longestIn reader searchStart) :=
  automaton.looks_scanIn stands marks automaton.start none
    (Nat.add_zero _ ▸ reader.cursor_le) place.advance_zero

/-- At a place of a stream that does not fail, a scan finds what it finds in the text. -/
theorem longestIn_of_marks
    (isAt : reader.IsAt text place)
    (marks : Place.Marks text searchOffset searchStart) :
    ∃ next,
      automaton.longestIn reader searchStart =
          (.ok (automaton.longestAt place searchOffset), next) ∧
        reader.Grows next ∧ next.IsAt text place := by
  obtain ⟨next, scanned, grows, unread⟩ :=
    (automaton.looks_longestIn isAt.standsAt marks).answered
  exact ⟨next, scanned, grows, isAt.grows grows unread⟩

/-- The search may have started at another place of the text. -/
theorem longestIn_of_isAt
    (isAt : reader.IsAt text place)
    (follows : origin.Follows text searchStart) :
    ∃ next,
      automaton.longestIn reader searchStart =
          (.ok (automaton.longestAt place origin.offset), next) ∧
        next.IsAt text place := by
  obtain ⟨next, scanned, _, nextAt⟩ := automaton.longestIn_of_marks isAt follows.marks
  exact ⟨next, scanned, nextAt⟩

end Automaton

end LexicalAutomata
