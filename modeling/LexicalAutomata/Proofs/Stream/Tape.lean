import LexicalAutomata.Proofs.Stream.Place

namespace LexicalAutomata

/-!
# A reader is a tape

A tape has the characters that have been read and those that come, and nothing else: no
source, no buffer and no bytes.  Whatever is done with a reader, it does what the same
operations do to a tape.  Of the ways in which the source delivers its bytes nothing is
seen, except that an operation may fail once for each failure of the source.  Only who asks
for more characters at once than any buffer can hold gets no answer at all.  While nothing is
inserted, what has been read and what comes make up one text, and the reader is at a place of
that text.
-/

/-- What has been read of a stream, what comes, and why the source is still to fail. -/
structure Tape where
  /-- What had been read when the stream was cleared. -/
  cleared : List Char
  /-- What has been read since then. -/
  recent : List Char
  future : List Char
  reasons : List String

namespace Tape

/-- Nothing has been read of a text. -/
def start
    (text : List Char)
    (reasons : List String) :
    Tape :=
  ⟨[], [], text, reasons⟩

/-- All that has been read. -/
def history
    (tape : Tape) :
    List Char :=
  tape.cleared ++ tape.recent

/-- Read `count` characters, or as many as there are. -/
def advance
    (tape : Tape)
    (count : Nat) :
    Tape :=
  { tape with
    recent := tape.recent ++ tape.future.take count
    future := tape.future.drop count }

/-- From now on, nothing has been read since the stream was cleared. -/
def clear
    (tape : Tape) :
    Tape :=
  { tape with cleared := tape.history, recent := [] }

/-- Put characters in front of those that come. -/
def insert
    (tape : Tape)
    (chars : List Char) :
    Tape :=
  { tape with future := chars ++ tape.future }

/-- The source has failed once more. -/
def failing
    (tape : Tape)
    (later : List String) :
    Tape :=
  { tape with reasons := later }

@[simp] theorem advance_zero
    (tape : Tape) :
    tape.advance 0 = tape := by
  simp [advance]

/-- Reading on is reading more. -/
theorem advance_advance
    (tape : Tape)
    (first second : Nat) :
    (tape.advance first).advance second = tape.advance (first + second) := by
  simp [advance, List.take_add, List.drop_drop, List.append_assoc]

/-- At the end, reading does nothing. -/
theorem advance_of_future_eq_nil
    {tape : Tape}
    (ended : tape.future = [])
    (count : Nat) :
    tape.advance count = tape := by
  obtain ⟨cleared, recent, future, reasons⟩ := tape
  cases ended
  simp [advance]

end Tape

namespace Reader

/-- What can be done with a reader. -/
inductive Operation where
  | read
  | peek (count : Nat)
  | take (count : Nat)
  | clear
  | insert (chars : List Char)

/-- What an operation gives. -/
inductive Answer where
  | char (char? : Option Char)
  | text (chars : List Char)
  | done
  deriving DecidableEq

/-- How an operation ends: with an answer, with a fault that is returned, or in a panic. -/
inductive Outcome where
  | answered (answer : Answer)
  | failed (fault : StreamFault)
  | panicked (panic : Panic)
  deriving DecidableEq

/-- An operation that comes back with a result. -/
def Outcome.ofResult
    {α : Type}
    (answer : α → Answer) :
    Except StreamFault α →
    Outcome
  | .ok value =>
      .answered (answer value)
  | .error fault =>
      .failed fault

/-- Do something with a reader. -/
def perform
    (reader : Reader) :
    Operation →
    Outcome × Reader
  | .read =>
      (.ofResult .char reader.read.1, reader.read.2)
  | .peek count =>
      (.ofResult .char (reader.peek count).1, (reader.peek count).2)
  | .take count =>
      match reader.take count with
      | .ok (result, next) =>
          (.ofResult .text result, next)
      | .error panic =>
          (.panicked panic, reader)
  | .clear =>
      (.answered .done, reader.clear)
  | .insert chars =>
      (.answered .done, reader.insert chars)

/-- A reader after some operations, one behind the other. -/
def after
    (reader : Reader)
    (operations : List Operation) :
    Reader :=
  operations.foldl (fun reader operation => (reader.perform operation).2) reader

end Reader

/--
What an operation gives and what it does to a tape.  When it fails, it has used up the next
reason of the source; a failing `take` has read some of its characters before.  A `take` that
asks for too many characters panics and has read none of them.
-/
inductive Tape.Performs :
    Tape →
    Reader.Operation →
    Reader.Outcome →
    Tape →
    Prop
  | read {tape : Tape} :
      Performs tape .read (.answered (.char tape.future.head?)) (tape.advance 1)
  | readFails {tape : Tape} {reason : String} {later : List String} :
      tape.reasons = reason :: later →
      Performs tape .read (.failed (.failed reason)) (tape.failing later)
  | peek {tape : Tape} {count : Nat} :
      Performs tape (.peek count) (.answered (.char tape.future[count]?)) tape
  | peekFails {tape : Tape} {count : Nat} {reason : String} {later : List String} :
      tape.reasons = reason :: later →
      Performs tape (.peek count) (.failed (.failed reason)) (tape.failing later)
  | take {tape : Tape} {count : Nat} :
      count ≤ capacityLimit →
      Performs tape (.take count) (.answered (.text (tape.future.take count)))
        (tape.advance count)
  | takeFails {tape : Tape} {count taken : Nat} {reason : String} {later : List String} :
      count ≤ capacityLimit →
      taken < count →
      taken ≤ tape.future.length →
      tape.reasons = reason :: later →
      Performs tape (.take count) (.failed (.failed reason)) ((tape.failing later).advance taken)
  | takePanics {tape : Tape} {count : Nat} :
      capacityLimit < count →
      Performs tape (.take count) (.panicked .capacityOverflow) tape
  | clear {tape : Tape} :
      Performs tape .clear (.answered .done) tape.clear
  | insert {tape : Tape} {chars : List Char} :
      Performs tape (.insert chars) (.answered .done) (tape.insert chars)

/-- The characters that have been read and those that come. -/
def Tape.whole
    (tape : Tape) :
    List Char :=
  tape.history ++ tape.future

/-- An operation puts no characters into the stream. -/
def Reader.Operation.Keeps : Reader.Operation → Prop
  | .insert _ =>
      False
  | _ =>
      True

namespace Tape

theorem whole_advance
    (tape : Tape)
    (count : Nat) :
    (tape.advance count).whole = tape.whole := by
  simp [whole, history, advance]

/-- The place that has been reached of the text that a tape makes up. -/
def place
    (tape : Tape) :
    Place :=
  (Place.start tape.whole).advance tape.history.length

section Place

variable (tape : Tape)

theorem follows_place :
    tape.place.Follows tape.whole tape.history.length := by
  refine ⟨rfl, ?_⟩
  rw [Tape.whole, List.length_append]
  exact Nat.le_add_right _ _

theorem rest_place :
    tape.place.rest = tape.future := by
  rw [tape.follows_place.rest_eq, Tape.whole, List.drop_left]

theorem before_place :
    tape.place.before = tape.history.getLast? := by
  rw [tape.follows_place.before_eq, Tape.whole, List.take_left]

@[simp] theorem history_clear :
    tape.clear.history = tape.history :=
  List.append_nil _

@[simp] theorem whole_clear :
    tape.clear.whole = tape.whole :=
  congrArg (· ++ tape.future) tape.history_clear

/-- Dropping what has been read does not move a tape. -/
@[simp] theorem place_clear :
    tape.clear.place = tape.place := by
  rw [place, place, whole_clear, history_clear]

/-- Reading moves a tape behind what is read. -/
theorem place_advance
    {count : Nat}
    (le : count ≤ tape.future.length) :
    (tape.advance count).place = tape.place.advance count := by
  have length : (tape.advance count).history.length = tape.history.length + count := by
    simp only [history, advance, List.length_append, List.length_take]
    omega
  rw [place, length, whole_advance, ← Place.advance_advance, place]

end Place

end Tape

section Performs

variable {tape next : Tape} {operation : Reader.Operation}
  {outcome : Reader.Outcome}

/-- When nothing is inserted, the whole text stays the same. -/
theorem Tape.Performs.whole_eq
    (performs : tape.Performs operation outcome next)
    (keeps : operation.Keeps) :
    next.whole = tape.whole := by
  cases performs with
  | read =>
      exact tape.whole_advance 1
  | readFails =>
      rfl
  | peek =>
      rfl
  | peekFails =>
      rfl
  | take =>
      exact tape.whole_advance _
  | takeFails =>
      exact (tape.failing _).whole_advance _
  | takePanics =>
      rfl
  | clear =>
      exact tape.whole_clear
  | insert =>
      exact keeps.elim

/-- A source that does not fail now does not fail later. -/
theorem Tape.Performs.reasons_eq_nil
    (performs : tape.Performs operation outcome next)
    (none : tape.reasons = []) :
    next.reasons = [] := by
  cases performs with
  | readFails same =>
      rw [none] at same
      contradiction
  | peekFails same =>
      rw [none] at same
      contradiction
  | takeFails _ _ _ same =>
      rw [none] at same
      contradiction
  | _ =>
      exact none

end Performs

namespace Reader

/-- What a reader tells of itself is true of a tape. -/
structure Shows
    (reader : Reader)
    (tape : Tape) : Prop where
  position : reader.position = tape.history.length
  previous : reader.previous = tape.history.getLast?
  consumed : reader.consumed = tape.recent
  buffered : reader.buffered <+: tape.future

/-- What is in a reader makes up a tape. -/
structure Holds
    (reader : Reader)
    (tape : Tape) : Prop where
  discarded : reader.discarded = tape.cleared.length
  beforeBuffer : reader.beforeBuffer = tape.cleared.getLast?
  consumed : reader.consumed = tape.recent
  expects : reader.Expects tape.future tape.reasons

theorem holds_ofSource
    {text : List Char}
    {source : Source}
    {reasons : List String}
    (relays : source.Relays (Utf8.encode text) reasons) :
    (Reader.ofSource source).Holds (.start text reasons) where
  discarded :=
    rfl
  beforeBuffer :=
    rfl
  consumed :=
    rfl
  expects :=
    expects_ofSource relays

section Holds

variable {reader next : Reader} {tape : Tape}

/-- As many characters have been read since the reader was cleared as the cursor has passed. -/
theorem Holds.length_recent
    (holds : reader.Holds tape) :
    tape.recent.length = reader.cursor := by
  have inside := reader.cursor_le
  rw [← holds.consumed, Reader.consumed, List.length_take, Array.length_toList]
  omega

theorem Holds.previous_eq
    (holds : reader.Holds tape) :
    reader.previous = tape.history.getLast? := by
  have inside := reader.cursor_le
  unfold previous before Tape.history
  rw [Nat.add_zero, List.getLast?_append, ← holds.beforeBuffer, ← holds.consumed,
    Reader.consumed, List.getLast?_take]
  split
  · rfl
  · rename_i behind
    rw [Array.getElem?_toList, Array.getElem?_eq_getElem (by omega)]
    rfl

/-- A reader shows the tape that it holds. -/
theorem Holds.shows
    (holds : reader.Holds tape) :
    reader.Shows tape where
  position := by
    rw [position, Tape.history, List.length_append, holds.discarded, holds.length_recent]
  previous :=
    holds.previous_eq
  consumed :=
    holds.consumed
  buffered := by
    obtain ⟨undelivered, whole, _⟩ := holds.expects
    exact ⟨undelivered, whole⟩

/-- Looking ahead changes no more than the reasons to fail. -/
theorem Holds.grows
    (holds : reader.Holds tape)
    (grows : reader.Grows next)
    {later : List String}
    (expects : next.Expects tape.future later) :
    next.Holds (tape.failing later) where
  discarded := by
    rw [grows.discarded]
    exact holds.discarded
  beforeBuffer := by
    rw [grows.beforeBuffer]
    exact holds.beforeBuffer
  consumed := by
    rw [grows.consumed_eq]
    exact holds.consumed
  expects :=
    expects

/-- What a reader holds after it has looked ahead, with the answer or with a failure. -/
theorem Holds.looks
    {α : Type}
    {answer : α}
    {result : Except StreamFault α × Reader}
    (holds : reader.Holds tape)
    (looks : reader.Looks tape.future tape.reasons answer result) :
    (result.1 = .ok answer ∧ reader.Grows result.2 ∧ result.2.Holds tape) ∨
      ∃ reason later,
        tape.reasons = reason :: later ∧
          result.1 = .error (.failed reason) ∧ result.2.Holds (tape.failing later) := by
  obtain ⟨grows, ⟨answered, expects⟩ | ⟨reason, later, same, failed, expects⟩⟩ := looks
  · exact Or.inl ⟨answered, grows, holds.grows grows expects⟩
  · exact Or.inr ⟨reason, later, same, failed, holds.grows grows expects⟩

/-- The cursor moves over the next character of the tape. -/
theorem Holds.step
    (holds : reader.Holds tape)
    {char : Char}
    {rest : List Char}
    (ahead : tape.future = char :: rest)
    (inside : reader.cursor < reader.buffer.size) :
    reader.step.Holds (tape.advance 1) := by
  have expects := holds.expects
  rw [ahead] at expects
  obtain ⟨moved, shown, stepped⟩ := expects.step inside
  rw [moved] at stepped ⊢
  refine ⟨holds.discarded, holds.beforeBuffer, ?_, ?_⟩
  · rw [Reader.consumed, List.take_add_one, Array.getElem?_toList, shown, Tape.advance, ahead,
      ← holds.consumed]
    rfl
  · rw [Tape.advance, ahead]
    exact stepped

/-- Reading gives the first character that comes, if there is one, and moves over it. -/
theorem Holds.read
    (holds : reader.Holds tape) :
    (∃ next, reader.read = (.ok tape.future.head?, next) ∧ next.Holds (tape.advance 1)) ∨
      ∃ reason later next,
        tape.reasons = reason :: later ∧
          reader.read = (.error (.failed reason), next) ∧ next.Holds (tape.failing later) := by
  generalize peeked : reader.peek 0 = result
  have looks := holds.expects.peek 0
  rw [peeked] at looks
  obtain ⟨answer, next⟩ := result
  rcases holds.looks looks with ⟨rfl, _, nextHolds⟩ | ⟨reason, later, same, rfl, nextHolds⟩
  · left
    cases ahead : tape.future with
    | nil =>
        rw [ahead] at peeked
        refine ⟨next, ?_, ?_⟩
        · rw [Reader.read, peeked]
          rfl
        · rw [Tape.advance_of_future_eq_nil ahead]
          exact nextHolds
    | cons char rest =>
        rw [ahead] at peeked
        refine ⟨next.step, ?_, nextHolds.step ahead (lt_size_of_peek peeked)⟩
        rw [Reader.read, peeked]
        rfl
  · right
    refine ⟨reason, later, next, same, ?_, nextHolds⟩
    rw [Reader.read, peeked]

/-- Taking gives as many characters as there are, or fails behind some of them. -/
theorem Holds.takeOnto
    (holds : reader.Holds tape)
    (taken : Array Char)
    (count : Nat) :
    (∃ next,
        reader.takeOnto taken count = (.ok (taken.toList ++ tape.future.take count), next) ∧
          next.Holds (tape.advance count)) ∨
      ∃ done reason later next,
        done < count ∧ done ≤ tape.future.length ∧ tape.reasons = reason :: later ∧
          reader.takeOnto taken count = (.error (.failed reason), next) ∧
            next.Holds ((tape.failing later).advance done) := by
  induction count generalizing reader tape taken with
  | zero =>
      refine Or.inl ⟨reader, ?_, ?_⟩
      · simp [Reader.takeOnto]
      · simpa using holds
  | succ count inductionHypothesis =>
      rcases holds.read with ⟨next, read, nextHolds⟩ | ⟨reason, later, next, same, read, nextHolds⟩
      · cases ahead : tape.future with
        | nil =>
            rw [ahead] at read
            refine Or.inl ⟨next, ?_, ?_⟩
            · simp [Reader.takeOnto, read]
            · rw [Tape.advance_of_future_eq_nil ahead] at nextHolds ⊢
              exact nextHolds
        | cons char rest =>
            rw [ahead] at read
            have moved : (tape.advance 1).future = rest := by
              rw [Tape.advance, ahead]
              rfl
            rcases inductionHypothesis nextHolds (taken.push char) with
              ⟨last, took, lastHolds⟩ |
                ⟨done, reason, later, last, less, le, same, failed, lastHolds⟩
            · rw [Tape.advance_advance, Nat.add_comm] at lastHolds
              refine Or.inl ⟨last, ?_, lastHolds⟩
              rw [moved] at took
              simp [Reader.takeOnto, read, took]
            · have behind :
                  ((tape.advance 1).failing later).advance done =
                    (tape.failing later).advance (done + 1) := by
                rw [Nat.add_comm, ← Tape.advance_advance]
                rfl
              rw [behind] at lastHolds
              rw [moved] at le
              refine Or.inr ⟨done + 1, reason, later, last, Nat.succ_lt_succ less,
                Nat.succ_le_succ le, same, ?_, lastHolds⟩
              simp [Reader.takeOnto, read, failed]
      · refine Or.inr ⟨0, reason, later, next, Nat.zero_lt_succ _, Nat.zero_le _, same, ?_, ?_⟩
        · simp [Reader.takeOnto, read]
        · simpa using nextHolds

theorem Holds.clear
    (holds : reader.Holds tape) :
    reader.clear.Holds tape.clear := by
  have expects := holds.expects.clear
  have previous := holds.previous_eq
  have length := holds.length_recent
  unfold Reader.clear at expects ⊢
  split
  · rename_i front
    rw [if_pos front] at expects
    rw [front, List.length_eq_zero_iff] at length
    refine ⟨?_, ?_, ?_, expects⟩
    · rw [holds.discarded, Tape.clear, Tape.history, length, List.append_nil]
    · rw [holds.beforeBuffer, Tape.clear, Tape.history, length, List.append_nil]
    · rw [holds.consumed, length]
      rfl
  · rename_i behind
    rw [if_neg behind] at expects
    refine ⟨?_, previous, ?_, expects⟩
    · rw [Tape.clear, Tape.history, List.length_append, ← holds.discarded, length]
    · rw [Reader.consumed, List.take_zero]
      rfl

theorem Holds.insert
    (holds : reader.Holds tape)
    (chars : List Char) :
    (reader.insert chars).Holds (tape.insert chars) := by
  have inside := reader.cursor_le
  have front : (reader.buffer.toList.take reader.cursor).length = reader.cursor := by
    rw [List.length_take, Array.length_toList]
    omega
  have cursor : (reader.insert chars).cursor = reader.cursor := rfl
  have buffer :
      (reader.insert chars).buffer.toList =
        reader.buffer.toList.take reader.cursor ++
          (chars ++ reader.buffer.toList.drop reader.cursor) := by
    simp [Reader.insert, List.extract_eq_take_drop, List.take_of_length_le]
  refine ⟨holds.discarded, holds.beforeBuffer, ?_, ?_⟩
  · rw [Reader.consumed, buffer, cursor, List.take_append_of_le_length (Nat.le_of_eq front.symm),
      List.take_of_length_le (Nat.le_of_eq front)]
    exact holds.consumed
  · obtain ⟨undelivered, whole, completes, ended⟩ := holds.expects
    refine ⟨undelivered, ?_, completes, ended⟩
    rw [buffered, buffer, cursor, List.drop_append_of_le_length (Nat.le_of_eq front.symm),
      List.drop_eq_nil_of_le (Nat.le_of_eq front), List.nil_append, List.append_assoc,
      Tape.insert, ← whole]
    rfl

/-- Every operation on a reader is an operation on the tape that it holds. -/
theorem Holds.perform
    (holds : reader.Holds tape)
    (operation : Operation) :
    ∃ next,
      tape.Performs operation (reader.perform operation).1 next ∧
        (reader.perform operation).2.Holds next := by
  cases operation with
  | read =>
      rcases holds.read with ⟨next, read, nextHolds⟩ | ⟨reason, later, next, same, read, nextHolds⟩
      · simp only [Reader.perform, read]
        exact ⟨_, .read, nextHolds⟩
      · simp only [Reader.perform, read]
        exact ⟨_, .readFails same, nextHolds⟩
  | peek count =>
      rcases holds.looks (holds.expects.peek count) with
        ⟨answered, _, nextHolds⟩ | ⟨reason, later, same, failed, nextHolds⟩
      · simp only [Reader.perform, answered]
        exact ⟨_, .peek, nextHolds⟩
      · simp only [Reader.perform, failed]
        exact ⟨_, .peekFails same, nextHolds⟩
  | take count =>
      by_cases fits : count ≤ capacityLimit
      · have asks : reader.take count = .ok (reader.takeUpTo count) := if_pos fits
        rcases holds.takeOnto #[] count with
          ⟨next, took, nextHolds⟩ |
            ⟨done, reason, later, next, less, le, same, failed, nextHolds⟩
        · simp only [Reader.perform, asks, Reader.takeUpTo, took]
          exact ⟨_, .take fits, nextHolds⟩
        · simp only [Reader.perform, asks, Reader.takeUpTo, failed]
          exact ⟨_, .takeFails fits less le same, nextHolds⟩
      · have refuses : reader.take count = .error .capacityOverflow := if_neg fits
        simp only [Reader.perform, refuses]
        exact ⟨_, .takePanics (Nat.lt_of_not_le fits), holds⟩
  | clear =>
      exact ⟨_, .clear, holds.clear⟩
  | insert chars =>
      exact ⟨_, .insert, holds.insert chars⟩

/-- A reader is at the place of its tape. -/
theorem Holds.standsAt
    (holds : reader.Holds tape) :
    reader.StandsAt tape.whole tape.place tape.reasons where
  follows := by
    rw [holds.shows.position]
    exact tape.follows_place
  previous := by
    rw [tape.before_place]
    exact holds.shows.previous
  expects := by
    rw [tape.rest_place]
    exact holds.expects

/-- A reader whose source does not fail is at a place of the text that its tape makes up. -/
theorem Holds.isAt
    (holds : reader.Holds tape)
    (none : tape.reasons = []) :
    reader.IsAt tape.whole ((Place.start tape.whole).advance reader.position) := by
  have stands := holds.standsAt
  rw [none] at stands
  rw [holds.shows.position]
  exact stands.isAt

/-- Operations that insert nothing leave a reader at a place of the same text. -/
theorem Holds.isAt_after
    (holds : reader.Holds tape)
    (none : tape.reasons = [])
    (operations : List Operation)
    (keep : ∀ operation ∈ operations, operation.Keeps) :
    (reader.after operations).IsAt tape.whole
      ((Place.start tape.whole).advance (reader.after operations).position) := by
  induction operations generalizing reader tape with
  | nil =>
      exact holds.isAt none
  | cons operation others inductionHypothesis =>
      obtain ⟨keeps, othersKeep⟩ := List.forall_mem_cons.mp keep
      obtain ⟨next, performs, nextHolds⟩ := holds.perform operation
      rw [← performs.whole_eq keeps]
      exact inductionHypothesis nextHolds (performs.reasons_eq_nil none) othersKeep

end Holds

/-- A reader of a text stays at a place of the text while nothing is inserted. -/
theorem isAt_after
    {text : List Char}
    {source : Source}
    (delivers : source.Delivers (Utf8.encode text))
    {operations : List Operation}
    (keep : ∀ operation ∈ operations, operation.Keeps) :
    ((Reader.ofSource source).after operations).IsAt text
      ((Place.start text).advance ((Reader.ofSource source).after operations).position) :=
  (holds_ofSource delivers.relays).isAt_after rfl operations keep

end Reader

end LexicalAutomata
