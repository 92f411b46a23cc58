import LexicalAutomata.Proofs.Stream.Scan
import LexicalAutomata.Proofs.Stream.Tape

namespace LexicalAutomata

/-!
# Streams whose source fails

A reader whose source fails now and then is at a place of the text that its tape makes up.
A scan there finds what it finds in that text, or it fails and leaves the reader at the same
place.  What a scan has found is in the buffer, so that taking it does not fail.  A reader
of the same source without its failures is at the same place of the same stream.
-/

namespace Reader

variable {reader next : Reader} {tape : Tape} {text : List Char}

/-- A call that looks ahead gives its answer, or it fails; in both cases it leaves the tape. -/
theorem Holds.answers
    {α : Type}
    {answer : α}
    {result : Except StreamFault α × Reader}
    (holds : reader.Holds tape)
    (looks : reader.Looks tape.future tape.reasons answer result) :
    (∃ next, result = (.ok answer, next) ∧ next.Holds tape) ∨
      ∃ reason later next,
        tape.reasons = reason :: later ∧
          result = (.error (.failed reason), next) ∧ next.Holds (tape.failing later) := by
  obtain ⟨answered, _, nextHolds⟩ | ⟨reason, later, same, failed, nextHolds⟩ := holds.looks looks
  · exact Or.inl ⟨_, Prod.ext answered rfl, nextHolds⟩
  · exact Or.inr ⟨reason, later, _, same, Prod.ext failed rfl, nextHolds⟩

/-- A scan finds what it finds at the place of the tape, or it fails and leaves the tape. -/
theorem Holds.longestIn
    {τ : Type}
    (automaton : Automaton τ)
    (holds : reader.Holds tape)
    {searchStart searchOffset : Nat}
    (marks : Place.Marks tape.whole searchOffset searchStart) :
    (∃ next,
        automaton.longestIn reader searchStart =
            (.ok (automaton.longestAt tape.place searchOffset), next) ∧
          next.Holds tape) ∨
      ∃ reason later next,
        tape.reasons = reason :: later ∧
          automaton.longestIn reader searchStart = (.error (.failed reason), next) ∧
            next.Holds (tape.failing later) := by
  have looks := automaton.looks_longestIn holds.standsAt marks
  rw [tape.rest_place] at looks
  exact holds.answers looks

/-- What is in the buffer is taken without a failure. -/
theorem takeOnto_of_buffered
    (taken : Array Char)
    {count : Nat}
    (inside : reader.cursor + count ≤ reader.buffer.size) :
    ∃ chars next, reader.takeOnto taken count = (.ok chars, next) := by
  induction count generalizing reader taken with
  | zero =>
      exact ⟨_, _, rfl⟩
  | succ count inductionHypothesis =>
      have less : reader.cursor < reader.buffer.size := by
        omega
      have stepInside : reader.step.cursor + count ≤ reader.step.buffer.size := by
        rw [step, dif_pos less]
        dsimp only
        omega
      rw [Reader.takeOnto, read_of_buffered less]
      exact inductionHypothesis _ stepInside

/-- Taking what is in the buffer gives the characters that come. -/
theorem Holds.takeUpTo_of_buffered
    (holds : reader.Holds tape)
    {count : Nat}
    (inside : reader.cursor + count ≤ reader.buffer.size) :
    ∃ next,
      reader.takeUpTo count = (.ok (tape.future.take count), next) ∧
        next.Holds (tape.advance count) := by
  obtain ⟨chars, last, takes⟩ := takeOnto_of_buffered #[] inside
  rcases holds.takeOnto #[] count with ⟨next, took, nextHolds⟩ | ⟨_, _, _, _, _, _, _, failed, _⟩
  · exact ⟨next, took, nextHolds⟩
  · rw [takes] at failed
    cases failed

/-- The characters that a scan has found are in the buffer. -/
theorem inside_of_longestIn
    {τ : Type}
    {automaton : Automaton τ}
    {searchStart : Nat}
    {best : Found}
    (scanned : automaton.longestIn reader searchStart = (.ok (some best), next)) :
    next.cursor + best.length ≤ next.buffer.size :=
  Automaton.length_scanIn_le (by simpa using reader.cursor_le) (by simp) scanned

end Reader

namespace Source

/-- The bytes that a source delivers to a reader that goes on calling it. -/
def bytes : Source → List UInt8
  | [] =>
      []
  | .interrupted :: rest =>
      bytes rest
  | .failure _ :: rest =>
      bytes rest
  | .chunk first :: rest =>
      if first.isEmpty then [] else first ++ bytes rest

/-- The same source without its failures. -/
def steady : Source → Source
  | [] =>
      []
  | .failure _ :: rest =>
      steady rest
  | delivery :: rest =>
      delivery :: steady rest

section Relays

variable {source : Source} {delivered : List UInt8} {reasons : List String}

theorem Relays.bytes_eq
    (relays : source.Relays delivered reasons) :
    source.bytes = delivered := by
  induction relays with
  | ended =>
      rfl
  | closed =>
      rfl
  | interrupted _ inductionHypothesis =>
      exact inductionHypothesis
  | failure _ inductionHypothesis =>
      exact inductionHypothesis
  | chunk nonempty _ inductionHypothesis =>
      rw [bytes, if_neg (by simpa using nonempty), inductionHypothesis]

/-- Without its failures, a source delivers the same bytes. -/
theorem Relays.steady
    (relays : source.Relays delivered reasons) :
    source.steady.Relays delivered [] := by
  induction relays with
  | ended =>
      exact .ended
  | closed =>
      exact .closed
  | interrupted _ inductionHypothesis =>
      exact .interrupted inductionHypothesis
  | failure _ inductionHypothesis =>
      exact inductionHypothesis
  | chunk nonempty _ inductionHypothesis =>
      exact .chunk nonempty inductionHypothesis

/-- A source fails for the reasons of the failures among its calls. -/
theorem Relays.failure_mem
    (relays : source.Relays delivered reasons)
    {reason : String}
    (member : reason ∈ reasons) :
    .failure reason ∈ source := by
  induction relays with
  | ended =>
      contradiction
  | closed =>
      contradiction
  | interrupted _ inductionHypothesis =>
      exact List.mem_cons_of_mem _ (inductionHypothesis member)
  | failure _ inductionHypothesis =>
      rcases List.mem_cons.mp member with rfl | later
      · exact List.mem_cons_self
      · exact List.mem_cons_of_mem _ (inductionHypothesis later)
  | chunk _ _ inductionHypothesis =>
      exact List.mem_cons_of_mem _ (inductionHypothesis member)

end Relays

end Source

namespace Reader

/-- The characters that are still to be read: those in the buffer, and those of the bytes that
are pending or still to be delivered. -/
def unread
    (reader : Reader) :
    List Char :=
  reader.buffered ++ (Utf8.decode (reader.pending ++ reader.source.bytes)).chars

/-- The same reader of a source that does not fail. -/
def steady
    (reader : Reader) :
    Reader :=
  { reader with source := reader.source.steady }

/-- Two readers are at the same place of the same stream. -/
structure SameStream
    (reader other : Reader) : Prop where
  position : reader.position = other.position
  previous : reader.previous = other.previous
  consumed : reader.consumed = other.consumed
  unread : reader.unread = other.unread

section SameStream

variable {reader other : Reader} {tape : Tape} {rest : List Char} {reasons later : List String}

theorem Expects.unread_eq
    (expects : reader.Expects rest reasons) :
    reader.unread = rest := by
  obtain ⟨undelivered, whole, ⟨⟨bytes, relays, complete⟩, _⟩, _⟩ := expects
  rw [unread, relays.bytes_eq, complete, Utf8.decode_encode]
  exact whole

/-- Readers of one tape are at the same place of the same stream, however their sources fail. -/
theorem Holds.sameStream
    (holds : reader.Holds (tape.failing reasons))
    (otherHolds : other.Holds (tape.failing later)) :
    reader.SameStream other where
  position :=
    holds.shows.position.trans otherHolds.shows.position.symm
  previous :=
    holds.shows.previous.trans otherHolds.shows.previous.symm
  consumed :=
    holds.shows.consumed.trans otherHolds.shows.consumed.symm
  unread :=
    holds.expects.unread_eq.trans otherHolds.expects.unread_eq.symm

/-- Without the failures of its source, a reader holds the same tape. -/
theorem Holds.steady
    (holds : reader.Holds tape) :
    reader.steady.Holds (tape.failing []) where
  discarded :=
    holds.discarded
  beforeBuffer :=
    holds.beforeBuffer
  consumed :=
    holds.consumed
  expects := by
    obtain ⟨undelivered, whole, ⟨⟨bytes, relays, complete⟩, unfinished⟩, ended⟩ := holds.expects
    exact ⟨undelivered, whole, ⟨⟨bytes, relays.steady, complete⟩, unfinished⟩, ended⟩

/-- A reader that is still to fail has a failure in its source. -/
theorem Holds.failure_mem
    (holds : reader.Holds tape)
    {reason : String}
    (member : reason ∈ tape.reasons) :
    .failure reason ∈ reader.source := by
  obtain ⟨_, _, ⟨⟨_, relays, _⟩, _⟩, _⟩ := holds.expects
  exact relays.failure_mem member

end SameStream

end Reader

end LexicalAutomata
