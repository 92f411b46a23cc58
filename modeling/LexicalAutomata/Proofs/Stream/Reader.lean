import LexicalAutomata.Proofs.Stream.Source
import LexicalAutomata.Proofs.Stream.Utf8
import LexicalAutomata.Stream.Scan

namespace LexicalAutomata

/-!
# What a reader has before it

A reader has a text before it when the characters in its buffer, the bytes that are
pending and the bytes of its source make up that text.  Looking ahead moves characters
into the buffer, and nothing else changes.  The source may fail some times while the
reader calls it; then the call of the reader fails, and nothing is lost by that.
-/

/-- With some bytes in front, a source delivers the rest of a text and fails for some reasons. -/
structure Source.Completes
    (source : Source)
    (pending : List UInt8)
    (text : List Char)
    (reasons : List String) : Prop where
  relays : ∃ bytes, source.Relays bytes reasons ∧ pending ++ bytes = Utf8.encode text
  unfinished : Utf8.Unfinished pending

namespace Source

variable {rest : Source} {pending first : List UInt8} {text : List Char} {reasons : List String}

/-- When a source has ended, nothing is missing. -/
theorem Completes.eq_nil
    (completes : Completes [] pending text reasons) :
    pending = [] ∧ text = [] ∧ reasons = [] := by
  obtain ⟨⟨bytes, relays, whole⟩, unfinished⟩ := completes
  cases relays
  rw [List.append_nil] at whole
  subst whole
  cases unfinished.eq_nil
  exact ⟨rfl, rfl, rfl⟩

/-- A call without bytes is the end as well. -/
theorem Completes.of_closed
    (completes : Completes (.chunk [] :: rest) pending text reasons) :
    Completes [] pending text reasons := by
  obtain ⟨⟨bytes, relays, whole⟩, unfinished⟩ := completes
  cases relays with
  | closed =>
      exact ⟨⟨[], .ended, whole⟩, unfinished⟩
  | chunk nonempty =>
      contradiction

theorem Completes.of_interrupted
    (completes : Completes (.interrupted :: rest) pending text reasons) :
    Completes rest pending text reasons := by
  obtain ⟨⟨bytes, relays, whole⟩, unfinished⟩ := completes
  cases relays with
  | interrupted relays =>
      exact ⟨⟨bytes, relays, whole⟩, unfinished⟩

/-- A call that fails takes nothing away from the text. -/
theorem Completes.of_failure
    {reason : String}
    (completes : Completes (.failure reason :: rest) pending text reasons) :
    ∃ later, reasons = reason :: later ∧ Completes rest pending text later := by
  obtain ⟨⟨bytes, relays, whole⟩, unfinished⟩ := completes
  cases relays with
  | failure relays =>
      exact ⟨_, rfl, ⟨bytes, relays, whole⟩, unfinished⟩

/-- A chunk completes some characters, and the rest of it is pending again. -/
theorem Completes.of_chunk
    (completes : Completes (.chunk first :: rest) pending text reasons)
    (nonempty : first ≠ []) :
    ∃ front back later,
      text = front ++ back ∧
        Utf8.decode (pending ++ first) = ⟨front, later, none⟩ ∧
          Completes rest later back reasons := by
  obtain ⟨⟨bytes, relays, whole⟩, _⟩ := completes
  cases relays with
  | closed =>
      contradiction
  | chunk _ relays =>
      rw [← List.append_assoc] at whole
      obtain ⟨front, back, later, same, decoded, laterWhole, unfinished⟩ :=
        Utf8.decode_of_append_eq whole
      exact ⟨front, back, later, same, decoded, ⟨_, relays, laterWhole⟩, unfinished⟩

end Source

namespace Reader

/-- A reader has only got more characters into its buffer. -/
structure Grows
    (reader next : Reader) : Prop where
  cursor : next.cursor = reader.cursor
  buffer : reader.buffer.toList <+: next.buffer.toList
  discarded : next.discarded = reader.discarded
  beforeBuffer : next.beforeBuffer = reader.beforeBuffer

/--
What is in the buffer and what is still to be delivered make up a text, and the source
is still to fail for some reasons.
-/
def Expects
    (reader : Reader)
    (rest : List Char)
    (reasons : List String) :
    Prop :=
  ∃ undelivered,
    reader.buffered ++ undelivered = rest ∧
      reader.source.Completes reader.pending undelivered reasons ∧
        (reader.ended = true → undelivered = [])

/-- What is in the buffer and what is still to be delivered, without a failure, make up a text. -/
abbrev Unread
    (reader : Reader)
    (rest : List Char) :
    Prop :=
  reader.Expects rest []

/--
A call looks at what a reader has before it and gives an answer, or it fails for the next
reason for which the source fails.  In both cases the reader still has everything before it.
-/
def Looks
    {α : Type}
    (reader : Reader)
    (rest : List Char)
    (reasons : List String)
    (answer : α)
    (result : Except StreamFault α × Reader) :
    Prop :=
  reader.Grows result.2 ∧
    (result.1 = .ok answer ∧ result.2.Expects rest reasons ∨
      ∃ reason later,
        reasons = reason :: later ∧
          result.1 = .error (.failed reason) ∧ result.2.Expects rest later)

section Grows

variable {reader next last : Reader}

theorem Grows.refl
    (reader : Reader) :
    reader.Grows reader :=
  ⟨rfl, List.prefix_refl _, rfl, rfl⟩

theorem Grows.trans
    (first : reader.Grows next)
    (second : next.Grows last) :
    reader.Grows last :=
  ⟨second.cursor.trans first.cursor, first.buffer.trans second.buffer,
    second.discarded.trans first.discarded, second.beforeBuffer.trans first.beforeBuffer⟩

theorem Grows.position_eq
    (grows : reader.Grows next) :
    next.position = reader.position := by
  rw [position, position, grows.cursor, grows.discarded]

theorem Grows.size_le
    (grows : reader.Grows next) :
    reader.buffer.size ≤ next.buffer.size :=
  grows.buffer.length_le

/-- What has been in the buffer is there as before. -/
theorem Grows.getElem?_eq
    (grows : reader.Grows next)
    {index : Nat}
    (inside : index < reader.buffer.size) :
    next.buffer[index]? = reader.buffer[index]? := by
  obtain ⟨more, same⟩ := grows.buffer
  rw [← Array.getElem?_toList, ← Array.getElem?_toList, ← same,
    List.getElem?_append_left (by simpa using inside)]

theorem Grows.previous_eq
    (grows : reader.Grows next) :
    next.previous = reader.previous := by
  have inside := reader.cursor_le
  unfold previous before
  rw [grows.cursor, grows.beforeBuffer]
  split
  · rfl
  · exact grows.getElem?_eq (by omega)

/-- What has been read since the reader was cleared is the same as before. -/
theorem Grows.consumed_eq
    (grows : reader.Grows next) :
    next.consumed = reader.consumed := by
  obtain ⟨more, same⟩ := grows.buffer
  have inside := reader.cursor_le
  rw [consumed, grows.cursor, ← same, List.take_append_of_le_length (by simpa using inside)]
  rfl

end Grows

/-- A fresh reader has before it what its source delivers. -/
theorem expects_ofSource
    {text : List Char}
    {source : Source}
    {reasons : List String}
    (relays : source.Relays (Utf8.encode text) reasons) :
    (Reader.ofSource source).Expects text reasons :=
  ⟨text, rfl, ⟨⟨_, relays, rfl⟩, Utf8.unfinished_nil⟩, fun impossible => by cases impossible⟩

section Expects

variable {reader next : Reader} {rest : List Char} {reasons : List String}

/-- What is in the buffer comes first. -/
theorem Expects.getElem?_eq
    (expects : reader.Expects rest reasons)
    (count : Nat)
    (inside : reader.cursor + count < reader.buffer.size) :
    rest[count]? = reader.buffer[reader.cursor + count]? := by
  obtain ⟨undelivered, rfl, _⟩ := expects
  rw [List.getElem?_append_left, buffered, List.getElem?_drop, Array.getElem?_toList]
  simp only [buffered, List.length_drop, Array.length_toList]
  omega

/-- What pulling on a source gives of the characters that are still to be delivered. -/
structure Fetches
    (reader next : Reader)
    (front back : List Char)
    (reasons : List String) : Prop where
  cursor : next.cursor = reader.cursor
  buffer : next.buffer.toList = reader.buffer.toList ++ front
  discarded : next.discarded = reader.discarded
  beforeBuffer : next.beforeBuffer = reader.beforeBuffer
  completes : next.source.Completes next.pending back reasons
  ended : next.ended = true → back = []

/--
Pulling on a source gets some of the characters that are still to be delivered, and none
only when there are none; or it fails for the next reason and gets nothing.
-/
def Pulls
    (reader : Reader)
    (undelivered : List Char)
    (reasons : List String)
    (result : Except StreamFault Bool × Reader) :
    Prop :=
  (∃ front back,
      undelivered = front ++ back ∧
        (front = [] → back = []) ∧
          result.1 = .ok (!front.isEmpty) ∧ reader.Fetches result.2 front back reasons) ∨
    ∃ reason later,
      reasons = reason :: later ∧
        result.1 = .error (.failed reason) ∧ reader.Fetches result.2 [] undelivered later

/-- Nothing is left over at the end of the source. -/
theorem pulls_finish
    {undelivered : List Char}
    (completes : Source.Completes [] reader.pending undelivered reasons) :
    reader.Pulls undelivered reasons reader.finish := by
  obtain ⟨noPending, rfl, _⟩ := completes.eq_nil
  refine Or.inl ⟨[], [], rfl, fun _ => rfl, ?_, rfl, (List.append_nil _).symm, rfl, rfl,
    completes, fun _ => rfl⟩
  rw [finish, noPending]
  rfl

/-- Pulling gets characters as long as there are some. -/
theorem pulls_pullFrom
    {source : Source}
    {undelivered : List Char}
    (goesOn : reader.ended = false)
    (completes : source.Completes reader.pending undelivered reasons) :
    reader.Pulls undelivered reasons (reader.pullFrom source) := by
  fun_induction pullFrom reader source with
  | case1 reader =>
      exact pulls_finish completes
  | case2 reader rest inductionHypothesis =>
      exact inductionHypothesis goesOn completes.of_interrupted
  | case3 reader reason rest =>
      obtain ⟨later, same, moreCompletes⟩ := completes.of_failure
      refine Or.inr ⟨reason, later, same, rfl, rfl, (List.append_nil _).symm, rfl, rfl,
        moreCompletes, ?_⟩
      intro ended
      rw [show reader.ended = true from ended] at goesOn
      contradiction
  | case4 reader bytes rest empty =>
      rw [List.isEmpty_iff] at empty
      subst empty
      exact pulls_finish completes.of_closed
  | case5 reader bytes rest nonempty pending decoded size malformed =>
      rw [List.isEmpty_iff] at nonempty
      obtain ⟨front, back, later, _, decodes, _⟩ := completes.of_chunk nonempty
      have same : decoded = ⟨front, later, none⟩ :=
        decodes
      rw [same] at malformed
      contradiction
  | case6 reader bytes rest nonempty pending decoded _ nothing inductionHypothesis =>
      rw [List.isEmpty_iff] at nonempty
      obtain ⟨front, back, later, rfl, decodes, moreCompletes⟩ := completes.of_chunk nonempty
      have same : decoded = ⟨front, later, none⟩ :=
        decodes
      rw [List.isEmpty_iff] at nothing
      have kept : decoded.rest = pending :=
        Utf8.rest_decode_of_chars_eq_nil nothing
      rw [same] at nothing kept
      subst nothing kept
      rcases inductionHypothesis goesOn moreCompletes with
        ⟨front, rest, whole, enough, result, fetches⟩ | ⟨reason, later, whole, result, fetches⟩
      · exact Or.inl ⟨front, rest, whole, enough, result, fetches.cursor, fetches.buffer,
          fetches.discarded, fetches.beforeBuffer, fetches.completes, fetches.ended⟩
      · exact Or.inr ⟨reason, later, whole, result, fetches.cursor, fetches.buffer,
          fetches.discarded, fetches.beforeBuffer, fetches.completes, fetches.ended⟩
  | case7 reader bytes rest nonempty pending decoded _ something =>
      rw [List.isEmpty_iff] at nonempty
      obtain ⟨front, back, later, rfl, decodes, moreCompletes⟩ := completes.of_chunk nonempty
      have same : decoded = ⟨front, later, none⟩ :=
        decodes
      rw [same, List.isEmpty_iff] at something
      refine Or.inl ⟨front, back, rfl, fun empty => (something empty).elim, ?_, ?_⟩
      · cases front with
        | nil =>
            contradiction
        | cons =>
            rfl
      · rw [same]
        exact ⟨rfl, by simp [extend], rfl, rfl, moreCompletes, by simp [extend, goesOn]⟩

/-- What has been fetched is still before the reader. -/
theorem Fetches.expects
    {front back : List Char}
    (fetches : reader.Fetches next front back reasons) :
    reader.Grows next ∧ next.Expects (reader.buffered ++ (front ++ back)) reasons := by
  have inside := reader.cursor_le
  refine ⟨⟨fetches.cursor, ⟨front, fetches.buffer.symm⟩, fetches.discarded,
    fetches.beforeBuffer⟩, back, ?_, fetches.completes, fetches.ended⟩
  rw [buffered, buffered, fetches.cursor, fetches.buffer,
    List.drop_append_of_le_length (by simpa using inside), List.append_assoc]

/-- Pulling says that there is nothing more only when the buffer holds everything. -/
theorem Expects.pull
    (expects : reader.Expects rest reasons) :
    ∃ more,
      (more = false → reader.buffered = rest) ∧ reader.Looks rest reasons more reader.pull := by
  have same := expects
  obtain ⟨undelivered, rfl, completes, ended⟩ := expects
  unfold Reader.pull
  split
  · rename_i atEnd
    rw [ended atEnd, List.append_nil] at same ⊢
    exact ⟨false, fun _ => rfl, Grows.refl reader, Or.inl ⟨rfl, same⟩⟩
  · rename_i goesOn
    rcases pulls_pullFrom (Bool.eq_false_iff.mpr goesOn) completes with
      ⟨front, back, rfl, enough, result, fetches⟩ | ⟨reason, later, whole, result, fetches⟩
    · refine ⟨_, ?_, fetches.expects.1, Or.inl ⟨result, fetches.expects.2⟩⟩
      intro nothing
      have empty : front = [] := by
        simpa using nothing
      rw [enough empty, empty, List.append_nil, List.append_nil]
    · exact ⟨true, fun impossible => by contradiction, fetches.expects.1,
        Or.inr ⟨reason, later, whole, result, fetches.expects.2⟩⟩

/-- Looking ahead shows what comes, and changes nothing else. -/
theorem Expects.peek
    (expects : reader.Expects rest reasons)
    (count : Nat) :
    reader.Looks rest reasons rest[count]? (reader.peek count) := by
  fun_induction Reader.peek reader count with
  | case1 reader char present =>
      have inside := (Array.getElem?_eq_some_iff.mp present).1
      refine ⟨Grows.refl reader, Or.inl ⟨?_, expects⟩⟩
      rw [expects.getElem?_eq _ inside, ← present]
      rfl
  | case2 reader _ fault next pulled =>
      obtain ⟨_, _, grows, ⟨result, _⟩ | ⟨reason, later, same, result, nextExpects⟩⟩ :=
        expects.pull
      · rw [pulled] at result
        contradiction
      · rw [pulled] at result grows nextExpects
        cases result
        exact ⟨grows, Or.inr ⟨reason, later, same, rfl, nextExpects⟩⟩
  | case3 reader absent next pulled =>
      obtain ⟨_, all, grows, ⟨result, nextExpects⟩ | ⟨_, _, _, result, _⟩⟩ := expects.pull
      · rw [pulled] at result grows nextExpects
        cases result
        refine ⟨grows, Or.inl ⟨?_, nextExpects⟩⟩
        rw [← all rfl, buffered, List.getElem?_drop, Array.getElem?_toList, ← absent]
        rfl
      · rw [pulled] at result
        contradiction
  | case4 reader _ next pulled inductionHypothesis =>
      obtain ⟨_, _, grows, ⟨_, nextExpects⟩ | ⟨_, _, _, result, _⟩⟩ := expects.pull
      · rw [pulled] at grows nextExpects
        obtain ⟨moreGrows, looked⟩ := inductionHypothesis nextExpects
        exact ⟨grows.trans moreGrows, looked⟩
      · rw [pulled] at result
        contradiction

/-- The cursor moves over the next character when that is in the buffer. -/
theorem Expects.step
    {char : Char}
    (expects : reader.Expects (char :: rest) reasons)
    (inside : reader.cursor < reader.buffer.size) :
    reader.step = { reader with cursor := reader.cursor + 1, cursor_le := inside } ∧
      reader.buffer[reader.cursor]? = some char ∧ reader.step.Expects rest reasons := by
  have moved :
      reader.step = { reader with cursor := reader.cursor + 1, cursor_le := inside } := by
    rw [Reader.step, dif_pos inside]
  refine ⟨moved, (expects.getElem?_eq 0 inside).symm, ?_⟩
  obtain ⟨undelivered, whole, completes, ended⟩ := expects
  rw [moved]
  refine ⟨undelivered, ?_, completes, ended⟩
  rw [buffered, List.drop_eq_getElem_cons (by simpa using inside)] at whole
  exact (List.cons.inj whole).2

/-- Dropping what has been read leaves what comes. -/
theorem Expects.clear
    (expects : reader.Expects rest reasons) :
    reader.clear.Expects rest reasons := by
  unfold Reader.clear
  split
  · exact expects
  · obtain ⟨undelivered, whole, completes, ended⟩ := expects
    refine ⟨undelivered, ?_, completes, ended⟩
    rw [← whole]
    simp only [buffered, Array.toList_extract, List.extract_eq_take_drop, List.drop_zero]
    rw [List.take_of_length_le (by simp)]

end Expects

section Looks

variable {reader : Reader} {rest : List Char} {reasons : List String}
  {α β : Type} {answer : α} {other : β}

/-- A call that does nothing has looked. -/
theorem Expects.looks
    (expects : reader.Expects rest reasons)
    (answer : α) :
    reader.Looks rest reasons answer (.ok answer, reader) :=
  ⟨Grows.refl reader, Or.inl ⟨rfl, expects⟩⟩

/-- What has looked ahead may look ahead once more, unless it has failed. -/
theorem Looks.andThen
    {result : Except StreamFault α × Reader}
    {last : Except StreamFault β × Reader}
    (looks : reader.Looks rest reasons answer result)
    (fails : ∀ fault next, result = (.error fault, next) → last = (.error fault, next))
    (follows :
      ∀ next, result = (.ok answer, next) → reader.Grows next → next.Expects rest reasons →
        next.Looks rest reasons other last) :
    reader.Looks rest reasons other last := by
  obtain ⟨grows, ⟨answered, expects⟩ | ⟨reason, later, same, failed, expects⟩⟩ := looks
  · obtain ⟨moreGrows, looked⟩ := follows result.2 (Prod.ext answered rfl) grows expects
    exact ⟨grows.trans moreGrows, looked⟩
  · rw [fails _ result.2 (Prod.ext failed rfl)]
    exact ⟨grows, Or.inr ⟨reason, later, same, rfl, expects⟩⟩

/-- Looking ahead for several characters shows as many of them as there are. -/
theorem Expects.peekMany
    (expects : reader.Expects rest reasons)
    (start count : Nat) :
    reader.Looks rest reasons ((rest.drop start).take count) (reader.peekMany start count) := by
  induction count generalizing reader start with
  | zero =>
      simpa [Reader.peekMany] using expects.looks []
  | succ count inductionHypothesis =>
      refine (expects.peek start).andThen ?_ ?_
      · intro fault next failed
        simp only [Reader.peekMany, failed]
      · intro next peeked _ nextExpects
        simp only [Reader.peekMany, peeked]
        refine (inductionHypothesis nextExpects (start + 1)).andThen ?_ ?_
        · intro fault last failed
          simp only [failed]
        · intro last followed _ lastExpects
          have whole :
              rest[start]?.toList ++ (rest.drop (start + 1)).take count =
                (rest.drop start).take (count + 1) := by
            rw [← List.head?_drop, ← List.tail_drop]
            cases rest.drop start <;> simp
          simp only [followed, whole]
          exact lastExpects.looks _

end Looks

section Unread

variable {reader : Reader} {rest : List Char}

/-- As long as the source does not fail, a call that looks ahead gives its answer. -/
theorem Looks.answered
    {α : Type}
    {answer : α}
    {result : Except StreamFault α × Reader}
    (looks : reader.Looks rest [] answer result) :
    ∃ next, result = (.ok answer, next) ∧ reader.Grows next ∧ next.Unread rest := by
  obtain ⟨grows, ⟨answered, unread⟩ | ⟨_, _, impossible, _⟩⟩ := looks
  · exact ⟨result.2, Prod.ext answered rfl, grows, unread⟩
  · contradiction

/-- Looking ahead shows what comes, and changes nothing else. -/
theorem Unread.peek
    (unread : reader.Unread rest)
    (count : Nat) :
    ∃ next, reader.peek count = (.ok rest[count]?, next) ∧ reader.Grows next ∧ next.Unread rest :=
  (Expects.peek unread count).answered

/-- Looking ahead for several characters shows as many of them as there are. -/
theorem Unread.peekMany
    (unread : reader.Unread rest)
    (start count : Nat) :
    ∃ next,
      reader.peekMany start count = (.ok ((rest.drop start).take count), next) ∧
        reader.Grows next ∧ next.Unread rest :=
  (Expects.peekMany unread start count).answered

end Unread

end Reader

end LexicalAutomata
