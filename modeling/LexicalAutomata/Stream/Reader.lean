import LexicalAutomata.Stream.Fault
import LexicalAutomata.Stream.Source
import LexicalAutomata.Stream.Utf8

namespace LexicalAutomata

/-!
# Readers

A reader turns the bytes of a source into characters.  It can look ahead as far
as it likes, and characters can be put back in front of those that are still to
be read.  What has been read is kept until the reader is cleared.
-/

/-- A source with the characters that have been taken from it. -/
structure Reader where
  source : Source
  /-- Bytes that have been delivered and do not yet make a character. -/
  pending : List UInt8
  /-- The characters since the reader was cleared, of which the first `cursor` have been read. -/
  buffer : Array Char
  cursor : Nat
  cursor_le : cursor ≤ buffer.size
  /-- How many characters were dropped from the front of the buffer. -/
  discarded : Nat
  /-- The last of those characters. -/
  beforeBuffer : Option Char
  /-- The source has come to its end. -/
  ended : Bool

namespace Reader

/-- A reader of a source. -/
def ofSource
    (source : Source) :
    Reader where
  source :=
    source
  pending :=
    []
  buffer :=
    #[]
  cursor :=
    0
  cursor_le :=
    Nat.zero_le _
  discarded :=
    0
  beforeBuffer :=
    none
  ended :=
    false

/-- A reader of a text, which is in the buffer from the beginning. -/
def ofText
    (text : String) :
    Reader where
  source :=
    []
  pending :=
    []
  buffer :=
    text.toList.toArray
  cursor :=
    0
  cursor_le :=
    Nat.zero_le _
  discarded :=
    0
  beforeBuffer :=
    none
  ended :=
    true

/-- The number of characters that have been read since the start. -/
def position
    (reader : Reader) :
    Nat :=
  reader.discarded + reader.cursor

/-- The character `count` places behind the cursor, if it is in the buffer. -/
def buffered?
    (reader : Reader)
    (count : Nat) :
    Option Char :=
  reader.buffer[reader.cursor + count]?

/-- The character in front of the one that is `count` places behind the cursor. -/
def before
    (reader : Reader)
    (count : Nat) :
    Option Char :=
  if reader.cursor + count = 0 then
    reader.beforeBuffer
  else
    reader.buffer[reader.cursor + count - 1]?

/-- The last character that has been read. -/
def previous
    (reader : Reader) :
    Option Char :=
  reader.before 0

/-- The characters that have been read since the reader was cleared. -/
def consumed
    (reader : Reader) :
    List Char :=
  reader.buffer.toList.take reader.cursor

/-- The characters in the buffer that are still to be read. -/
def buffered
    (reader : Reader) :
    List Char :=
  reader.buffer.toList.drop reader.cursor

/-- Put characters behind the buffer. -/
def extend
    (reader : Reader)
    (chars : List Char) :
    Reader :=
  let ⟨source, pending, buffer, cursor, cursor_le, discarded, beforeBuffer, ended⟩ := reader
  ⟨source, pending, buffer.append chars.toArray, cursor, by simp; omega, discarded, beforeBuffer,
    ended⟩

/-- Come to the end of the source, where no bytes may be left over. -/
def finish
    (reader : Reader) :
    Except StreamFault Bool × Reader :=
  (if reader.pending.isEmpty then .ok false else .error .truncated,
    { reader with source := [], ended := true })

/--
Read on from a source until there are more characters in the buffer.  The result
tells whether there are; if not, the source has come to its end.
-/
def pullFrom
    (reader : Reader) :
    Source →
    Except StreamFault Bool × Reader
  | [] =>
      reader.finish
  | .interrupted :: rest =>
      reader.pullFrom rest
  | .failure reason :: rest =>
      (.error (.failed reason), { reader with source := rest })
  | .chunk bytes :: rest =>
      if bytes.isEmpty then
        reader.finish
      else
        let pending := reader.pending ++ bytes
        let decoded := Utf8.decode pending
        match decoded.malformed with
        | some size =>
            (.error (.malformed size (pending.length - decoded.rest.length)),
              { reader with source := rest, pending })
        | none =>
            if decoded.chars.isEmpty then
              { reader with pending }.pullFrom rest
            else
              (.ok true,
                { reader with source := rest, pending := decoded.rest }.extend decoded.chars)

/-- Get more characters into the buffer. -/
def pull
    (reader : Reader) :
    Except StreamFault Bool × Reader :=
  if reader.ended then
    (.ok false, reader)
  else
    reader.pullFrom reader.source

@[simp] theorem source_extend
    (reader : Reader)
    (chars : List Char) :
    (reader.extend chars).source = reader.source :=
  rfl

theorem pullFrom_shorter
    {reader next : Reader}
    {source : Source}
    (pulled : reader.pullFrom source = (.ok true, next)) :
    next.source.length < source.length := by
  fun_induction pullFrom reader source with
  | case1 reader =>
      unfold finish at pulled
      split at pulled <;> cases pulled
  | case2 _ _ inductionHypothesis =>
      have := inductionHypothesis pulled
      simp only [List.length_cons]
      omega
  | case3 =>
      cases pulled
  | case4 reader =>
      unfold finish at pulled
      split at pulled <;> cases pulled
  | case5 =>
      cases pulled
  | case6 _ _ _ _ _ _ _ _ inductionHypothesis =>
      have := inductionHypothesis pulled
      simp only [List.length_cons]
      omega
  | case7 =>
      cases pulled
      simp

theorem pull_shorter
    {reader next : Reader}
    (pulled : reader.pull = (.ok true, next)) :
    next.source.length < reader.source.length := by
  unfold pull at pulled
  split at pulled
  · cases pulled
  · exact pullFrom_shorter pulled

/-- The character `count` places behind the cursor, if there is one. -/
def peek
    (reader : Reader)
    (count : Nat) :
    Except StreamFault (Option Char) × Reader :=
  match reader.buffered? count with
  | some char =>
      (.ok (some char), reader)
  | none =>
      match _ : reader.pull with
      | (.error fault, next) =>
          (.error fault, next)
      | (.ok false, next) =>
          (.ok none, next)
      | (.ok true, next) =>
          next.peek count
  termination_by reader.source.length
  decreasing_by exact pull_shorter ‹_›

/-- Move the cursor behind the next character, if that is in the buffer. -/
def step
    (reader : Reader) :
    Reader :=
  if inside : reader.cursor < reader.buffer.size then
    { reader with cursor := reader.cursor + 1, cursor_le := inside }
  else
    reader

/-- Read one character, if there is one. -/
def read
    (reader : Reader) :
    Except StreamFault (Option Char) × Reader :=
  match reader.peek 0 with
  | (.ok (some char), next) =>
      (.ok (some char), next.step)
  | other =>
      other

/-- Read characters until there are `count`, putting them behind `taken`. -/
def takeOnto
    (reader : Reader)
    (taken : Array Char) :
    (count : Nat) →
    Except StreamFault (List Char) × Reader
  | 0 =>
      (.ok taken.toList, reader)
  | count + 1 =>
      match reader.read with
      | (.error fault, next) =>
          (.error fault, next)
      | (.ok none, next) =>
          (.ok taken.toList, next)
      | (.ok (some char), next) =>
          next.takeOnto (taken.push char) count

/--
Read `count` characters, or as many as there are.  A run that a scan has found is read in
this way: its characters are in the buffer already, so that there is room for them.
-/
def takeUpTo
    (reader : Reader)
    (count : Nat) :
    Except StreamFault (List Char) × Reader :=
  reader.takeOnto #[] count

/--
Read `count` characters, or as many as there are.  Room for all of them is asked for before
the first one is read, and no room can be had for more bytes than `capacityLimit`.
-/
def take
    (reader : Reader)
    (count : Nat) :
    Except Panic (Except StreamFault (List Char) × Reader) :=
  if count ≤ capacityLimit then
    .ok (reader.takeUpTo count)
  else
    .error .capacityOverflow

/-- Drop the characters that have been read. -/
def clear
    (reader : Reader) :
    Reader :=
  if reader.cursor = 0 then
    reader
  else
    { reader with
      buffer := reader.buffer.extract reader.cursor
      cursor := 0
      cursor_le := Nat.zero_le _
      discarded := reader.discarded + reader.cursor
      beforeBuffer := reader.previous }

/-- Put characters in front of those that are still to be read. -/
def insert
    (reader : Reader)
    (chars : List Char) :
    Reader :=
  { reader with
    buffer :=
      reader.buffer.extract 0 reader.cursor ++ chars.toArray ++
        reader.buffer.extract reader.cursor
    cursor_le := by
      have := reader.cursor_le
      simp
      omega }

/-- The position of the reader, and how much it has in its buffer. -/
def describe
    (reader : Reader) :
    String :=
  "InputReader \x7b position: " ++ toString reader.position ++
    ", buffered: " ++ toString (reader.buffer.size - reader.cursor) ++
    ", eof: " ++ toString reader.ended ++ " \x7d"

end Reader

end LexicalAutomata
