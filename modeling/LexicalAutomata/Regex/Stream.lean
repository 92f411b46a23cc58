import LexicalAutomata.Regex.Split
import LexicalAutomata.Stream.Scan
import LexicalAutomata.Stream.Sink

namespace LexicalAutomata

/-!
# Searching a stream

A search reads what it skips and the match behind it, so that the next search goes
on from there.  What has been read is dropped from the buffer from time to time.
-/

/-- What has been read is dropped whenever this many characters have been skipped. -/
def skipsBetweenClears : Nat :=
  8192

/-- What is done with a skipped character; `σ` is what has come of those before it. -/
abbrev Skip (σ : Type) :=
  σ → Char → Except StreamFault Unit × σ

namespace Skip

/-- Drop the character. -/
def drop : Skip Unit :=
  fun _ _ => (.ok (), ())

/-- Put the character behind those before it. -/
def collect : Skip (Array Char) :=
  fun chars char => (.ok (), chars.push char)

/-- Write the character. -/
def write : Skip Sink :=
  fun sink char => sink.writeText [char]

end Skip

namespace Reader

/-- Read a run that has been found, and drop it from the buffer. -/
def takeMatch
    (reader : Reader)
    (length : Nat) :
    Except StreamFault (List Char) × Reader :=
  match reader.clear.takeUpTo length with
  | (.error fault, next) =>
      (.error fault, next)
  | (.ok text, next) =>
      (.ok text, next.clear)

theorem takeMatch_shorter
    {reader : Reader}
    {length : Nat}
    (positive : 0 < length)
    (inside : reader.cursor < reader.buffer.size) :
    (reader.takeMatch length).2.remaining < reader.remaining := by
  have cleared : reader.clear.cursor < reader.clear.buffer.size := by
    unfold clear
    split
    · exact inside
    · simp
      omega
  have less := takeUpTo_shorter positive cleared
  rw [clear_remaining reader] at less
  unfold takeMatch
  split <;> rename_i result next taken <;> rw [taken] at less
  · exact less
  · simpa [clear_remaining] using less

/-- Drop what has been read if enough characters have been skipped. -/
def clearSometimes
    (reader : Reader)
    (skipped : Nat) :
    Reader :=
  if skipped % skipsBetweenClears = 0 then
    reader.clear
  else
    reader

@[simp] theorem clearSometimes_remaining
    (reader : Reader)
    (skipped : Nat) :
    (reader.clearSometimes skipped).remaining = reader.remaining := by
  unfold clearSometimes
  split
  · exact clear_remaining reader
  · rfl

end Reader

/-- The length of a run that was found, unless it is empty. -/
def positiveLength? : Option Found → Option Nat
  | none =>
      none
  | some found =>
      if found.length = 0 then
        none
      else
        some found.length

namespace Automaton

variable {τ σ : Type}

/--
Read on to the first match that is not empty, and behind it; `skipped` characters
have been skipped so far, and `state` has come of them.
-/
def seekIn
    (automaton : Automaton τ)
    (skip : Skip σ)
    (searchStart skipped : Nat)
    (state : σ)
    (reader : Reader) :
    Except StreamFault (Option (List Char)) × σ × Reader :=
  match _ : automaton.longestIn reader searchStart with
  | (.error fault, next) =>
      (.error fault, state, next)
  | (.ok found, next) =>
      match positiveLength? found with
      | some length =>
          match next.takeMatch length with
          | (.error fault, last) =>
              (.error fault, state, last)
          | (.ok text, last) =>
              (.ok (some text), state, last)
      | none =>
          match _ : next.read with
          | (.error fault, last) =>
              (.error fault, state, last)
          | (.ok none, last) =>
              (.ok none, state, last.clear)
          | (.ok (some char), last) =>
              match skip state char with
              | (.error fault, state) =>
                  (.error fault, state, last)
              | (.ok (), state) =>
                  automaton.seekIn skip searchStart (skipped + 1) state
                    (last.clearSometimes (skipped + 1))
  termination_by reader.remaining
  decreasing_by
    have le := automaton.scanIn_remaining_le searchStart automaton.start 0 none reader
    have scanned := ‹automaton.longestIn reader searchStart = _›
    unfold longestIn at scanned
    rw [scanned] at le
    have less := Reader.read_shorter ‹_›
    rw [Reader.clearSometimes_remaining]
    exact Nat.lt_of_lt_of_le less le

theorem longestIn_remaining_le
    {automaton : Automaton τ}
    {searchStart : Nat}
    {reader next : Reader}
    {result : Except StreamFault (Option Found)}
    (scanned : automaton.longestIn reader searchStart = (result, next)) :
    next.remaining ≤ reader.remaining := by
  have le := automaton.scanIn_remaining_le searchStart automaton.start 0 none reader
  unfold longestIn at scanned
  rwa [scanned] at le

/-- Finding a match takes characters away. -/
theorem seekIn_shorter
    {automaton : Automaton τ}
    {skip : Skip σ}
    {searchStart skipped : Nat}
    {before after : σ}
    {reader next : Reader}
    {text : List Char}
    (found :
      automaton.seekIn skip searchStart skipped before reader = (.ok (some text), after, next)) :
    next.remaining < reader.remaining := by
  fun_induction seekIn automaton skip searchStart skipped before reader with
  | case1 =>
      cases found
  | case2 =>
      cases found
  | case3 _ _ reader best after scanned length positive text last taken =>
      cases found
      have le := longestIn_remaining_le scanned
      unfold positiveLength? at positive
      split at positive
      · contradiction
      · split at positive
        · contradiction
        · cases positive
          have inside := lt_size_of_longestIn (by omega) scanned
          have less := Reader.takeMatch_shorter (Nat.pos_of_ne_zero ‹_›) inside
          rw [taken] at less
          exact Nat.lt_of_lt_of_le less le
  | case4 =>
      cases found
  | case5 =>
      cases found
  | case6 =>
      cases found
  | case7 _ _ reader _ after scanned _ char last read _ _ inductionHypothesis =>
      have le := longestIn_remaining_le scanned
      have less := Reader.read_shorter read
      have := inductionHypothesis found
      rw [Reader.clearSometimes_remaining] at this
      omega

/-- Read on to the first match behind the cursor, where the search starts. -/
def searchIn
    (automaton : Automaton τ)
    (skip : Skip σ)
    (state : σ)
    (reader : Reader) :
    Except StreamFault (Option (List Char)) × σ × Reader :=
  automaton.seekIn skip reader.position 0 state reader

/-- Copy a stream to a sink, with `replacement` in the place of every match. -/
def replaceIn
    (automaton : Automaton τ)
    (replacement : List Char)
    (sink : Sink)
    (reader : Reader) :
    Except StreamFault Unit × Sink × Reader :=
  match _ : automaton.searchIn Skip.write sink reader with
  | (.error fault, sink, next) =>
      (.error fault, sink, next)
  | (.ok none, sink, next) =>
      (.ok (), sink, next)
  | (.ok (some _), sink, next) =>
      match sink.writeText replacement with
      | (.error fault, sink) =>
          (.error fault, sink, next)
      | (.ok (), sink) =>
          automaton.replaceIn replacement sink next
  termination_by reader.remaining
  decreasing_by exact seekIn_shorter ‹_›

/--
Read the fields in front of the matches, as long as separators may be used, behind
those in `fields`; then comes what has been read of the last field.
-/
def fieldsIn
    (automaton : Automaton τ)
    (separators : Option Nat)
    (fields : Array (List Char))
    (reader : Reader) :
    Except StreamFault (Array (List Char) × Array Char) × Reader :=
  if separators = some fields.size then
    (.ok (fields, #[]), reader)
  else
    match _ : automaton.searchIn Skip.collect #[] reader with
    | (.error fault, _, next) =>
        (.error fault, next)
    | (.ok none, field, next) =>
        (.ok (fields, field), next)
    | (.ok (some _), field, next) =>
        automaton.fieldsIn separators (fields.push field.toList) next
  termination_by reader.remaining
  decreasing_by exact seekIn_shorter ‹_›

end Automaton

/-- Read everything behind what has been read of a field. -/
def Reader.readOnto
    (reader : Reader)
    (field : Array Char) :
    Except StreamFault (List Char) × Reader :=
  match _ : reader.read with
  | (.error fault, next) =>
      (.error fault, next)
  | (.ok none, next) =>
      (.ok field.toList, next.clear)
  | (.ok (some char), next) =>
      next.readOnto (field.push char)
  termination_by reader.remaining
  decreasing_by exact Reader.read_shorter ‹_›

namespace Regex

/-- Read on behind the first match of a stream, if it has one. -/
def searchIn
    (regex : Regex)
    (reader : Reader) :
    Except StreamFault (Option (List Char)) × Reader :=
  let (found, _, next) := regex.automaton.searchIn Skip.drop () reader
  (found, next)

/-- Read on behind the first match of a stream, which must have one. -/
def findIn
    (regex : Regex)
    (reader : Reader) :
    Except (Error Unit) (List Char) × Reader :=
  let position := reader.position
  match regex.searchIn reader with
  | (.error fault, next) =>
      (.error (.stream fault), next)
  | (.ok none, next) =>
      (.error (.text (regex.noMatch position)), next)
  | (.ok (some text), next) =>
      (.ok text, next)

/-- Copy a stream to a sink, with `replacement` in the place of every match. -/
def replaceIn
    (regex : Regex)
    (replacement : String)
    (sink : Sink)
    (reader : Reader) :
    Except StreamFault Unit × Sink × Reader :=
  regex.automaton.replaceIn replacement.toList sink reader

/-- Copy a source to a sink, with `replacement` in the place of every match. -/
def replaceSource
    (regex : Regex)
    (replacement : String)
    (sink : Sink)
    (source : Source) :
    Except StreamFault Unit × Sink :=
  let (result, sink, _) := regex.replaceIn replacement sink (.ofSource source)
  (result, sink)

/-- The fields around the matches of a stream, which is read to its end. -/
def splitIn
    (regex : Regex)
    (limit : Int)
    (reader : Reader) :
    Except StreamFault (List (List Char)) × Reader :=
  match regex.automaton.fieldsIn (separatorLimit limit) #[] reader with
  | (.error fault, next) =>
      (.error fault, next)
  | (.ok (fields, field), next) =>
      match next.readOnto field with
      | (.error fault, last) =>
          (.error fault, last)
      | (.ok field, last) =>
          (.ok (limitFields fields.toList field limit), last)

end Regex

end LexicalAutomata
