import LexicalAutomata.Proofs.Regex.Match
import LexicalAutomata.Proofs.Stream.Scan

namespace LexicalAutomata

/-!
# Searching a stream is searching its text

A search of a stream tries the same places as a search of the text and finds the same
there.  It hands on what it skips, takes the match as it stands in the text, and leaves
the reader at the place behind it.
-/

variable {σ τ : Type}

/-- A skip takes characters one after the other without a fault. -/
inductive Skip.Passes
    (skip : Skip σ) :
    σ → List Char → σ → Prop
  | nil {state : σ} :
      Passes skip state [] state
  | cons {state middle last : σ} {char : Char} {rest : List Char} :
      skip state char = (.ok (), middle) →
      Passes skip middle rest last →
      Passes skip state (char :: rest) last

/-- Without its length, an empty run counts as nothing in the stream as in the text. -/
theorem positiveLength?_longestAt
    (automaton : Automaton τ)
    (place : Place)
    (searchStart : Nat) :
    positiveLength? (automaton.longestAt place searchStart) =
      automaton.nonemptyLengthAt? place searchStart := by
  unfold Automaton.nonemptyLengthAt?
  cases automaton.longestAt place searchStart with
  | none =>
      rfl
  | some found =>
      by_cases empty : found.length = 0
      · simp [positiveLength?, Option.filter, empty]
      · simp [positiveLength?, Option.filter, empty, Nat.pos_of_ne_zero empty]

namespace Automaton

variable {automaton : Automaton τ} {skip : Skip σ} {reader : Reader} {text rest : List Char}
  {place origin : Place} {searchStart : Nat} {state last : σ} {before : Option Char}
  {offset : Nat} {found : Match}

/-- The calls that a search makes at one place. -/
theorem seekIn_eq
    (automaton : Automaton τ)
    (skip : Skip σ)
    (searchStart skipped : Nat)
    (state : σ)
    (reader : Reader) :
    automaton.seekIn skip searchStart skipped state reader =
      match automaton.longestIn reader searchStart with
      | (.error fault, next) =>
          (.error fault, state, next)
      | (.ok found, next) =>
          match positiveLength? found with
          | some length =>
              match next.takeMatch length with
              | (.error fault, last) =>
                  (.error fault, state, last)
              | (.ok text, last) =>
                  (.ok (some text), state, last)
          | none =>
              match next.read with
              | (.error fault, last) =>
                  (.error fault, state, last)
              | (.ok none, last) =>
                  (.ok none, state, last.clear)
              | (.ok (some char), last) =>
                  match skip state char with
                  | (.error fault, state) =>
                      (.error fault, state, last)
                  | (.ok (), state) =>
                      automaton.seekIn skip searchStart (skipped + 1) state
                        (last.clearSometimes (skipped + 1)) := by
  rw [seekIn]
  rcases automaton.longestIn reader searchStart with ⟨fault | found, next⟩
  · rfl
  · dsimp only
    cases positiveLength? found with
    | some length =>
        rfl
    | none =>
        dsimp only
        rcases next.read with ⟨fault | none | char, last⟩ <;> rfl

/-- Where the text has a match, the stream has it too. -/
theorem seekIn_of_match
    (isAt : reader.IsAt text place)
    (follows : origin.Follows text searchStart)
    (skipped : Nat)
    {length : Nat}
    (matched : automaton.nonemptyLengthAt? place origin.offset = some length) :
    ∃ next,
      automaton.seekIn skip searchStart skipped state reader =
          (.ok (some (place.rest.take length)), state, next) ∧
        next.IsAt text (place.advance length) := by
  obtain ⟨looked, scanned, lookedAt⟩ := automaton.longestIn_of_isAt isAt follows
  obtain ⟨next, taken, nextAt⟩ := lookedAt.takeMatch (bounds_of_nonemptyLengthAt? matched).2
  refine ⟨next, ?_, nextAt⟩
  rw [seekIn_eq, scanned]
  simp only [positiveLength?_longestAt, matched, taken]

/-- Where the text has no match, the character is skipped. -/
theorem seekIn_of_skip
    (isAt : reader.IsAt text ⟨before, offset, char :: rest⟩)
    (follows : origin.Follows text searchStart)
    (skipped : Nat)
    (unmatched : automaton.nonemptyLengthAt? ⟨before, offset, char :: rest⟩ origin.offset = none)
    {middle : σ}
    (skips : skip state char = (.ok (), middle)) :
    ∃ next,
      automaton.seekIn skip searchStart skipped state reader =
          automaton.seekIn skip searchStart (skipped + 1) middle next ∧
        next.IsAt text ⟨some char, offset + char.utf8Size, rest⟩ := by
  obtain ⟨looked, scanned, lookedAt⟩ := automaton.longestIn_of_isAt isAt follows
  obtain ⟨next, read, nextAt⟩ := lookedAt.read_cons
  refine ⟨next.clearSometimes (skipped + 1), ?_, nextAt.clearSometimes _⟩
  rw [seekIn_eq, scanned]
  simp only [positiveLength?_longestAt, unmatched, read, skips]

/-- At its end the text has no match, and the stream is at its end as well. -/
theorem seekIn_of_end
    (isAt : reader.IsAt text ⟨before, offset, []⟩)
    (follows : origin.Follows text searchStart)
    (skipped : Nat) :
    ∃ next,
      automaton.seekIn skip searchStart skipped state reader = (.ok none, state, next) ∧
        next.IsAt text ⟨before, offset, []⟩ := by
  obtain ⟨looked, scanned, lookedAt⟩ := automaton.longestIn_of_isAt isAt follows
  obtain ⟨next, read, nextAt⟩ := lookedAt.read_nil
  refine ⟨next.clear, ?_, nextAt.clear⟩
  rw [seekIn_eq, scanned]
  simp only [positiveLength?_longestAt, nonemptyLengthAt?_nil, read]

/-- A match of the text is found in the stream, behind what is skipped to find it. -/
theorem seekIn_of_searchFrom_eq_some
    (isAt : reader.IsAt text ⟨before, offset, rest⟩)
    (follows : origin.Follows text searchStart)
    (skipped : Nat)
    (search : automaton.searchFrom origin.offset before offset rest = some found)
    (passes : skip.Passes state found.skipped last) :
    ∃ next,
      automaton.seekIn skip searchStart skipped state reader =
          (.ok (some found.text), last, next) ∧
        next.IsAt text found.after := by
  induction rest generalizing reader before offset found skipped state with
  | nil =>
      contradiction
  | cons char rest inductionHypothesis =>
      rw [searchFrom, matchLengthAt?_eq] at search
      split at search
      · rename_i length matched
        cases search
        cases passes
        exact seekIn_of_match isAt follows skipped matched
      · rename_i unmatched
        obtain ⟨later, laterSearch, rfl⟩ := Option.map_eq_some_iff.mp search
        cases passes with
        | cons skips passes =>
            obtain ⟨next, onward, nextAt⟩ := seekIn_of_skip isAt follows skipped unmatched skips
            rw [onward]
            have laterFound := inductionHypothesis nextAt (skipped + 1) laterSearch passes
            exact laterFound

/-- When the text has no match, the stream is skipped to its end. -/
theorem seekIn_of_searchFrom_eq_none
    (isAt : reader.IsAt text ⟨before, offset, rest⟩)
    (follows : origin.Follows text searchStart)
    (skipped : Nat)
    (search : automaton.searchFrom origin.offset before offset rest = none)
    (passes : skip.Passes state rest last) :
    ∃ next behind,
      automaton.seekIn skip searchStart skipped state reader = (.ok none, last, next) ∧
        next.IsAt text behind ∧ behind.rest = [] := by
  induction rest generalizing reader before offset skipped state with
  | nil =>
      cases passes
      obtain ⟨next, sought, nextAt⟩ := seekIn_of_end isAt follows skipped
      exact ⟨next, _, sought, nextAt, rfl⟩
  | cons char rest inductionHypothesis =>
      rw [searchFrom, matchLengthAt?_eq] at search
      split at search
      · contradiction
      · rename_i unmatched
        have laterSearch := Option.map_eq_none_iff.mp search
        cases passes with
        | cons skips passes =>
            obtain ⟨next, onward, nextAt⟩ := seekIn_of_skip isAt follows skipped unmatched skips
            rw [onward]
            exact inductionHypothesis nextAt (skipped + 1) laterSearch passes

/-- A search of the stream from a place on finds the first match behind the place. -/
theorem searchIn_of_search_eq_some
    (isAt : reader.IsAt text place)
    (search : automaton.search place = some found)
    (passes : skip.Passes state found.skipped last) :
    ∃ next,
      automaton.searchIn skip state reader = (.ok (some found.text), last, next) ∧
        next.IsAt text found.after :=
  seekIn_of_searchFrom_eq_some isAt isAt.follows 0 search passes

/-- A search of the stream without a match goes to its end. -/
theorem searchIn_of_search_eq_none
    (isAt : reader.IsAt text place)
    (search : automaton.search place = none)
    (passes : skip.Passes state place.rest last) :
    ∃ next behind,
      automaton.searchIn skip state reader = (.ok none, last, next) ∧
        next.IsAt text behind ∧ behind.rest = [] :=
  seekIn_of_searchFrom_eq_none isAt isAt.follows 0 search passes

end Automaton

end LexicalAutomata
