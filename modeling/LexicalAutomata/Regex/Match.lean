import LexicalAutomata.Automaton.Scan

namespace LexicalAutomata

/-!
# Matches in a text

The search tries one place after the other and takes the longest accepted run at
the first place where there is one that is not empty.  The matches of a text and
what was skipped in front of them make up the whole text.
-/

/-- A match, together with the text that was skipped to find it. -/
structure Match where
  /-- The text between the start of the search and the match. -/
  skipped : List Char
  /-- The place where the match begins. -/
  place : Place
  /-- The number of characters of the match. -/
  length : Nat
  deriving Repr, DecidableEq

namespace Match

/-- The matched text. -/
def text
    (found : Match) :
    List Char :=
  found.place.rest.take found.length

/-- The byte offset of the match. -/
def start
    (found : Match) :
    Nat :=
  found.place.offset

/-- The place behind the match. -/
def after
    (found : Match) :
    Place :=
  found.place.advance found.length

/-- The byte offset of the end of the match. -/
def stop
    (found : Match) :
    Nat :=
  found.start + Text.byteLength found.text

/-- The same match, found by a search that started one character earlier. -/
def skipping
    (char : Char)
    (found : Match) :
    Match :=
  { found with skipped := char :: found.skipped }

end Match

namespace Automaton

variable {τ : Type}

/-- The length of the longest accepted run at a place, unless that is empty. -/
def nonemptyLengthAt?
    (automaton : Automaton τ)
    (place : Place)
    (searchStart : Nat) :
    Option Nat :=
  ((automaton.longestAt place searchStart).map Found.length).filter (0 < ·)

/--
Whether a match that is not empty may begin at a place.  Where the start state waits for no
boundary, such a match reads the next character from it.
-/
def mayBeginAt
    (automaton : Automaton τ)
    (place : Place) :
    Bool :=
  !(automaton.boundaries automaton.start).isEmpty ||
    place.rest.head?.any fun char => (automaton.next? automaton.start char).isSome

/-- The length of the match that a search takes at a place; most places need no scan. -/
def matchLengthAt?
    (automaton : Automaton τ)
    (place : Place)
    (searchStart : Nat) :
    Option Nat :=
  if automaton.mayBeginAt place then
    automaton.nonemptyLengthAt? place searchStart
  else
    none

/-- The first match that begins at or behind the given place. -/
def searchFrom
    (automaton : Automaton τ)
    (searchStart : Nat)
    (before : Option Char)
    (offset : Nat) :
    List Char →
    Option Match
  | [] =>
      none
  | char :: rest =>
      match automaton.matchLengthAt? ⟨before, offset, char :: rest⟩ searchStart with
      | some length =>
          some ⟨[], ⟨before, offset, char :: rest⟩, length⟩
      | none =>
          (automaton.searchFrom searchStart (some char) (offset + char.utf8Size) rest).map
            (Match.skipping char)

/-- The first match behind a place, at which the search starts. -/
def search
    (automaton : Automaton τ)
    (place : Place) :
    Option Match :=
  automaton.searchFrom place.offset place.before place.offset place.rest

theorem matchLengthAt?_pos
    {automaton : Automaton τ}
    {place : Place}
    {searchStart length : Nat}
    (found : automaton.matchLengthAt? place searchStart = some length) :
    0 < length := by
  unfold matchLengthAt? at found
  split at found
  · simpa using (Option.filter_eq_some_iff.mp found).2
  · contradiction

theorem searchFrom_shorter
    {automaton : Automaton τ}
    {searchStart : Nat}
    {before : Option Char}
    {offset : Nat}
    {rest : List Char}
    {found : Match}
    (search : automaton.searchFrom searchStart before offset rest = some found) :
    found.after.rest.length < rest.length := by
  induction rest generalizing before offset found with
  | nil =>
      simp [searchFrom] at search
  | cons char rest inductionHypothesis =>
      unfold searchFrom at search
      split at search
      · rename_i length matched
        cases search
        have := matchLengthAt?_pos matched
        simp only [Match.after, Place.rest_advance, List.length_drop, List.length_cons]
        omega
      · obtain ⟨later, second, rfl⟩ := Option.map_eq_some_iff.mp search
        have := inductionHypothesis second
        simp only [Match.after, Match.skipping, List.length_cons] at this ⊢
        omega

/-- The matches behind a place, and the text behind the last one. -/
def tile
    (automaton : Automaton τ)
    (place : Place) :
    List Match × List Char :=
  match _ : automaton.search place with
  | none =>
      ([], place.rest)
  | some found =>
      let (others, rest) := automaton.tile found.after
      (found :: others, rest)
  termination_by place.rest.length
  decreasing_by exact searchFrom_shorter ‹_›

end Automaton

end LexicalAutomata
