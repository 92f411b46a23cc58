import LexicalAutomata.Automaton.Basic
import LexicalAutomata.Text.Place

namespace LexicalAutomata

/-!
# Scanning a text

A scan reads on as long as the automaton has a transition and remembers the last
accepting state.  Boundaries are judged in the whole text.
-/

/-- What a scan has found. -/
structure Found where
  /-- The number of characters of the match. -/
  length : Nat
  /-- The accepting state. -/
  state : Nat
  deriving Repr, DecidableEq

/-- The byte offset at which a match ends that begins at a place. -/
def Found.endOffset
    (found : Found)
    (place : Place) :
    Nat :=
  place.offset + Text.byteLength (place.rest.take found.length)

namespace Automaton

variable {τ : Type}

/-- The state that counts at a place. -/
def settle
    (automaton : Automaton τ)
    (id : Nat)
    (here : Surroundings) :
    Nat :=
  if (automaton.boundaries id).isEmpty then
    id
  else
    automaton.resolve id here.holding

/-- What is found in a state behind `count` characters, or else what was found before. -/
def foundAt
    (automaton : Automaton τ)
    (id count : Nat)
    (found : Option Found) :
    Option Found :=
  match automaton.acceptance id with
  | none =>
      found
  | some acceptance =>
      some ⟨count - acceptance.enderLength, id⟩

/--
Scan on from a place, in a state that has been reached by reading `count`
characters, when `found` is what the scan has found so far.
-/
def scanFrom
    (automaton : Automaton τ)
    (searchStart id count : Nat)
    (found : Option Found)
    (before : Option Char)
    (offset : Nat) :
    List Char →
    Option Found
  | [] =>
      let settled :=
        automaton.settle id ((Place.mk before offset []).surroundings searchStart)
      automaton.foundAt settled count found
  | char :: rest =>
      let settled :=
        automaton.settle id ((Place.mk before offset (char :: rest)).surroundings searchStart)
      let found := automaton.foundAt settled count found
      match automaton.next? settled char with
      | none =>
          found
      | some next =>
          automaton.scanFrom searchStart next (count + 1) found (some char)
            (offset + char.utf8Size) rest

/-- The longest accepted run at a place, when the search started at the offset `searchStart`. -/
def longestAt
    (automaton : Automaton τ)
    (place : Place)
    (searchStart : Nat) :
    Option Found :=
  automaton.scanFrom searchStart automaton.start 0 none place.before place.offset place.rest

end Automaton

end LexicalAutomata
