import LexicalAutomata.Boundary.Surroundings
import LexicalAutomata.Text.Offset

namespace LexicalAutomata

/-!
# Places in a text

A place is between two characters of a text.  It knows the character in front of
it, its byte offset, and the text behind it.
-/

/-- A place in a text. -/
structure Place where
  before : Option Char
  /-- The number of bytes in front of the place. -/
  offset : Nat
  rest : List Char
  deriving Repr, DecidableEq

namespace Place

/-- The place in front of a text. -/
def start
    (text : List Char) :
    Place :=
  ⟨none, 0, text⟩

/-- The place `count` characters further on, or the end of the text. -/
def advance
    (place : Place) :
    Nat → Place
  | 0 =>
      place
  | count + 1 =>
      match place with
      | ⟨_, _, []⟩ =>
          place
      | ⟨_, offset, char :: rest⟩ =>
          advance ⟨some char, offset + char.utf8Size, rest⟩ count

@[simp] theorem rest_advance
    (place : Place)
    (count : Nat) :
    (place.advance count).rest = place.rest.drop count := by
  induction count generalizing place with
  | zero =>
      simp [advance]
  | succ count inductionHypothesis =>
      obtain ⟨before, offset, rest⟩ := place
      cases rest with
      | nil =>
          simp [advance]
      | cons char rest =>
          simp [advance, inductionHypothesis]

/-- The first place in a list of characters that is not in front of `offset`. -/
def seekFrom
    (offset : Nat)
    (before : Option Char)
    (reached : Nat) :
    List Char →
    Option Place
  | [] =>
      if offset ≤ reached then
        some ⟨before, reached, []⟩
      else
        none
  | char :: rest =>
      if offset ≤ reached then
        some ⟨before, reached, char :: rest⟩
      else
        seekFrom offset (some char) (reached + char.utf8Size) rest

/-- The first place of a text at or behind a byte offset; there is none behind the end. -/
def atOrAfter?
    (text : List Char)
    (offset : Nat) :
    Option Place :=
  seekFrom offset none 0 text

/-- The place of a text at a byte offset, unless it would be inside a character. -/
def at?
    (text : List Char)
    (offset : Nat) :
    Option Place :=
  (atOrAfter? text offset).filter fun place => place.offset == offset

/-- What surrounds a place; the search started at the byte offset `searchStart`. -/
def surroundings
    (place : Place)
    (searchStart : Nat) :
    Surroundings where
  before :=
    place.before
  ahead :=
    place.rest.take 3
  atInputStart :=
    place.offset == 0
  atSearchStart :=
    place.offset == searchStart

end Place

end LexicalAutomata
