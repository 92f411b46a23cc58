import LexicalAutomata.Lexer.Builder
import LexicalAutomata.Automaton.Scan

namespace LexicalAutomata

/-!
# Lexers

A lexer divides a text into tokens.  At each place it takes the longest run that
some pattern accepts.
-/

/-- The automaton of some patterns. -/
structure Lexer (τ : Type) where
  automaton : Automaton τ

variable {τ : Type}

/-- The lexer of all patterns. -/
def LexerBuilder.build
    [DecidableEq τ]
    (builder : LexerBuilder τ) :
    Except (Error τ) (Lexer τ) :=
  builder.automaton.map Lexer.mk

namespace Lexer

/-- The token of a run that was found, with its length, unless the run is empty. -/
def accepted?
    (lexer : Lexer τ)
    (found : Option Found) :
    Option (τ × Nat) :=
  match found with
  | none =>
      none
  | some found =>
      if found.length = 0 then
        none
      else
        (lexer.automaton.token? found.state).map fun token => (token, found.length)

/-- The token at a place, with its length. -/
def tokenAt?
    (lexer : Lexer τ)
    (place : Place) :
    Option (τ × Nat) :=
  lexer.accepted? (lexer.automaton.longestAt place place.offset)

theorem tokenAt?_length_pos
    {lexer : Lexer τ}
    {place : Place}
    {token : τ}
    {length : Nat}
    (found : lexer.tokenAt? place = some (token, length)) :
    0 < length := by
  unfold tokenAt? accepted? at found
  split at found
  · contradiction
  · split at found
    · contradiction
    · obtain ⟨_, _, same⟩ := Option.map_eq_some_iff.mp found
      cases same
      omega

/-- The token at the beginning of a text, with the byte length of its text. -/
def longestMatch?
    (lexer : Lexer τ)
    (text : String) :
    Option (τ × Nat) :=
  (lexer.tokenAt? (.start text.toList)).map fun (token, length) =>
    (token, Text.byteLength (text.toList.take length))

/-- The tokens from a place to the end of the text, each with its text. -/
def tokensFrom
    (lexer : Lexer τ)
    (place : Place) :
    Except TextError (List (τ × List Char)) :=
  if place.rest.isEmpty then
    .ok []
  else
    match _ : lexer.tokenAt? place with
    | none =>
        .error ⟨.noToken, place.offset⟩
    | some (token, length) =>
        match lexer.tokensFrom (place.advance length) with
        | .error error =>
            .error error
        | .ok tokens =>
            .ok ((token, place.rest.take length) :: tokens)
  termination_by place.rest.length
  decreasing_by
    have := tokenAt?_length_pos ‹lexer.tokenAt? place = _›
    have := List.length_pos_iff.mpr (by simpa using ‹¬ place.rest.isEmpty = true›)
    simp only [Place.rest_advance, List.length_drop]
    omega

/-- The tokens of a text, each with its text. -/
def tokenize
    (lexer : Lexer τ)
    (text : String) :
    Except TextError (List (τ × String)) :=
  (lexer.tokensFrom (.start text.toList)).map fun tokens =>
    tokens.map fun (token, chars) => (token, .ofList chars)

end Lexer

end LexicalAutomata
