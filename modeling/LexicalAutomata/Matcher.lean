import LexicalAutomata.Lexer.Builder
import LexicalAutomata.Automaton.Scan

namespace LexicalAutomata

/-!
# Matching character by character

A matcher is fed with one character after the other, and tells after each one
whether the input so far is accepted.  Where a boundary is to be decided, it sees
the next character only, and it judges acceptance as if the input ended here.
-/

/-- What is known after a character. -/
inductive Status where
  /-- The input may still become a match. -/
  | possible
  /-- The input is a match. -/
  | accepted
  /-- No match begins with the input. -/
  | failed
  deriving Repr, DecidableEq

/-- An automaton in the middle of its input. -/
structure Matcher (τ : Type) where
  automaton : Automaton τ
  /-- The state that the input leads to, unless it has failed. -/
  state : Option Nat
  /-- The last character of the input. -/
  before : Option Char
  /-- The accepting state of the whole input, if that is a match. -/
  accepting : Option Nat

variable {τ : Type}

namespace Matcher

/-- Begin with an empty input. -/
def clear
    (matcher : Matcher τ) :
    Matcher τ :=
  { matcher with state := some matcher.automaton.start, before := none, accepting := none }

/-- The matcher of an automaton. -/
def ofAutomaton
    (automaton : Automaton τ) :
    Matcher τ :=
  ⟨automaton, some automaton.start, none, none⟩

/-- The token of the input, if that is a match. -/
def matched?
    (matcher : Matcher τ) :
    Option τ :=
  matcher.accepting.bind matcher.automaton.token?

/-- What surrounds the end of the input when a character comes next. -/
def surroundings
    (matcher : Matcher τ)
    (char : Char) :
    Surroundings where
  before :=
    matcher.before
  ahead :=
    [char]
  atInputStart :=
    matcher.before.isNone
  atSearchStart :=
    matcher.before.isNone

/-- What surrounds the end of an input that ends with a character. -/
def surroundingsBehind
    (char : Char) :
    Surroundings where
  before :=
    some char
  ahead :=
    []
  atInputStart :=
    false
  atSearchStart :=
    false

/-- Feed a character. -/
def feed
    (matcher : Matcher τ)
    (char : Char) :
    Status × Matcher τ :=
  match matcher.state with
  | none =>
      (.failed, matcher)
  | some state =>
      let settled := matcher.automaton.settle state (matcher.surroundings char)
      match matcher.automaton.next? settled char with
      | none =>
          (.failed, { matcher with state := none, before := some char, accepting := none })
      | some next =>
          let ended := matcher.automaton.settle next (surroundingsBehind char)
          if (matcher.automaton.acceptance ended).isSome then
            (.accepted,
              { matcher with state := some next, before := some char, accepting := some ended })
          else
            (.possible, { matcher with state := some next, before := some char, accepting := none })

/--
Feed the characters of a text until the matcher fails; `status` is the answer
when there are none.
-/
def feedFrom
    (status : Status)
    (matcher : Matcher τ) :
    List Char →
    Status × Matcher τ
  | [] =>
      (status, matcher)
  | char :: rest =>
      match matcher.feed char with
      | (.failed, next) =>
          (.failed, next)
      | (status, next) =>
          next.feedFrom status rest

/-- Feed a text, and tell what is known after its last character. -/
def feedText
    (matcher : Matcher τ)
    (text : String) :
    Status × Matcher τ :=
  matcher.feedFrom .possible text.toList

end Matcher

/-- The matcher of all patterns. -/
def LexerBuilder.matcher
    [DecidableEq τ]
    (builder : LexerBuilder τ) :
    Except (Error τ) (Matcher τ) :=
  builder.automaton.map Matcher.ofAutomaton

end LexicalAutomata
