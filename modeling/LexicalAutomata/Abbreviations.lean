import LexicalAutomata.Lexer.Builder
import LexicalAutomata.Regex.Escape

namespace LexicalAutomata

/-!
# Abbreviations of names

A name may be cut short as long as what is left could be the beginning of names
with one and the same token only.  A whole name stands for itself even if longer
names begin with it.
-/

/-- The automaton of some names. -/
structure Abbreviations (τ : Type) where
  automaton : Automaton τ

variable {τ : Type}

namespace Abbreviations

/-- Add the names of a list, each with its token. -/
def addNames
    [PropertyParser]
    (caseInsensitive : Bool)
    (builder : LexerBuilder τ) :
    List (String × τ) →
    Except TextError (LexerBuilder τ)
  | [] =>
      .ok builder
  | (name, token) :: rest =>
      match builder.add (escape name) token { caseInsensitive } with
      | (.error error, _) =>
          .error error
      | (.ok _, builder) =>
          addNames caseInsensitive builder rest

/-- The abbreviations of some names, each with its token. -/
def ofNames
    [PropertyParser]
    [DecidableEq τ]
    (names : List (String × τ))
    (caseInsensitive : Bool) :
    Except (Error τ) (Abbreviations τ) :=
  match addNames caseInsensitive .empty names with
  | .error error =>
      .error (.text error)
  | .ok builder =>
      builder.automaton.map Abbreviations.mk

/-- The state that a text leads to. -/
def walk
    (automaton : Automaton τ)
    (state : Nat) :
    List Char →
    Option Nat
  | [] =>
      some state
  | char :: rest =>
      match automaton.next? state char with
      | none =>
          none
      | some next =>
          walk automaton next rest

/-- What a search has still to visit, and what it has seen. -/
structure Frontier where
  /-- The states that are still to be visited, the next one first. -/
  stack : List Nat
  /-- Whether each state has been seen. -/
  seen : Array Bool

namespace Frontier

/-- The search begins at a state. -/
def start
    (size id : Nat) :
    Frontier :=
  ⟨[id], (Array.replicate size false).setIfInBounds id true⟩

/-- Put a state on the stack unless it has been seen. -/
def discover
    (frontier : Frontier)
    (next : Nat) :
    Frontier :=
  if frontier.seen[next]? = some false then
    ⟨next :: frontier.stack, frontier.seen.setIfInBounds next true⟩
  else
    frontier

/-- A bound on the steps of the search that are left. -/
def remaining
    (frontier : Frontier) :
    Nat :=
  2 * frontier.seen.countP (! ·) + frontier.stack.length

/-- A state that is put on the stack is no longer unseen, and leaves no more steps than before. -/
theorem remaining_discover_le
    (frontier : Frontier)
    (next : Nat) :
    (frontier.discover next).remaining ≤ frontier.remaining := by
  unfold discover
  split
  · rename_i unseen
    have fewer : (frontier.seen.setIfInBounds next true).countP (! ·) <
        frontier.seen.countP (! ·) :=
      countP_setIfInBounds_lt unseen rfl rfl
    simp only [remaining, List.length_cons]
    omega
  · exact Nat.le_refl _

/-- The same holds of several states. -/
theorem remaining_foldl_discover_le
    (frontier : Frontier)
    (states : List Nat) :
    (states.foldl discover frontier).remaining ≤ frontier.remaining := by
  induction states generalizing frontier with
  | nil =>
      exact Nat.le_refl _
  | cons next rest inductionHypothesis =>
      exact Nat.le_trans (inductionHypothesis _) (frontier.remaining_discover_le next)

end Frontier

/--
Go on with a search for tokens, which has found at most one so far; a second one that
differs from it ends the search.
-/
def uniqueFrom?
    [DecidableEq τ]
    (automaton : Automaton τ)
    (found : Option τ) :
    Frontier →
    Option τ
  | ⟨[], _⟩ =>
      found
  | ⟨id :: rest, seen⟩ =>
      let stored := automaton.token? id
      if stored.isSome ∧ found.isSome ∧ stored ≠ found then
        none
      else
        uniqueFrom? automaton (stored.or found)
          ((automaton.successors id).foldl Frontier.discover ⟨rest, seen⟩)
  termination_by frontier => frontier.remaining
  decreasing_by
    refine Nat.lt_of_le_of_lt (Frontier.remaining_foldl_discover_le _ _) ?_
    simp [Frontier.remaining]

/-- The token of all states with a token that a state leads to, if they have one and the same. -/
def uniqueBelow?
    [DecidableEq τ]
    (automaton : Automaton τ)
    (id : Nat) :
    Option τ :=
  uniqueFrom? automaton none (.start automaton.size id)

/-- The token of the name, or of the names, that a text stands for. -/
def find?
    [DecidableEq τ]
    (abbreviations : Abbreviations τ)
    (text : String) :
    Option τ :=
  let automaton := abbreviations.automaton
  match walk automaton automaton.start text.toList with
  | none =>
      none
  | some state =>
      match automaton.token? state with
      | some token =>
          some token
      | none =>
          uniqueBelow? automaton state

end Abbreviations

end LexicalAutomata
