import LexicalAutomata.Automaton.Acceptance

namespace LexicalAutomata

/-!
# Deterministic automata

A state reads a character along the transition whose span contains it.  Before
that, a state that waits for boundaries is resolved: it is exchanged for the
state that belongs to those of its boundaries that hold.
-/

/-- Reading a character from `first` to below `limit` leads to the state `target`. -/
structure Transition where
  first : Nat
  limit : Nat
  target : Nat
  deriving Repr, DecidableEq

/-- While exactly `holding` holds of the boundaries in question, the state `target` counts. -/
structure Resolution where
  holding : BoundarySet
  target : Nat
  deriving DecidableEq

/-- A state of an automaton. -/
structure State (τ : Type) where
  /-- Disjoint spans in ascending order. -/
  transitions : List Transition
  /-- The boundaries that the state waits for. -/
  boundaries : BoundarySet
  /-- For sets of those boundaries; a set that is not listed leaves the state as it is. -/
  resolutions : List Resolution
  acceptance : Option (Acceptance τ)
  deriving DecidableEq

instance {τ : Type} : Inhabited (State τ) :=
  ⟨⟨[], .empty, [], none⟩⟩

/-- States numbered from zero. -/
structure Automaton (τ : Type) where
  states : Array (State τ)
  start : Nat
  deriving DecidableEq

namespace State

variable {τ : Type}

/-- Where a state leads by a resolution or by a transition, in this order. -/
def successors
    (state : State τ) :
    List Nat :=
  state.resolutions.map Resolution.target ++ state.transitions.map Transition.target

/-- Where a state leads, and how many characters that takes. -/
def edges
    (state : State τ) :
    List (Nat × Nat) :=
  state.resolutions.map (fun resolution => (resolution.target, 0)) ++
    state.transitions.map (fun transition => (transition.target, 1))

/-- The state behind the transition whose span contains a code point. -/
def next?
    (state : State τ)
    (codePoint : Nat) :
    Option Nat :=
  match state.transitions.find? fun transition => codePoint < transition.limit with
  | none =>
      none
  | some transition =>
      if transition.first ≤ codePoint then
        some transition.target
      else
        none

/-- The state that counts in the place of this one while the given boundaries hold. -/
def resolved?
    (state : State τ)
    (holding : BoundarySet) :
    Option Nat :=
  (state.resolutions.find? fun resolution =>
    resolution.holding == holding.inter state.boundaries).map Resolution.target

end State

namespace Automaton

variable {τ : Type}

/-- The number of states. -/
def size
    (automaton : Automaton τ) :
    Nat :=
  automaton.states.size

/-- The state with a given number; there is nothing behind a number that no state has. -/
def state
    (automaton : Automaton τ)
    (id : Nat) :
    State τ :=
  automaton.states[id]?.getD default

/-- The state that is reached by reading a character. -/
def next?
    (automaton : Automaton τ)
    (id : Nat)
    (char : Char) :
    Option Nat :=
  (automaton.state id).next? char.toNat

/-- The boundaries that a state waits for. -/
def boundaries
    (automaton : Automaton τ)
    (id : Nat) :
    BoundarySet :=
  (automaton.state id).boundaries

/-- The state that counts while the given boundaries hold. -/
def resolve
    (automaton : Automaton τ)
    (id : Nat)
    (holding : BoundarySet) :
    Nat :=
  ((automaton.state id).resolved? holding).getD id

/-- What a state accepts. -/
def acceptance
    (automaton : Automaton τ)
    (id : Nat) :
    Option (Acceptance τ) :=
  (automaton.state id).acceptance

/-- The token that a state accepts. -/
def token?
    (automaton : Automaton τ)
    (id : Nat) :
    Option τ :=
  (automaton.acceptance id).map Acceptance.token

/-- Where a state leads by a resolution or by a transition, in this order. -/
def successors
    (automaton : Automaton τ)
    (id : Nat) :
    List Nat :=
  (automaton.state id).successors

/-- Whether a state leads nowhere. -/
def isDeadEnd
    (automaton : Automaton τ)
    (id : Nat) :
    Bool :=
  (automaton.successors id).isEmpty

end Automaton

/--
If an entry with a property is replaced by one without it, one entry fewer has the property.
So a search that marks every state when it comes to it ends.
-/
theorem countP_setIfInBounds_lt
    {α : Type}
    {property : α → Bool}
    {entries : Array α}
    {index : Nat}
    {former latter : α}
    (entry : entries[index]? = some former)
    (has : property former = true)
    (lacks : property latter = false) :
    (entries.setIfInBounds index latter).countP property < entries.countP property := by
  obtain ⟨inside, same⟩ := Array.getElem?_eq_some_iff.mp entry
  have counted := Array.boole_getElem_le_countP (p := property) inside
  rw [same, if_pos has] at counted
  rw [Array.setIfInBounds_def, dif_pos inside, Array.countP_set, same, if_pos has, lacks,
    if_neg Bool.false_ne_true]
  omega

end LexicalAutomata
