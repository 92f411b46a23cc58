import LexicalAutomata.Graph.Basic

namespace LexicalAutomata

/-!
# What a set of nodes accepts

Of the terminal nodes in a set, those with the highest priority count.  They must
all have the same token; otherwise the set is ambiguous.
-/

/-- What is found when a run ends. -/
structure Acceptance (τ : Type) where
  token : τ
  priority : Int32
  /-- How many characters at the end of the run do not belong to the match. -/
  enderLength : Nat
  deriving Repr, DecidableEq

/-- Different tokens that the same run could find, each of them once. -/
structure Ambiguity (τ : Type) where
  tokens : List τ
  deriving Repr, DecidableEq

/-- What a set of nodes accepts, and whether a run that comes there does not go on. -/
structure Outcome (τ : Type) where
  acceptance : Option (Acceptance τ)
  halts : Bool

/-- What a sweep over terminal nodes has come to. -/
structure Contest (τ : Type) where
  /-- The token of the first terminal with the highest priority so far. -/
  token : τ
  priority : Int32
  /-- Whether a terminal with this token and priority stops a run. -/
  halts : Bool
  /-- The greatest ender of the terminals with this token and priority. -/
  enderLength : Nat
  /-- The other tokens with this priority, each of them once. -/
  rivals : List τ

namespace Contest

variable {τ : Type}

/-- A terminal that no other one has the priority of. -/
def alone
    (token : τ)
    (node : Node τ) :
    Contest τ where
  token := token
  priority := node.priority
  halts := node.immediate
  enderLength := node.enderLength
  rivals := []

variable [DecidableEq τ]

/-- One terminal more: a higher priority begins a new contest. -/
def meet
    (contest : Contest τ)
    (token : τ)
    (node : Node τ) :
    Contest τ :=
  if node.priority < contest.priority then
    contest
  else if node.priority = contest.priority then
    if token = contest.token then
      { contest with
        halts := contest.halts || node.immediate
        enderLength := max contest.enderLength node.enderLength }
    else if token ∈ contest.rivals then
      contest
    else
      { contest with rivals := contest.rivals ++ [token] }
  else
    alone token node

/-- Terminals that are met one after the other. -/
def sweep
    (contest : Contest τ) :
    List (τ × Node τ) →
    Contest τ
  | [] =>
      contest
  | (token, node) :: rest =>
      (contest.meet token node).sweep rest

end Contest

namespace Graph

variable {τ : Type}

/-- The terminal nodes among the given ones, with their tokens. -/
def terminals
    (graph : Graph τ)
    (members : List Nat) :
    List (τ × Node τ) :=
  members.filterMap fun id =>
    (graph.node id).token.map fun token => (token, graph.node id)

/-- What the given nodes accept. -/
def outcome
    [DecidableEq τ]
    (graph : Graph τ)
    (members : List Nat) :
    Except (Ambiguity τ) (Outcome τ) :=
  match graph.terminals members with
  | [] =>
      .ok ⟨none, false⟩
  | (token, node) :: rest =>
      let contest := (Contest.alone token node).sweep rest
      if contest.rivals.isEmpty then
        .ok ⟨some ⟨contest.token, contest.priority, contest.enderLength⟩, contest.halts⟩
      else
        .error ⟨contest.token :: contest.rivals⟩

end Graph

end LexicalAutomata
