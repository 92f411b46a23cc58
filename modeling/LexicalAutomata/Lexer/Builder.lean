import LexicalAutomata.Automaton.Pruning
import LexicalAutomata.Error
import LexicalAutomata.Graph.OfExpression

namespace LexicalAutomata

/-!
# Collecting patterns

The patterns of a lexer share one graph.  They are joined when the collection is
complete, so that one automaton runs them all.
-/

/-- A graph with the fragments of the patterns that have been added. -/
structure LexerBuilder (τ : Type) where
  graph : Graph τ
  fragments : List Fragment

variable {τ : Type}

namespace LexerBuilder

/-- No patterns. -/
def empty : LexerBuilder τ :=
  ⟨.empty, []⟩

/-- The number of patterns. -/
def size
    (builder : LexerBuilder τ) :
    Nat :=
  builder.fragments.length

/-- Whether there are no patterns. -/
def isEmpty
    (builder : LexerBuilder τ) :
    Bool :=
  builder.fragments.isEmpty

/-- The fragment of an expression with a higher or lower priority. -/
def prioritized
    [PropertyParser]
    (expression : String)
    (token : τ)
    (options : Options)
    (priority : Int32) :
    Build τ (Except TextError Fragment) := do
  match ← Build.expression expression token options with
  | .error error =>
      return .error error
  | .ok fragment =>
      Build.raise fragment.last priority
      return .ok fragment

/--
Add an expression.  If it is refused, there is no new pattern, though some nodes
may have been added to the graph.
-/
def add
    [PropertyParser]
    (builder : LexerBuilder τ)
    (expression : String)
    (token : τ)
    (options : Options := {})
    (priority : Int32 := 0) :
    Except TextError Unit × LexerBuilder τ :=
  let ⟨graph, fragments⟩ := builder
  let (added, graph) := (prioritized expression token options priority).run graph
  match added with
  | .error error =>
      (.error error, ⟨graph, fragments⟩)
  | .ok fragment =>
      (.ok (), ⟨graph, fragments ++ [fragment]⟩)

/-- The automaton of all patterns. -/
def automaton
    [DecidableEq τ]
    (builder : LexerBuilder τ) :
    Except (Error τ) (Automaton τ) :=
  if builder.isEmpty then
    .error (.text ⟨.noExpressions, 0⟩)
  else
    let (whole, graph) := (Build.alternatives builder.fragments).run builder.graph
    match Automaton.ofGraph graph whole.first with
    | .error ambiguity =>
        .error (.ambiguous ambiguity)
    | .ok automaton =>
        .ok automaton

end LexerBuilder

end LexicalAutomata
