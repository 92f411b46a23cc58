import LexicalAutomata.Proofs.Graph.Patterns

namespace LexicalAutomata

/-!
# Graphs with the same edges

What is found at a node can be changed without changing any edge.  The exit of an expression is
changed in this way, whatever the options.
-/

variable {τ : Type}

namespace Graph

/-- Two graphs have the same nodes, up to what is found there. -/
structure SameEdges
    (graph other : Graph τ) : Prop where
  size : graph.size = other.size
  edges : ∀ id, (graph.node id).edges = (other.node id).edges

variable {graph other third : Graph τ}

theorem SameEdges.refl
    (graph : Graph τ) :
    graph.SameEdges graph :=
  ⟨rfl, fun _ => rfl⟩

theorem SameEdges.symm
    (same : graph.SameEdges other) :
    other.SameEdges graph :=
  ⟨same.size.symm, fun id => (same.edges id).symm⟩

theorem SameEdges.trans
    (same : graph.SameEdges other)
    (next : other.SameEdges third) :
    graph.SameEdges third :=
  ⟨same.size.trans next.size, fun id => (same.edges id).trans (next.edges id)⟩

/-- A change that leaves the edges of a node alone. -/
theorem sameEdges_modifyNode
    (graph : Graph τ)
    (id : Nat)
    (change : Node τ → Node τ)
    (keeps : ∀ node, (change node).edges = node.edges) :
    graph.SameEdges (graph.modifyNode id change) where
  size :=
    (graph.size_modifyNode id change).symm
  edges target := by
    by_cases isId : target = id
    · subst isId
      rcases Nat.lt_or_ge target graph.size with inside | outside
      · rw [node_modifyNode inside, keeps]
      · rw [node_of_size_le outside, node_of_size_le (by simpa using outside)]
    · rw [node_modifyNode_of_ne isId]

/-- One more change that leaves the edges alone, if it is made at all. -/
theorem SameEdges.modifyNodeIf
    (same : graph.SameEdges other)
    (condition : Bool)
    (id : Nat)
    (change : Node τ → Node τ)
    (keeps : ∀ node, (change node).edges = node.edges) :
    graph.SameEdges (if condition then other.modifyNode id change else other) := by
  cases condition with
  | false =>
      exact same
  | true =>
      exact same.trans (other.sameEdges_modifyNode id change keeps)

end Graph

/-- Only what is found at the exit is changed at the end. -/
theorem Build.sameEdges_finish
    (fragment : Fragment)
    (expression : Expression)
    (token : τ)
    (options : Options)
    (graph : Graph τ) :
    graph.SameEdges (Build.finish fragment expression token options graph).2 := by
  have tokened :=
    graph.sameEdges_modifyNode fragment.last (fun node => { node with token := some token })
      fun _ => rfl
  have raised :=
    tokened.modifyNodeIf expression.isLiteral fragment.last
      (fun node => { node with priority := node.priority + 1 }) fun _ => rfl
  rw [finish_eq]
  exact raised.modifyNodeIf options.acceptImmediately fragment.last
    (fun node => { node with immediate := true }) fun _ => rfl

/-- The options have no influence on the edges of an expression. -/
theorem Build.sameEdges_expression
    [PropertyParser]
    {text : String}
    {options : Options}
    {expression : Expression}
    (parsed : Expression.parse text options = .ok expression)
    {token : τ}
    {graph later : Graph τ}
    {fragment : Fragment}
    (built : Build.expression text token options graph = (.ok fragment, later)) :
    fragment = (expression.build graph).1 ∧ (expression.build graph).2.SameEdges later := by
  have hasEnder : ¬ (options.fixedEnder = true ∧ expression.enderLength = 0) := by
    intro missing
    rw [expression_of_parse parsed, if_pos missing] at built
    cases built
  rw [expression_of_parse parsed, if_neg hasEnder] at built
  cases built
  have ended :=
    (Graph.SameEdges.refl (expression.build graph).2).modifyNodeIf options.fixedEnder
      (expression.build graph).1.last
      (fun node => { node with immediate := true, enderLength := expression.enderLength })
      fun _ => rfl
  exact ⟨rfl, ended.trans (sameEdges_finish _ _ _ _ _)⟩

end LexicalAutomata
