import LexicalAutomata.Label.Basic

namespace LexicalAutomata

/-!
# State graphs

A graph is a row of nodes, numbered from zero, with edges between them.  An edge
is silent or carries a label.  A node with a token is terminal.
-/

/-- An edge to the node `target`. -/
inductive Edge where
  /-- Taken without reading anything. -/
  | silent (target : Nat)
  /-- Taken by reading one character of the label, or while one of its boundaries holds. -/
  | labelled (label : Label) (target : Nat)
  deriving DecidableEq

namespace Edge

/-- The node that an edge leads to. -/
def target : Edge → Nat
  | .silent target =>
      target
  | .labelled _ target =>
      target

/-- Whether an edge is taken without reading while the given boundaries hold. -/
def isFree
    (holding : BoundarySet) :
    Edge → Bool
  | .silent _ =>
      true
  | .labelled label _ =>
      label.boundaries.meets holding

/-- The boundaries that an edge waits for. -/
def boundaries : Edge → BoundarySet
  | .silent _ =>
      .empty
  | .labelled label _ =>
      label.boundaries

end Edge

/-- A node of a state graph. -/
structure Node (τ : Type) where
  /-- The edges in the order in which they were added. -/
  edges : List Edge := []
  /-- What is found when a run ends here. -/
  token : Option τ := none
  /-- Of several terminal nodes, the one with the highest priority counts. -/
  priority : Int32 := 0
  /-- A run that comes here does not go on. -/
  immediate : Bool := false
  /-- How many characters at the end of a run that ends here do not belong to the match. -/
  enderLength : Nat := 0

/-- A row of nodes. -/
structure Graph (τ : Type) where
  nodes : Array (Node τ)

variable {τ : Type}

namespace Graph

/-- The graph without nodes. -/
def empty : Graph τ :=
  ⟨#[]⟩

/-- The number of nodes. -/
def size
    (graph : Graph τ) :
    Nat :=
  graph.nodes.size

/-- The node with a given number; there are no edges at a number that no node has. -/
def node
    (graph : Graph τ)
    (id : Nat) :
    Node τ :=
  graph.nodes[id]?.getD {}

/-- Add a node without edges; its number is the size of the graph before. -/
def addNode
    (graph : Graph τ) :
    Graph τ :=
  ⟨graph.nodes.push {}⟩

/-- Change one node. -/
def modifyNode
    (graph : Graph τ)
    (id : Nat)
    (change : Node τ → Node τ) :
    Graph τ :=
  ⟨graph.nodes.modify id change⟩

/-- Add an edge behind those that `source` has. -/
def addEdge
    (graph : Graph τ)
    (source : Nat)
    (edge : Edge) :
    Graph τ :=
  graph.modifyNode source fun node => { node with edges := node.edges ++ [edge] }

/-- Add a silent edge. -/
def link
    (graph : Graph τ)
    (source target : Nat) :
    Graph τ :=
  graph.addEdge source (.silent target)

end Graph

end LexicalAutomata
