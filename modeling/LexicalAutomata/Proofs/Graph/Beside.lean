import LexicalAutomata.Proofs.Graph.Adding

namespace LexicalAutomata

/-!
# One graph behind another one

The nodes of a graph can be put behind those of another graph.  They get new numbers, and
their edges lead to the new numbers.  Adding to the graph behind is the same as adding to
the whole.
-/

variable {τ : Type}

/-- The edge with its target moved by an amount. -/
def Edge.shift
    (amount : Nat) :
    Edge → Edge
  | .silent target =>
      .silent (amount + target)
  | .labelled label target =>
      .labelled label (amount + target)

/-- The node with the targets of its edges moved by an amount. -/
def Node.shift
    (amount : Nat)
    (node : Node τ) :
    Node τ :=
  { node with edges := node.edges.map (Edge.shift amount) }

/-- An edge bears an allowed label, if any, and leads to one of the first nodes. -/
def Edge.Fits
    (allowed : Label → Prop)
    (size : Nat) :
    Edge → Prop
  | .silent target =>
      target < size
  | .labelled label target =>
      allowed label ∧ target < size

@[simp] theorem Edge.target_shift
    (amount : Nat)
    (edge : Edge) :
    (edge.shift amount).target = amount + edge.target := by
  cases edge <;> rfl

section Fits

variable {allowed : Label → Prop} {size larger : Nat} {edge : Edge}

/-- An edge that fits leads to a node of the graph. -/
theorem Edge.Fits.target_lt
    (fits : edge.Fits allowed size) :
    edge.target < size := by
  cases edge with
  | silent =>
      exact fits
  | labelled =>
      exact fits.2

/-- An edge fits into a larger graph as well. -/
theorem Edge.Fits.mono
    (fits : edge.Fits allowed size)
    (le : size ≤ larger) :
    edge.Fits allowed larger := by
  cases edge with
  | silent =>
      exact Nat.lt_of_lt_of_le fits le
  | labelled =>
      exact ⟨fits.1, Nat.lt_of_lt_of_le fits.2 le⟩

/-- An edge fits behind another graph when it is moved. -/
theorem Edge.Fits.shift
    (fits : edge.Fits allowed size)
    (amount : Nat) :
    (edge.shift amount).Fits allowed (amount + size) := by
  cases edge with
  | silent =>
      exact Nat.add_lt_add_left fits amount
  | labelled =>
      exact ⟨fits.1, Nat.add_lt_add_left fits.2 amount⟩

end Fits

namespace Graph

/-- The nodes of a graph, and behind them those of another one. -/
def beside
    (front back : Graph τ) :
    Graph τ :=
  ⟨front.nodes ++ back.nodes.map (Node.shift front.size)⟩

/-- All edges lead to nodes of the graph, and all labels are allowed ones. -/
def Bears
    (graph : Graph τ)
    (allowed : Label → Prop) :
    Prop :=
  ∀ id, ∀ edge ∈ (graph.node id).edges, edge.Fits allowed graph.size

/-- Graphs with the same nodes are the same. -/
theorem ext
    {graph other : Graph τ}
    (sameSize : graph.size = other.size)
    (same : ∀ id, graph.node id = other.node id) :
    graph = other := by
  obtain ⟨nodes⟩ := graph
  obtain ⟨otherNodes⟩ := other
  congr 1
  refine Array.ext sameSize fun id below otherBelow => ?_
  simpa [node, below, otherBelow] using same id

section Beside

variable {front back : Graph τ}

@[simp] theorem size_beside :
    (front.beside back).size = front.size + back.size := by
  simp [beside, size]

/-- The nodes of the graph in front stay as they are. -/
theorem node_beside_left
    {id : Nat}
    (inside : id < front.size) :
    (front.beside back).node id = front.node id := by
  unfold beside node
  rw [Array.getElem?_append_left inside]

/-- The nodes of the graph behind are moved. -/
theorem node_beside_right
    (id : Nat) :
    (front.beside back).node (front.size + id) = (back.node id).shift front.size := by
  unfold beside node size
  rw [Array.getElem?_append_right (Nat.le_add_right _ _), Nat.add_sub_cancel_left,
    Array.getElem?_map]
  cases back.nodes[id]? <;> rfl

/-- A number belongs to a node in front, or it is that of a node behind. -/
theorem front_or_back
    (front : Graph τ)
    (id : Nat) :
    id < front.size ∨ ∃ place, id = front.size + place :=
  (Nat.lt_or_ge id front.size).imp_right Nat.exists_eq_add_of_le

/-- Nothing behind a graph changes nothing. -/
theorem beside_empty :
    front.beside .empty = front := by
  simp [beside, empty]

/-- A node that is added behind comes last. -/
theorem beside_addNode :
    front.beside back.addNode = (front.beside back).addNode := by
  simp [beside, addNode, Node.shift]

/-- Changing a node behind is changing it in the whole. -/
theorem beside_modifyNode
    {id : Nat}
    {change moved : Node τ → Node τ}
    (shifts : ∀ node, (change node).shift front.size = moved (node.shift front.size)) :
    front.beside (back.modifyNode id change) =
      (front.beside back).modifyNode (front.size + id) moved := by
  refine ext (by simp) fun number => ?_
  rcases front.front_or_back number with inFront | ⟨place, rfl⟩
  · rw [node_beside_left inFront, node_modifyNode_of_ne (by omega), node_beside_left inFront]
  · rw [node_beside_right]
    by_cases same : place = id
    · subst same
      rcases Nat.lt_or_ge place back.size with inside | outside
      · rw [node_modifyNode inside, node_modifyNode (by rw [size_beside]; omega),
          node_beside_right, shifts]
      · have wholeOutside :
            ((front.beside back).modifyNode (front.size + place) moved).size ≤
              front.size + place := by
          simpa using outside
        rw [node_of_size_le (by simpa using outside), node_of_size_le wholeOutside]
        rfl
    · rw [node_modifyNode_of_ne same, node_modifyNode_of_ne (by omega), node_beside_right]

/-- Adding an edge behind is adding it to the whole. -/
theorem beside_addEdge
    (source : Nat)
    (edge : Edge) :
    front.beside (back.addEdge source edge) =
      (front.beside back).addEdge (front.size + source) (edge.shift front.size) := by
  apply beside_modifyNode
  intro node
  simp [Node.shift]

end Beside

section Bears

variable {allowed : Label → Prop} {graph back : Graph τ}

/-- The empty graph has no edges that do not fit. -/
theorem bears_empty :
    (empty : Graph τ).Bears allowed := by
  intro id edge member
  rw [node_of_size_le (Nat.zero_le _)] at member
  contradiction

/-- Edges that fit into their own graphs fit side by side. -/
theorem Bears.beside
    (bears : graph.Bears allowed)
    (backBears : back.Bears allowed) :
    (graph.beside back).Bears allowed := by
  intro id edge member
  rw [size_beside]
  rcases graph.front_or_back id with inFront | ⟨place, rfl⟩
  · rw [node_beside_left inFront] at member
    exact (bears id edge member).mono (Nat.le_add_right _ _)
  · rw [node_beside_right] at member
    obtain ⟨former, formerMember, rfl⟩ := List.mem_map.mp member
    exact (backBears place former formerMember).shift graph.size

/-- All edges still fit when a node is added. -/
theorem Bears.addNode
    (bears : graph.Bears allowed) :
    graph.addNode.Bears allowed := by
  intro id edge member
  rw [node_addNode] at member
  rw [size_addNode]
  exact (bears id edge member).mono (Nat.le_succ _)

/-- A change of a node that leaves its edges alone. -/
theorem Bears.modifyNode
    (bears : graph.Bears allowed)
    (id : Nat)
    {change : Node τ → Node τ}
    (keeps : ∀ node, (change node).edges = node.edges) :
    (graph.modifyNode id change).Bears allowed := by
  intro number edge member
  rw [size_modifyNode]
  by_cases same : number = id
  · subst same
    rcases Nat.lt_or_ge number graph.size with inside | outside
    · rw [node_modifyNode inside, keeps] at member
      exact bears number edge member
    · rw [node_of_size_le (by simpa using outside)] at member
      contradiction
  · rw [node_modifyNode_of_ne same] at member
    exact bears number edge member

/-- All edges still fit when one that fits is added. -/
theorem Bears.addEdge
    (bears : graph.Bears allowed)
    (source : Nat)
    {edge : Edge}
    (fits : edge.Fits allowed graph.size) :
    (graph.addEdge source edge).Bears allowed := by
  intro id candidate member
  rw [size_addEdge]
  rcases Nat.lt_or_ge source graph.size with inside | outside
  · rcases (mem_edges_addEdge_iff inside).mp member with old | ⟨_, rfl⟩
    · exact bears id candidate old
    · exact fits
  · have unchanged : ((graph.addEdge source edge).node id).edges = (graph.node id).edges := by
      by_cases same : id = source
      · rw [same, node_of_size_le outside, node_of_size_le (by simpa using outside)]
      · rw [node_addEdge_of_ne same]
    rw [unchanged] at member
    exact bears id candidate member

end Bears

end Graph

end LexicalAutomata
