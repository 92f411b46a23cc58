import LexicalAutomata.Graph.Fragment
import LexicalAutomata.Proofs.Graph.Route
import LexicalAutomata.Proofs.Graph.Spread

namespace LexicalAutomata

/-!
# Adding to a graph

A new node changes no route.  With a new edge, a route is either one of those that there
were before, or it comes to the edge, crosses it once or several times, and goes on
behind it.  Routes that cannot leave a region are the same in every graph that has the
same edges there.
-/

namespace Graph

variable {τ σ : Type} {graph other : Graph τ} {crossing : Label → σ → σ → Prop}

@[simp] theorem size_addNode
    (graph : Graph τ) :
    graph.addNode.size = graph.size + 1 := by
  simp [addNode, size]

@[simp] theorem node_addNode
    (graph : Graph τ)
    (id : Nat) :
    graph.addNode.node id = graph.node id := by
  unfold addNode node
  rw [Array.getElem?_push]
  split
  · rename_i last
    rw [last, Array.getElem?_eq_none (Nat.le_refl _)]
    rfl
  · rfl

@[simp] theorem size_modifyNode
    (graph : Graph τ)
    (id : Nat)
    (change : Node τ → Node τ) :
    (graph.modifyNode id change).size = graph.size := by
  simp [modifyNode, size]

theorem node_modifyNode
    {id : Nat}
    (inside : id < graph.size)
    (change : Node τ → Node τ) :
    (graph.modifyNode id change).node id = change (graph.node id) := by
  unfold modifyNode node
  rw [Array.getElem?_modify, if_pos rfl, Array.getElem?_eq_getElem inside]
  rfl

theorem node_modifyNode_of_ne
    {id other : Nat}
    (different : other ≠ id)
    (change : Node τ → Node τ) :
    (graph.modifyNode id change).node other = graph.node other := by
  simp [modifyNode, node, Array.getElem?_modify, different.symm]

@[simp] theorem size_addEdge
    (graph : Graph τ)
    (source : Nat)
    (edge : Edge) :
    (graph.addEdge source edge).size = graph.size :=
  size_modifyNode _ _ _

theorem edges_addEdge
    {source : Nat}
    (inside : source < graph.size)
    (edge : Edge) :
    ((graph.addEdge source edge).node source).edges = (graph.node source).edges ++ [edge] := by
  unfold addEdge
  rw [node_modifyNode inside]

theorem node_addEdge_of_ne
    {source other : Nat}
    (different : other ≠ source)
    (edge : Edge) :
    (graph.addEdge source edge).node other = graph.node other :=
  node_modifyNode_of_ne different _

/-- The edges of a graph to which an edge has been added. -/
theorem mem_edges_addEdge_iff
    {source id : Nat}
    (inside : source < graph.size)
    {edge candidate : Edge} :
    candidate ∈ ((graph.addEdge source edge).node id).edges ↔
      candidate ∈ (graph.node id).edges ∨ (id = source ∧ candidate = edge) := by
  by_cases same : id = source
  · rw [same, edges_addEdge inside]
    simp
  · rw [node_addEdge_of_ne same]
    simp [same]

/-- A move of a graph to which an edge has been added. -/
theorem moves_addEdge_iff
    {source : Nat}
    (inside : source < graph.size)
    {edge : Edge}
    {origin next : Nat × σ} :
    (graph.addEdge source edge).Moves crossing origin next ↔
      graph.Moves crossing origin next ∨
        (origin.1 = source ∧ next.1 = edge.target ∧
          edge.Passes crossing origin.2 next.2) := by
  unfold Moves
  constructor
  · rintro ⟨candidate, member, same, crosses⟩
    rcases (mem_edges_addEdge_iff inside).mp member with old | ⟨here, rfl⟩
    · exact Or.inl ⟨candidate, old, same, crosses⟩
    · exact Or.inr ⟨here, same.symm, crosses⟩
  · rintro (⟨candidate, old, same, crosses⟩ | ⟨here, same, crosses⟩)
    · exact ⟨candidate, (mem_edges_addEdge_iff inside).mpr (Or.inl old), same, crosses⟩
    · exact ⟨edge, (mem_edges_addEdge_iff inside).mpr (Or.inr ⟨here, rfl⟩), same.symm, crosses⟩

/-- From behind an edge back to it and over it once more. -/
def Again
    (graph : Graph τ)
    (crossing : Label → σ → σ → Prop)
    (source : Nat)
    (edge : Edge)
    (behind again : σ) :
    Prop :=
  ∃ here,
    graph.Route crossing (edge.target, behind) (source, here) ∧
      edge.Passes crossing here again

/-- A route crosses a new edge not at all, or any number of times. -/
theorem route_addEdge_iff
    {source : Nat}
    (inside : source < graph.size)
    {edge : Edge}
    {origin target : Nat × σ} :
    (graph.addEdge source edge).Route crossing origin target ↔
      graph.Route crossing origin target ∨
        ∃ here first last,
          graph.Route crossing origin (source, here) ∧
            edge.Passes crossing here first ∧
              Relation.ReflTransGen (graph.Again crossing source edge) first last ∧
                graph.Route crossing (edge.target, last) target := by
  constructor
  · intro route
    induction route with
    | refl =>
        exact Or.inl .refl
    | @tail middle target _ move inductionHypothesis =>
        obtain ⟨node, point⟩ := middle
        obtain ⟨targetNode, targetPoint⟩ := target
        rcases (moves_addEdge_iff inside).mp move with old | ⟨rfl, rfl, crosses⟩
        · rcases inductionHypothesis with route | ⟨here, first, last, front, crossed, again, back⟩
          · exact Or.inl (route.tail old)
          · exact Or.inr ⟨here, first, last, front, crossed, again, back.tail old⟩
        · rcases inductionHypothesis with route | ⟨here, first, last, front, crossed, again, back⟩
          · exact Or.inr ⟨point, targetPoint, targetPoint, route, crosses, .refl, .refl⟩
          · exact Or.inr ⟨here, first, targetPoint, front, crossed,
              again.tail ⟨point, back, crosses⟩, .refl⟩
  · have old :
        ∀ {origin target : Nat × σ},
          graph.Route crossing origin target →
            (graph.addEdge source edge).Route crossing origin target := by
      intro origin target route
      exact route.lift id fun _ _ move => (moves_addEdge_iff inside).mpr (Or.inl move)
    have new :
        ∀ {here there : σ},
          edge.Passes crossing here there →
            (graph.addEdge source edge).Route crossing (source, here) (edge.target, there) := by
      intro here there crosses
      exact .single ((moves_addEdge_iff inside).mpr (Or.inr ⟨rfl, rfl, crosses⟩))
    have loops :
        ∀ {first last : σ},
          Relation.ReflTransGen (graph.Again crossing source edge) first last →
            (graph.addEdge source edge).Route crossing (edge.target, first)
              (edge.target, last) := by
      intro first last again
      induction again with
      | refl =>
          exact .refl
      | tail _ once inductionHypothesis =>
          obtain ⟨point, route, crosses⟩ := once
          exact (inductionHypothesis.trans (old route)).trans (new crosses)
    rintro (route | ⟨here, first, last, front, crossed, again, back⟩)
    · exact old route
    · exact (((old front).trans (new crossed)).trans (loops again)).trans (old back)

/-- A route crosses a new edge at most once when there is no way back to it. -/
theorem route_addEdge_iff_of_noReturn
    {source : Nat}
    (inside : source < graph.size)
    {edge : Edge}
    (noReturn : ∀ behind here, ¬ graph.Route crossing (edge.target, behind) (source, here))
    {origin target : Nat × σ} :
    (graph.addEdge source edge).Route crossing origin target ↔
      graph.Route crossing origin target ∨
        ∃ here behind,
          graph.Route crossing origin (source, here) ∧
            edge.Passes crossing here behind ∧
              graph.Route crossing (edge.target, behind) target := by
  rw [route_addEdge_iff inside]
  constructor
  · rintro (route | ⟨here, first, last, front, crossed, again, back⟩)
    · exact Or.inl route
    · rcases again.cases_head with rfl | ⟨_, ⟨_, impossible, _⟩, _⟩
      · exact Or.inr ⟨here, first, front, crossed, back⟩
      · exact (noReturn _ _ impossible).elim
  · rintro (route | ⟨here, behind, front, crossed, back⟩)
    · exact Or.inl route
    · exact Or.inr ⟨here, behind, behind, front, crossed, .refl, back⟩

/-- No edge leaves a region. -/
def Closed
    (graph : Graph τ)
    (region : Set Nat) :
    Prop :=
  ∀ id ∈ region, ∀ edge ∈ (graph.node id).edges, edge.target ∈ region

/-- No edge of a region leads to a node. -/
def Unentered
    (graph : Graph τ)
    (region : Set Nat)
    (node : Nat) :
    Prop :=
  ∀ id ∈ region, ∀ edge ∈ (graph.node id).edges, edge.target ≠ node

section Route

variable {region : Set Nat} {origin target : Nat × σ}

/-- A route that begins in a closed region stays there. -/
theorem Route.mem_of_closed
    (route : graph.Route crossing origin target)
    (closed : graph.Closed region)
    (member : origin.1 ∈ region) :
    target.1 ∈ region := by
  induction route with
  | refl =>
      exact member
  | tail _ move inductionHypothesis =>
      obtain ⟨edge, edgeMember, same, _⟩ := move
      rw [← same]
      exact closed _ inductionHypothesis edge edgeMember

/-- A route does not leave a node without edges. -/
theorem Route.eq_of_deadEnd
    (route : graph.Route crossing origin target)
    (deadEnd : (graph.node origin.1).edges = []) :
    target = origin := by
  rcases route.cases_head with same | ⟨_, ⟨edge, member, _⟩, _⟩
  · exact same.symm
  · rw [deadEnd] at member
    simp at member

/-- A route comes to a node without entries only by beginning there. -/
theorem Route.eq_of_unentered
    (route : graph.Route crossing origin target)
    (closed : graph.Closed region)
    (member : origin.1 ∈ region)
    (unentered : graph.Unentered region target.1) :
    origin = target := by
  rcases route.cases_tail with same | ⟨middle, front, edge, edgeMember, same, _⟩
  · exact same.symm
  · exact (unentered _ (Route.mem_of_closed front closed member) edge edgeMember same).elim

/-- Routes in a closed region depend on the edges there only. -/
theorem route_congr
    (closed : graph.Closed region)
    (same : ∀ id ∈ region, (other.node id).edges = (graph.node id).edges)
    (member : origin.1 ∈ region) :
    other.Route crossing origin target ↔ graph.Route crossing origin target := by
  constructor
  · intro route
    induction route with
    | refl =>
        exact .refl
    | tail _ move inductionHypothesis =>
        refine inductionHypothesis.tail ?_
        have inside := Route.mem_of_closed inductionHypothesis closed member
        unfold Moves at move ⊢
        rw [same _ inside] at move
        exact move
  · intro route
    induction route with
    | refl =>
        exact .refl
    | tail front move inductionHypothesis =>
        refine inductionHypothesis.tail ?_
        have inside := Route.mem_of_closed front closed member
        unfold Moves at move ⊢
        rw [same _ inside]
        exact move

end Route

end Graph

end LexicalAutomata
