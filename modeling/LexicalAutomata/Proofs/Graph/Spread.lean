import LexicalAutomata.Graph.Closure
import LexicalAutomata.Proofs.StateSet.Reachability
import Mathlib.Data.Set.Lattice
import Mathlib.Logic.Relation

namespace LexicalAutomata.Graph

/-!
# Sets of nodes

What a run may have come to is a set of nodes.  Such a set spreads along the edges
that are taken without reading, and a character is read along the labelled edges.
The main statement is that the closure of a list of nodes holds exactly the nodes of
the graph to which the list spreads.
-/

variable {τ : Type} {graph : Graph τ}

/-- An edge leads from one node to another without reading, while `holding` hold. -/
def FreeStep
    (graph : Graph τ)
    (holding : BoundarySet)
    (source target : Nat) :
    Prop :=
  ∃ edge ∈ (graph.node source).edges,
    edge.isFree holding = true ∧ edge.target = target

/-- An edge leads from one node to another by reading a code point. -/
def ReadStep
    (graph : Graph τ)
    (codePoint source target : Nat) :
    Prop :=
  ∃ label,
    Edge.labelled label target ∈ (graph.node source).edges ∧
      codePoint ∈ label.points

/-- The nodes to which some nodes spread without reading, while `holding` hold. -/
def spread
    (graph : Graph τ)
    (holding : BoundarySet)
    (nodes : Set Nat) :
    Set Nat :=
  { target |
    ∃ source ∈ nodes,
      Relation.ReflTransGen (graph.FreeStep holding) source target }

/-- The nodes that are reached from some nodes by reading one code point. -/
def afterReading
    (graph : Graph τ)
    (codePoint : Nat)
    (nodes : Set Nat) :
    Set Nat :=
  { target | ∃ source ∈ nodes, graph.ReadStep codePoint source target }

/-- A list of nodes that has all those of a set that the graph has, and no others. -/
def Lists
    (graph : Graph τ)
    (members : List Nat)
    (nodes : Set Nat) :
    Prop :=
  ∀ id, id ∈ members ↔ id < graph.size ∧ id ∈ nodes

/-- A number that no node has stands for a node without edges and without token. -/
theorem node_of_size_le
    {id : Nat}
    (outside : graph.size ≤ id) :
    graph.node id = {} := by
  unfold node
  rw [Array.getElem?_eq_none outside]
  rfl

/-- Edges leave only nodes that the graph has. -/
theorem lt_size_of_mem_edges
    {id : Nat}
    {edge : Edge}
    (member : edge ∈ (graph.node id).edges) :
    id < graph.size := by
  rcases Nat.lt_or_ge id graph.size with inside | outside
  · exact inside
  · rw [node_of_size_le outside] at member
    simp at member

/-- Only nodes that the graph has are terminal. -/
theorem lt_size_of_token
    {id : Nat}
    {token : τ}
    (terminal : (graph.node id).token = some token) :
    id < graph.size := by
  rcases Nat.lt_or_ge id graph.size with inside | outside
  · exact inside
  · rw [node_of_size_le outside] at terminal
    contradiction

theorem FreeStep.lt_size
    {holding : BoundarySet}
    {source target : Nat}
    (step : graph.FreeStep holding source target) :
    source < graph.size := by
  obtain ⟨edge, member, _, _⟩ := step
  exact lt_size_of_mem_edges member

theorem mem_freeTargets_iff
    {holding : BoundarySet}
    {source target : Nat} :
    target ∈ graph.freeTargets holding source ↔
      graph.FreeStep holding source target := by
  simp [freeTargets, FreeStep, and_assoc]

/-- What is reached inside the graph has been reached over nodes of the graph only. -/
theorem mem_closure_iff
    {holding : BoundarySet}
    {seeds : List Nat}
    {id : Nat} :
    id ∈ graph.closure holding seeds ↔
      id < graph.size ∧ id ∈ graph.spread holding { seed | seed ∈ seeds } := by
  unfold closure StateSet.toSorted
  rw [mem_ascending, StateSet.mem_reachable_iff]
  constructor
  · intro reached
    induction reached with
    | seed member below =>
        exact ⟨below, _, member, .refl⟩
    | neighbour _ near below inductionHypothesis =>
        obtain ⟨_, source, member, path⟩ := inductionHypothesis
        exact ⟨below, source, member, path.tail (mem_freeTargets_iff.mp near)⟩
  · rintro ⟨inside, source, member, path⟩
    induction path with
    | refl =>
        exact .seed member inside
    | tail _ step inductionHypothesis =>
        exact .neighbour (inductionHypothesis step.lt_size)
          (mem_freeTargets_iff.mpr step) inside

/-- The closure of a list of nodes lists the nodes to which it spreads. -/
theorem lists_closure
    (holding : BoundarySet)
    (seeds : List Nat) :
    graph.Lists (graph.closure holding seeds)
      (graph.spread holding { seed | seed ∈ seeds }) :=
  fun _ => mem_closure_iff

section Spread

variable {holding : BoundarySet} {nodes others : Set Nat}

theorem subset_spread :
    nodes ⊆ graph.spread holding nodes :=
  fun id member => ⟨id, member, .refl⟩

theorem spread_mono
    (subset : nodes ⊆ others) :
    graph.spread holding nodes ⊆ graph.spread holding others := by
  rintro id ⟨source, member, path⟩
  exact ⟨source, subset member, path⟩

/-- An edge that is taken while some boundaries hold is taken while more of them hold. -/
theorem FreeStep.mono
    {more : BoundarySet}
    {source target : Nat}
    (subset : ∀ boundary, boundary ∈ holding → boundary ∈ more)
    (step : graph.FreeStep holding source target) :
    graph.FreeStep more source target := by
  obtain ⟨edge, member, free, same⟩ := step
  refine ⟨edge, member, ?_, same⟩
  cases edge with
  | silent _ =>
      rfl
  | labelled label _ =>
      obtain ⟨boundary, waited, holds⟩ := BoundarySet.meets_iff.mp free
      exact BoundarySet.meets_iff.mpr ⟨boundary, waited, subset boundary holds⟩

theorem spread_mono_holding
    {more : BoundarySet}
    (subset : ∀ boundary, boundary ∈ holding → boundary ∈ more) :
    graph.spread holding nodes ⊆ graph.spread more nodes := by
  rintro target ⟨source, member, path⟩
  exact ⟨source, member, path.lift id fun _ _ step => step.mono subset⟩

/-- Spreading without boundaries first makes no difference. -/
theorem spread_spread_empty :
    graph.spread holding (graph.spread .empty nodes) = graph.spread holding nodes := by
  apply Set.Subset.antisymm
  · rintro target ⟨middle, ⟨source, member, early⟩, late⟩
    refine ⟨source, member, Relation.ReflTransGen.trans ?_ late⟩
    exact early.lift id fun _ _ step =>
      step.mono fun boundary none => (BoundarySet.not_mem_empty boundary none).elim
  · exact spread_mono subset_spread

/-- Reading from more nodes reaches more. -/
theorem afterReading_mono
    (subset : nodes ⊆ others)
    (codePoint : Nat) :
    graph.afterReading codePoint nodes ⊆ graph.afterReading codePoint others := by
  rintro target ⟨source, member, step⟩
  exact ⟨source, subset member, step⟩

/-- Numbers that the graph does not have add nothing inside the graph. -/
theorem mem_spread_inter_iff
    {id : Nat}
    (inside : id < graph.size) :
    id ∈ graph.spread holding nodes ↔
      id ∈ graph.spread holding { node | node < graph.size ∧ node ∈ nodes } := by
  constructor
  · rintro ⟨source, member, path⟩
    refine ⟨source, ⟨?_, member⟩, path⟩
    rcases path.cases_head with same | ⟨_, step, _⟩
    · rw [same]
      exact inside
    · exact step.lt_size
  · apply spread_mono
    rintro node ⟨_, member⟩
    exact member

/-- The closure of a listed set lists what the set spreads to. -/
theorem Lists.closure
    {members : List Nat}
    (lists : graph.Lists members nodes)
    (holding : BoundarySet) :
    graph.Lists (graph.closure holding members) (graph.spread holding nodes) := by
  intro id
  rw [mem_closure_iff]
  have same : { seed | seed ∈ members } = { node | node < graph.size ∧ node ∈ nodes } := by
    ext node
    exact lists node
  rw [same]
  constructor
  · rintro ⟨inside, member⟩
    exact ⟨inside, (mem_spread_inter_iff inside).mpr member⟩
  · rintro ⟨inside, member⟩
    exact ⟨inside, (mem_spread_inter_iff inside).mp member⟩

end Spread

end LexicalAutomata.Graph
