import LexicalAutomata.Proofs.Graph.Rearrangement
import Mathlib.Data.List.Sort
import Mathlib.Order.WellFounded

namespace LexicalAutomata

/-!
# Graphs within other graphs

The nodes of a graph can stand among others in a larger graph, in the same order and with
edges that lead to one another only.  This stays so when the same nodes and edges are added to
both graphs, and when nodes to which nothing leads are added to the larger one alone.  A set of
nodes spreads in both graphs to the same nodes, in the same order.
-/

variable {τ : Type}

/-- The edge to the place of its target. -/
def Edge.relocate
    (place : Nat → Nat) :
    Edge → Edge
  | .silent target =>
      .silent (place target)
  | .labelled label target =>
      .labelled label (place target)

/-- The node with edges to the places of their targets. -/
def Node.relocate
    (place : Nat → Nat)
    (node : Node τ) :
    Node τ :=
  { node with edges := node.edges.map (Edge.relocate place) }

/-- The fragment between the places of its ends. -/
def Fragment.relocate
    (place : Nat → Nat)
    (fragment : Fragment) :
    Fragment :=
  ⟨place fragment.first, place fragment.last⟩

section Relocate

variable {place further : Nat → Nat}

@[simp] theorem Edge.target_relocate
    (edge : Edge) :
    (edge.relocate place).target = place edge.target := by
  cases edge <;> rfl

@[simp] theorem Edge.isFree_relocate
    (edge : Edge)
    (holding : BoundarySet) :
    (edge.relocate place).isFree holding = edge.isFree holding := by
  cases edge <;> rfl

@[simp] theorem Edge.boundaries_relocate
    (edge : Edge) :
    (edge.relocate place).boundaries = edge.boundaries := by
  cases edge <;> rfl

/-- Only the place of its target counts for an edge. -/
theorem Edge.relocate_congr
    {edge : Edge}
    (same : place edge.target = further edge.target) :
    edge.relocate place = edge.relocate further := by
  cases edge with
  | silent =>
      exact congrArg Edge.silent same
  | labelled label =>
      exact congrArg (Edge.labelled label) same

/-- Only the places of the targets of its edges matter to a node. -/
theorem Node.relocate_congr
    {node : Node τ}
    (same : ∀ edge ∈ node.edges, place edge.target = further edge.target) :
    node.relocate place = node.relocate further := by
  have sameEdges :
      node.edges.map (Edge.relocate place) = node.edges.map (Edge.relocate further) :=
    List.map_congr_left fun edge member => Edge.relocate_congr (same edge member)
  rw [Node.relocate, Node.relocate, sameEdges]

/-- Moving a node by an amount puts its targets that far behind. -/
theorem Node.relocate_add
    (amount : Nat)
    (node : Node τ) :
    node.relocate (amount + ·) = node.shift amount := by
  have same : Edge.relocate (amount + ·) = Edge.shift amount := by
    funext edge
    cases edge <;> rfl
  rw [Node.relocate, Node.shift, same]

/-- A node that is moved twice is moved by both together. -/
theorem Node.relocate_relocate
    (node : Node τ) :
    (node.relocate place).relocate further = node.relocate (further ∘ place) := by
  have same : Edge.relocate further ∘ Edge.relocate place = Edge.relocate (further ∘ place) := by
    funext edge
    cases edge <;> rfl
  simp only [Node.relocate, List.map_map, same]

end Relocate

namespace Graph

/-- The nodes of a graph stand in the same order in another one, and so do those to be added. -/
structure Embeds
    (place : Nat → Nat)
    (graph other : Graph τ) : Prop where
  mono : StrictMono place
  node : ∀ id, other.node (place id) = (graph.node id).relocate place
  behind : ∀ count, place (graph.size + count) = other.size + count

/-- The places of nodes when others are put in front of those to be added. -/
def makeRoom
    (place : Nat → Nat)
    (size amount : Nat)
    (id : Nat) :
    Nat :=
  if id < size then
    place id
  else
    place id + amount

variable {place : Nat → Nat} {graph other : Graph τ}

/-- In front of the room, the places stay. -/
theorem makeRoom_of_lt
    {size amount id : Nat}
    (inside : id < size) :
    makeRoom place size amount id = place id :=
  if_pos inside

/-- Behind the room, the places are moved by its size. -/
theorem makeRoom_of_le
    {size amount id : Nat}
    (outside : size ≤ id) :
    makeRoom place size amount id = place id + amount :=
  if_neg (Nat.not_lt.mpr outside)

/-- Room between places keeps their order. -/
theorem strictMono_makeRoom
    (mono : StrictMono place)
    (size amount : Nat) :
    StrictMono (makeRoom place size amount) := by
  intro former latter less
  have inOrder := mono less
  unfold makeRoom
  split_ifs <;> omega

/-- Places in the same order are listed in the order of what stands there. -/
theorem eq_map_of_mem_iff
    {numbers others : List Nat}
    (mono : StrictMono place)
    (ascends : numbers.Pairwise (· < ·))
    (othersAscend : others.Pairwise (· < ·))
    (mem_iff : ∀ number, number ∈ others ↔ number ∈ numbers.map place) :
    others = numbers.map place :=
  List.Pairwise.eq_of_mem_iff othersAscend (ascends.map place fun _ _ less => mono less) mem_iff

/-- Places in the same order make the same ascending list. -/
theorem ascending_map
    (mono : StrictMono place)
    (numbers : List Nat) :
    ascending (numbers.map place) = (ascending numbers).map place :=
  eq_map_of_mem_iff mono (pairwise_ascending _) (pairwise_ascending _) (by simp)

/-- A graph is embedded in itself. -/
theorem Embeds.refl
    (graph : Graph τ) :
    Embeds (fun id => id) graph graph where
  mono :=
    strictMono_id
  node number := by
    have same : Edge.relocate (fun id => id) = id := by
      funext edge
      cases edge <;> rfl
    rw [Node.relocate, same, List.map_id]
  behind _ :=
    rfl

/-- The places of nodes are those of nodes. -/
theorem Embeds.lt_size_iff
    (embeds : Embeds place graph other)
    {id : Nat} :
    place id < other.size ↔ id < graph.size := by
  have ends : place graph.size = other.size :=
    embeds.behind 0
  rw [← ends]
  exact embeds.mono.lt_iff_lt

/-- Only nodes that are not there have places that are not there. -/
theorem Embeds.size_le_iff
    (embeds : Embeds place graph other)
    {id : Nat} :
    other.size ≤ place id ↔ graph.size ≤ id := by
  rw [← Nat.not_lt, embeds.lt_size_iff, Nat.not_lt]

/-- A graph is not larger than one that it is embedded in. -/
theorem Embeds.size_le
    (embeds : Embeds place graph other) :
    graph.size ≤ other.size :=
  embeds.mono.le_apply.trans (embeds.behind 0).le

section Adding

/-- The same nodes can be put behind both graphs. -/
theorem Embeds.beside
    (embeds : Embeds place graph other)
    (back : Graph τ) :
    Embeds place (graph.beside back) (other.beside back) where
  mono :=
    embeds.mono
  node id := by
    rcases graph.front_or_back id with inFront | ⟨number, rfl⟩
    · rw [node_beside_left inFront, node_beside_left (embeds.lt_size_iff.mpr inFront),
        embeds.node]
    · have moved : place ∘ (graph.size + ·) = (other.size + ·) :=
        funext embeds.behind
      rw [embeds.behind, node_beside_right, node_beside_right, ← Node.relocate_add,
        ← Node.relocate_add, Node.relocate_relocate, moved]
  behind count := by
    rw [size_beside, size_beside, Nat.add_assoc, embeds.behind, Nat.add_assoc]

/-- A node that is added to both graphs is embedded as well. -/
theorem Embeds.addNode
    (embeds : Embeds place graph other) :
    Embeds place graph.addNode other.addNode := by
  have added := embeds.beside Graph.empty.addNode
  rw [beside_addNode, beside_addNode, beside_empty, beside_empty] at added
  exact added

/-- An edge can be added to both graphs. -/
theorem Embeds.addEdge
    (embeds : Embeds place graph other)
    (source : Nat)
    (edge : Edge) :
    Embeds place (graph.addEdge source edge)
      (other.addEdge (place source) (edge.relocate place)) where
  mono :=
    embeds.mono
  node id := by
    by_cases same : id = source
    · subst same
      rcases Nat.lt_or_ge id graph.size with inside | outside
      · unfold Graph.addEdge
        rw [node_modifyNode inside, node_modifyNode (embeds.lt_size_iff.mpr inside),
          embeds.node]
        simp [Node.relocate]
      · have otherOutside : other.size ≤ place id :=
          embeds.size_le_iff.mpr outside
        rw [node_of_size_le (by simpa using otherOutside),
          node_of_size_le (by simpa using outside)]
        rfl
    · rw [node_addEdge_of_ne same, node_addEdge_of_ne (embeds.mono.injective.ne same),
        embeds.node]
  behind count := by
    rw [size_addEdge, size_addEdge, embeds.behind]

/-- Fragments can be enclosed in both graphs. -/
theorem Embeds.enclose
    (embeds : Embeds place graph other)
    (first last : Nat)
    (fragments : List Fragment) :
    Embeds place (Build.enclose first last fragments graph).2
      (Build.enclose (place first) (place last) (fragments.map (Fragment.relocate place))
        other).2 := by
  induction fragments generalizing graph other with
  | nil =>
      exact embeds
  | cons inner rest inductionHypothesis =>
      rw [List.map_cons, Build.enclose_cons, Build.enclose_cons]
      exact inductionHypothesis
        ((embeds.addEdge first (.silent inner.first)).addEdge inner.last (.silent last))

/-- Fragments can be joined in both graphs. -/
theorem Embeds.alternatives
    (embeds : Embeds place graph other)
    (fragments : List Fragment) :
    Embeds place (Build.alternatives fragments graph).2
        (Build.alternatives (fragments.map (Fragment.relocate place)) other).2 ∧
      (Build.alternatives (fragments.map (Fragment.relocate place)) other).1 =
        (Build.alternatives fragments graph).1.relocate place := by
  by_cases single : ∃ only, fragments = [only]
  · obtain ⟨only, rfl⟩ := single
    exact ⟨embeds, rfl⟩
  · have severalOthers : ¬ ∃ only, fragments.map (Fragment.relocate place) = [only] := by
      rintro ⟨only, isOnly⟩
      obtain ⟨former, same, _⟩ := List.map_eq_singleton_iff.mp isOnly
      exact single ⟨former, same⟩
    rw [Build.alternatives_of_several single, Build.alternatives_of_several severalOthers,
      Build.union_eq, Build.union_eq]
    have enclosed := embeds.addNode.addNode.enclose graph.size (graph.size + 1) fragments
    have firstPlace : place graph.size = other.size :=
      embeds.behind 0
    have lastPlace : place (graph.size + 1) = other.size + 1 :=
      embeds.behind 1
    rw [firstPlace, lastPlace] at enclosed
    exact ⟨enclosed, congrArg₂ Fragment.mk firstPlace.symm lastPlace.symm⟩

/-- Nodes to which nothing leads can be put behind the larger graph alone. -/
theorem Embeds.makeRoom
    (embeds : Embeds place graph other)
    (bears : graph.Bears fun _ => True)
    (junk : Graph τ) :
    Embeds (makeRoom place graph.size junk.size) graph (other.beside junk) where
  mono :=
    strictMono_makeRoom embeds.mono _ _
  node id := by
    rcases Nat.lt_or_ge id graph.size with inside | outside
    · rw [makeRoom_of_lt inside, node_beside_left (embeds.lt_size_iff.mpr inside), embeds.node]
      apply Node.relocate_congr
      intro edge member
      exact (makeRoom_of_lt (bears id edge member).target_lt).symm
    · have otherOutside : other.size ≤ place id :=
        embeds.size_le_iff.mpr outside
      rw [makeRoom_of_le outside, node_of_size_le outside,
        node_of_size_le (by rw [size_beside]; omega)]
      rfl
  behind count := by
    rw [makeRoom_of_le (Nat.le_add_right _ _), embeds.behind, size_beside]
    omega

end Adding

section Spread

variable {holding : BoundarySet}

/-- Steps from the place of a node are those of the node. -/
theorem Embeds.freeStep_iff
    (embeds : Embeds place graph other)
    {source target : Nat} :
    other.FreeStep holding (place source) target ↔
      ∃ id, graph.FreeStep holding source id ∧ place id = target := by
  unfold FreeStep
  rw [embeds.node]
  constructor
  · rintro ⟨_, member, free, rfl⟩
    obtain ⟨edge, edgeMember, rfl⟩ := List.mem_map.mp member
    rw [Edge.isFree_relocate] at free
    exact ⟨edge.target, ⟨edge, edgeMember, free, rfl⟩, edge.target_relocate.symm⟩
  · rintro ⟨_, ⟨edge, member, free, rfl⟩, rfl⟩
    exact ⟨edge.relocate place, List.mem_map_of_mem member, by simpa using free, by simp⟩

/-- The places of some nodes spread to the places of what the nodes spread to. -/
theorem Embeds.spread_image
    (embeds : Embeds place graph other)
    (holding : BoundarySet)
    (nodes : Set Nat) :
    other.spread holding (place '' nodes) = place '' graph.spread holding nodes := by
  apply Set.Subset.antisymm
  · -- A path that begins at the place of a node leads over places of nodes only.
    rintro target ⟨_, ⟨source, member, rfl⟩, path⟩
    induction path with
    | refl =>
        exact Set.mem_image_of_mem _ (subset_spread member)
    | tail _ otherStep inductionHypothesis =>
        obtain ⟨middle, ⟨seed, seedMember, path⟩, rfl⟩ := inductionHypothesis
        obtain ⟨id, step, rfl⟩ := embeds.freeStep_iff.mp otherStep
        exact ⟨id, ⟨seed, seedMember, path.tail step⟩, rfl⟩
  · rintro _ ⟨target, ⟨source, member, path⟩, rfl⟩
    exact ⟨place source, Set.mem_image_of_mem _ member,
      path.lift place fun _ _ step => embeds.freeStep_iff.mpr ⟨_, step, rfl⟩⟩

/-- The places of some nodes have the places of their closure as a closure. -/
theorem Embeds.closure_eq
    (embeds : Embeds place graph other)
    (holding : BoundarySet)
    (seeds : List Nat) :
    other.closure holding (seeds.map place) = (graph.closure holding seeds).map place := by
  refine eq_map_of_mem_iff embeds.mono (pairwise_ascending _) (pairwise_ascending _) ?_
  intro number
  have image : { seed | seed ∈ seeds.map place } = place '' { seed | seed ∈ seeds } := by
    ext seed
    simp
  rw [mem_closure_iff, image, embeds.spread_image, List.mem_map]
  constructor
  · rintro ⟨inside, id, reached, rfl⟩
    exact ⟨id, mem_closure_iff.mpr ⟨embeds.lt_size_iff.mp inside, reached⟩, rfl⟩
  · rintro ⟨id, member, rfl⟩
    obtain ⟨inside, reached⟩ := mem_closure_iff.mp member
    exact ⟨embeds.lt_size_iff.mpr inside, Set.mem_image_of_mem _ reached⟩

end Spread

end Graph

end LexicalAutomata
