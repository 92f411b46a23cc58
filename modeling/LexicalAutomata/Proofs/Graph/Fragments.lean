import LexicalAutomata.Proofs.Graph.Adding
import Mathlib.Order.CompletePartialOrder

namespace LexicalAutomata

/-!
# What fragments are crossed by

A fragment lies in a region of the graph that no edge leaves.  The routes from its entry
to its exit are told by a relation between points.  For every way of putting fragments
together there is one lemma that gives the relation of the whole from those of the parts.
-/

/-- A node without its edges. -/
def Node.bare
    {τ : Type}
    (node : Node τ) :
    Node τ :=
  { node with edges := [] }

namespace Graph

variable {τ σ : Type} {graph later last : Graph τ} {crossing : Label → σ → σ → Prop}

/-- Nodes of a region are new, or from another region. -/
def Within
    (graph : Graph τ)
    (region other : Set Nat) :
    Prop :=
  ∀ id ∈ region, id < graph.size → id ∈ other

section Within

variable {region other whole : Set Nat}

theorem Within.refl
    (graph : Graph τ)
    (region : Set Nat) :
    graph.Within region region :=
  fun _ member _ => member

theorem within_empty
    (graph : Graph τ)
    (region : Set Nat) :
    graph.Within ∅ region :=
  fun _ impossible _ => impossible.elim

/-- The next two numbers are new. -/
theorem within_ends
    (graph : Graph τ)
    (region : Set Nat) :
    graph.Within {graph.size, graph.size + 1} region := by
  rintro id (rfl | rfl) below <;> omega

theorem Within.trans
    (outer : graph.Within whole region)
    (inner : graph.Within region other) :
    graph.Within whole other :=
  fun id member below => inner id (outer id member below) below

/-- What is new to a graph is new to a smaller one. -/
theorem Within.of_size_le
    (within : later.Within region other)
    (le : graph.size ≤ later.size) :
    graph.Within region other :=
  fun id member below => within id member (Nat.lt_of_lt_of_le below le)

theorem Within.union
    (within : graph.Within region whole)
    (otherWithin : graph.Within other whole) :
    graph.Within (region ∪ other) whole := by
  rintro id (member | member) below
  · exact within id member below
  · exact otherWithin id member below

theorem within_union_left
    (graph : Graph τ)
    (region other : Set Nat) :
    graph.Within region (region ∪ other) :=
  fun _ member _ => Or.inl member

/-- New nodes are no nodes that there have been. -/
theorem Within.disjoint
    (within : graph.Within other ∅)
    (inside : ∀ id ∈ region, id < graph.size) :
    Disjoint region other := by
  rw [Set.disjoint_left]
  intro id member otherMember
  exact within id otherMember (inside id member)

end Within

/-- The nodes of a graph outside of a region are still there and have the same edges. -/
structure Spares
    (region : Set Nat)
    (graph later : Graph τ) : Prop where
  size_le : graph.size ≤ later.size
  edges :
    ∀ id < graph.size, id ∉ region → (later.node id).edges = (graph.node id).edges

/-- A graph has got new nodes, and new edges at these and at the nodes of a region. -/
structure Grows
    (region : Set Nat)
    (graph later : Graph τ) : Prop
    extends Spares region graph later where
  bare : ∀ id, (later.node id).bare = (graph.node id).bare

theorem Grows.refl
    (region : Set Nat)
    (graph : Graph τ) :
    Grows region graph graph where
  size_le :=
    Nat.le_refl _
  edges _ _ _ :=
    rfl
  bare _ :=
    rfl

/-- What grows twice may also grow the second time where it had grown before. -/
theorem Grows.trans
    {region other : Set Nat}
    (first : Grows region graph later)
    (second : Grows other later last)
    (inside : graph.Within other region) :
    Grows region graph last where
  size_le :=
    first.size_le.trans second.size_le
  edges id below outside := by
    rw [second.edges id (Nat.lt_of_lt_of_le below first.size_le), first.edges id below outside]
    intro member
    exact outside (inside id member below)
  bare id := by
    rw [second.bare, first.bare]

theorem Grows.mono
    {region other : Set Nat}
    (grows : Grows region graph later)
    (within : graph.Within region other) :
    Grows other graph later :=
  (Grows.refl other graph).trans grows within

theorem grows_addNode
    (region : Set Nat)
    (graph : Graph τ) :
    Grows region graph graph.addNode where
  size_le := by
    simp
  edges id _ _ := by
    rw [node_addNode]
  bare id := by
    rw [node_addNode]

theorem grows_addEdge
    {region : Set Nat}
    {source : Nat}
    (member : source ∈ region)
    (edge : Edge) :
    Grows region graph (graph.addEdge source edge) where
  size_le := by
    simp
  edges id _ outside := by
    rw [node_addEdge_of_ne]
    rintro rfl
    exact outside member
  bare id := by
    by_cases same : id = source
    · rcases Nat.lt_or_ge source graph.size with inside | outside
      · rw [same, addEdge, node_modifyNode inside]
        rfl
      · rw [node_of_size_le (by simp [same, outside]),
          node_of_size_le (by rw [same]; exact outside)]
    · rw [node_addEdge_of_ne same]

theorem grows_addNode_addNode
    (graph : Graph τ) :
    Grows {graph.size, graph.size + 1} graph graph.addNode.addNode :=
  (grows_addNode _ graph).trans (grows_addNode _ graph.addNode) (.refl _ _)

theorem Grows.addEdge
    {region : Set Nat}
    {source : Nat}
    (grows : Grows region graph later)
    (member : source ∈ region)
    (edge : Edge) :
    Grows region graph (later.addEdge source edge) :=
  grows.trans (grows_addEdge member edge) (.refl _ _)

/-- A fragment in a closed region is crossed between two points. -/
structure Carries
    (graph : Graph τ)
    (crossing : Label → σ → σ → Prop)
    (region : Set Nat)
    (fragment : Fragment)
    (crosses : σ → σ → Prop) : Prop where
  inside : ∀ id ∈ region, id < graph.size
  first : fragment.first ∈ region
  last : fragment.last ∈ region
  closed : graph.Closed region
  route_iff :
    ∀ source target,
      graph.Route crossing (fragment.first, source) (fragment.last, target) ↔
        crosses source target

/-- A fragment that has not been put to use: nothing leads to its entry or from its exit. -/
structure Offers
    (graph : Graph τ)
    (crossing : Label → σ → σ → Prop)
    (region : Set Nat)
    (fragment : Fragment)
    (crosses : σ → σ → Prop) : Prop
    extends Carries graph crossing region fragment crosses where
  distinct : fragment.first ≠ fragment.last
  entry : graph.Unentered region fragment.first
  exit : (graph.node fragment.last).edges = []

section Fragment

variable {region other : Set Nat} {fragment inner : Fragment}
  {crosses innerCrosses : σ → σ → Prop}

theorem Carries.congr
    {same : σ → σ → Prop}
    (carries : graph.Carries crossing region fragment crosses)
    (iff : ∀ source target, crosses source target ↔ same source target) :
    graph.Carries crossing region fragment same :=
  { carries with
    route_iff := fun source target => (carries.route_iff source target).trans (iff source target) }

theorem Offers.congr
    {same : σ → σ → Prop}
    (offers : graph.Offers crossing region fragment crosses)
    (iff : ∀ source target, crosses source target ↔ same source target) :
    graph.Offers crossing region fragment same :=
  { offers with toCarries := offers.toCarries.congr iff }

/-- What happens elsewhere in the graph does not matter to a fragment. -/
theorem Carries.spared
    (carries : graph.Carries crossing region fragment crosses)
    (spares : Spares other graph later)
    (disjoint : Disjoint region other) :
    later.Carries crossing region fragment crosses := by
  have same : ∀ id ∈ region, (later.node id).edges = (graph.node id).edges :=
    fun id member =>
      spares.edges id (carries.inside id member) (Set.disjoint_left.mp disjoint member)
  constructor
  · intro id member
    exact Nat.lt_of_lt_of_le (carries.inside id member) spares.size_le
  · exact carries.first
  · exact carries.last
  · intro id member edge edgeMember
    rw [same id member] at edgeMember
    exact carries.closed id member edge edgeMember
  · intro source target
    rw [route_congr carries.closed same carries.first]
    exact carries.route_iff source target

theorem Offers.spared
    (offers : graph.Offers crossing region fragment crosses)
    (spares : Spares other graph later)
    (disjoint : Disjoint region other) :
    later.Offers crossing region fragment crosses := by
  have same : ∀ id ∈ region, (later.node id).edges = (graph.node id).edges :=
    fun id member =>
      spares.edges id (offers.inside id member) (Set.disjoint_left.mp disjoint member)
  refine ⟨offers.toCarries.spared spares disjoint, offers.distinct, ?_, ?_⟩
  · intro id member edge edgeMember
    rw [same id member] at edgeMember
    exact offers.entry id member edge edgeMember
  · rw [same _ offers.last]
    exact offers.exit

/-- Only a route that begins at the entry of an unused fragment is there. -/
theorem Offers.eq_of_route_first
    (offers : graph.Offers crossing region fragment crosses)
    {id : Nat}
    {source target : σ}
    (member : id ∈ region)
    (route : graph.Route crossing (id, source) (fragment.first, target)) :
    (id, source) = (fragment.first, target) :=
  route.eq_of_unentered offers.closed member offers.entry

/-- A route that comes to the exit of an unused fragment ends there. -/
theorem Offers.eq_of_route_last
    (offers : graph.Offers crossing region fragment crosses)
    {id : Nat}
    {source target : σ}
    (route : graph.Route crossing (fragment.last, source) (id, target)) :
    (id, target) = (fragment.last, source) :=
  route.eq_of_deadEnd offers.exit

/-- No route leads from one region to another one. -/
theorem Closed.not_route
    (closed : graph.Closed region)
    (disjoint : Disjoint region other)
    {origin target : Nat × σ}
    (member : origin.1 ∈ region)
    (elsewhere : target.1 ∈ other) :
    ¬ graph.Route crossing origin target :=
  fun route => Set.disjoint_left.mp disjoint (route.mem_of_closed closed member) elsewhere

/-- An edge inside a region leaves it closed. -/
theorem Closed.addEdge
    (closed : graph.Closed region)
    {source : Nat}
    (inside : source < graph.size)
    {edge : Edge}
    (member : edge.target ∈ region) :
    (graph.addEdge source edge).Closed region := by
  intro id idMember candidate candidateMember
  rcases (mem_edges_addEdge_iff inside).mp candidateMember with old | ⟨_, rfl⟩
  · exact closed id idMember candidate old
  · exact member

theorem Closed.union
    (closed : graph.Closed region)
    (otherClosed : graph.Closed other) :
    graph.Closed (region ∪ other) := by
  rintro id (member | member) edge edgeMember
  · exact Or.inl (closed id member edge edgeMember)
  · exact Or.inr (otherClosed id member edge edgeMember)

theorem Unentered.addEdge
    {node : Nat}
    (unentered : graph.Unentered region node)
    {source : Nat}
    (inside : source < graph.size)
    {edge : Edge}
    (different : edge.target ≠ node) :
    (graph.addEdge source edge).Unentered region node := by
  intro id idMember candidate candidateMember
  rcases (mem_edges_addEdge_iff inside).mp candidateMember with old | ⟨_, rfl⟩
  · exact unentered id idMember candidate old
  · exact different

/-- A node is not entered from a region that is closed and does not have it. -/
theorem Unentered.union
    {node : Nat}
    (unentered : graph.Unentered region node)
    (closed : graph.Closed other)
    (outside : node ∉ other) :
    graph.Unentered (region ∪ other) node := by
  rintro id (member | member) edge edgeMember
  · exact unentered id member edge edgeMember
  · rintro rfl
    exact outside (closed id member edge edgeMember)

/-- Two new nodes without edges. -/
theorem offers_addNode_addNode
    (crossing : Label → σ → σ → Prop)
    (graph : Graph τ) :
    graph.addNode.addNode.Offers crossing {graph.size, graph.size + 1}
      ⟨graph.size, graph.size + 1⟩ (fun _ _ => False) := by
  have noEdges :
      ∀ id ∈ ({graph.size, graph.size + 1} : Set Nat),
        (graph.addNode.addNode.node id).edges = [] := by
    intro id member
    rw [node_addNode, node_addNode, node_of_size_le]
    rcases member with rfl | rfl
    · exact Nat.le_refl _
    · exact Nat.le_succ _
  refine ⟨⟨?_, Or.inl rfl, Or.inr rfl, ?_, ?_⟩, ?_, ?_, noEdges _ (Or.inr rfl)⟩
  · rintro id (rfl | rfl)
    · rw [size_addNode, size_addNode]
      omega
    · simp
  · intro id member edge edgeMember
    rw [noEdges id member] at edgeMember
    simp at edgeMember
  · intro source target
    rw [iff_false]
    intro route
    have same := route.eq_of_deadEnd (noEdges _ (Or.inl rfl))
    simp at same
  · simp
  · intro id member edge edgeMember
    rw [noEdges id member] at edgeMember
    simp at edgeMember

/-- An edge from the entry to the exit is one more way to cross a fragment. -/
theorem Offers.bridge
    (offers : graph.Offers crossing region fragment crosses)
    {edge : Edge}
    (across : edge.target = fragment.last) :
    (graph.addEdge fragment.first edge).Offers crossing region fragment
      (fun source target => crosses source target ∨ edge.Passes crossing source target) := by
  have inside := offers.inside _ offers.first
  refine ⟨⟨?_, offers.first, offers.last, ?_, ?_⟩, offers.distinct, ?_, ?_⟩
  · simpa using offers.inside
  · exact offers.closed.addEdge inside (across ▸ offers.last)
  · intro source target
    rw [route_addEdge_iff_of_noReturn inside, offers.route_iff]
    · constructor
      · rintro (crossed | ⟨here, behind, front, crossed, back⟩)
        · exact Or.inl crossed
        · cases offers.eq_of_route_first offers.first front
          rw [across] at back
          cases offers.eq_of_route_last back
          exact Or.inr crossed
      · rintro (crossed | crossed)
        · exact Or.inl crossed
        · exact Or.inr ⟨source, target, .refl, crossed, across ▸ .refl⟩
    · intro behind here route
      rw [across] at route
      have same := offers.eq_of_route_last route
      exact offers.distinct (congrArg Prod.fst same)
  · exact offers.entry.addEdge inside (across ▸ offers.distinct.symm)
  · rw [node_addEdge_of_ne offers.distinct.symm]
    exact offers.exit

/-- Routes from the entry of a fragment in a graph where one of its nodes leads to its exit. -/
theorem Offers.route_skip
    (offers : graph.Offers crossing region fragment crosses)
    {early : Nat}
    (member : early ∈ region)
    (different : early ≠ fragment.last)
    {id : Nat}
    {source target : σ} :
    (graph.link early fragment.last).Route crossing (fragment.first, source) (id, target) ↔
      graph.Route crossing (fragment.first, source) (id, target) ∨
        (id = fragment.last ∧
          graph.Route crossing (fragment.first, source) (early, target)) := by
  unfold link
  rw [route_addEdge_iff_of_noReturn (offers.inside _ member)]
  · apply or_congr_right
    constructor
    · rintro ⟨here, behind, front, rfl, back⟩
      cases offers.eq_of_route_last back
      exact ⟨rfl, front⟩
    · rintro ⟨rfl, route⟩
      exact ⟨target, target, route, rfl, .refl⟩
  · intro behind here route
    have same := offers.eq_of_route_last route
    exact different (congrArg Prod.fst same)

/-- An edge to the exit leaves out what would come behind one of the nodes. -/
theorem Offers.skip
    (offers : graph.Offers crossing region fragment crosses)
    {early : Nat}
    (member : early ∈ region)
    (different : early ≠ fragment.last) :
    (graph.link early fragment.last).Offers crossing region fragment
      (fun source target =>
        crosses source target ∨
          graph.Route crossing (fragment.first, source) (early, target)) := by
  have inside := offers.inside _ member
  refine ⟨⟨?_, offers.first, offers.last, ?_, ?_⟩, offers.distinct, ?_, ?_⟩
  · simpa [link] using offers.inside
  · exact offers.closed.addEdge inside offers.last
  · intro source target
    rw [offers.route_skip member different, offers.route_iff]
    simp
  · exact offers.entry.addEdge inside offers.distinct.symm
  · rw [link, node_addEdge_of_ne different.symm]
    exact offers.exit

/-- Routes from the entry of a fragment whose exit leads to another fragment. -/
theorem Offers.route_chain
    (former : graph.Offers crossing region fragment crosses)
    (latter : graph.Offers crossing other inner innerCrosses)
    (disjoint : Disjoint region other)
    {source : σ}
    {target : Nat × σ} :
    (graph.link fragment.last inner.first).Route crossing (fragment.first, source) target ↔
      graph.Route crossing (fragment.first, source) target ∨
        ∃ middle,
          crosses source middle ∧ graph.Route crossing (inner.first, middle) target := by
  unfold link
  rw [route_addEdge_iff_of_noReturn (former.inside _ former.last)]
  · apply or_congr_right
    constructor
    · rintro ⟨here, behind, front, rfl, back⟩
      exact ⟨here, (former.route_iff _ _).mp front, back⟩
    · rintro ⟨middle, crossed, back⟩
      exact ⟨middle, middle, (former.route_iff _ _).mpr crossed, rfl, back⟩
  · intro behind here route
    exact latter.closed.not_route disjoint.symm latter.first former.last route

/-- Two fragments are crossed one behind the other when the one leads to the other. -/
theorem Offers.chain
    (former : graph.Offers crossing region fragment crosses)
    (latter : graph.Offers crossing other inner innerCrosses)
    (disjoint : Disjoint region other) :
    (graph.link fragment.last inner.first).Offers crossing (region ∪ other)
      ⟨fragment.first, inner.last⟩ (Relation.Comp crosses innerCrosses) := by
  have inside := former.inside _ former.last
  have apart : ∀ {id otherId}, id ∈ region → otherId ∈ other → id ≠ otherId :=
    fun member otherMember => Set.disjoint_iff_forall_ne.mp disjoint member otherMember
  refine ⟨⟨?_, Or.inl former.first, Or.inr latter.last, ?_, ?_⟩, ?_, ?_, ?_⟩
  · rintro id (member | member)
    · simpa [link] using former.inside id member
    · simpa [link] using latter.inside id member
  · exact (former.closed.union latter.closed).addEdge inside (Or.inr latter.first)
  · intro source target
    rw [former.route_chain latter disjoint]
    constructor
    · rintro (route | ⟨middle, crossed, back⟩)
      · exact (former.closed.not_route disjoint former.first latter.last route).elim
      · exact ⟨middle, crossed, (latter.route_iff _ _).mp back⟩
    · rintro ⟨middle, crossed, back⟩
      exact Or.inr ⟨middle, crossed, (latter.route_iff _ _).mpr back⟩
  · exact apart former.first latter.last
  · apply Unentered.addEdge _ inside
    · exact (apart former.first latter.first).symm
    · exact former.entry.union latter.closed (Set.disjoint_left.mp disjoint former.first)
  · rw [link, node_addEdge_of_ne (apart former.last latter.last).symm]
    exact latter.exit

/-- A fragment whose exit leads to its entry is crossed once or several times. -/
theorem Carries.loop
    (carries : graph.Carries crossing region fragment crosses) :
    (graph.link fragment.last fragment.first).Carries crossing region fragment
      (Relation.TransGen crosses) := by
  have inside := carries.inside _ carries.last
  have again :
      graph.Again crossing fragment.last (.silent fragment.first) = crosses := by
    funext behind target
    apply propext
    unfold Again
    constructor
    · rintro ⟨here, route, rfl⟩
      exact (carries.route_iff _ _).mp route
    · intro crossed
      exact ⟨target, (carries.route_iff _ _).mpr crossed, rfl⟩
  refine ⟨?_, carries.first, carries.last, ?_, ?_⟩
  · simpa [link] using carries.inside
  · exact carries.closed.addEdge inside carries.first
  · intro source target
    unfold link
    rw [route_addEdge_iff inside, again]
    constructor
    · rintro (route | ⟨here, first, last, front, rfl, many, back⟩)
      · exact .single ((carries.route_iff _ _).mp route)
      · exact Relation.TransGen.trans_right
          (Relation.ReflTransGen.head ((carries.route_iff _ _).mp front) many)
          (.single ((carries.route_iff _ _).mp back))
    · intro crossed
      obtain ⟨last, many, once⟩ := Relation.TransGen.tail'_iff.mp crossed
      rcases many.cases_head with rfl | ⟨first, front, rest⟩
      · exact Or.inl ((carries.route_iff _ _).mpr once)
      · exact Or.inr ⟨first, first, last, (carries.route_iff _ _).mpr front, rfl, rest,
          (carries.route_iff _ _).mpr once⟩

/-- With an edge from an unused entry, routes from there go where routes from its target go. -/
theorem Offers.route_link_first
    (offers : graph.Offers crossing region fragment crosses)
    (carries : graph.Carries crossing other inner innerCrosses)
    (disjoint : Disjoint region other)
    {source : σ}
    {target : Nat × σ} :
    (graph.link fragment.first inner.first).Route crossing (fragment.first, source) target ↔
      graph.Route crossing (fragment.first, source) target ∨
        graph.Route crossing (inner.first, source) target := by
  unfold link
  rw [route_addEdge_iff_of_noReturn (offers.inside _ offers.first)]
  · constructor
    · rintro (route | ⟨here, behind, front, rfl, back⟩)
      · exact Or.inl route
      · cases offers.eq_of_route_first offers.first front
        exact Or.inr back
    · rintro (route | route)
      · exact Or.inl route
      · exact Or.inr ⟨source, source, .refl, rfl, route⟩
  · intro behind here route
    exact carries.closed.not_route disjoint.symm carries.first offers.first route

/-- Routes in a graph where another fragment has been put between the ends of a fragment. -/
theorem Offers.route_enclose
    (offers : graph.Offers crossing region fragment crosses)
    (carries : graph.Carries crossing other inner innerCrosses)
    (disjoint : Disjoint region other)
    {id : Nat}
    {source target : σ} :
    ((graph.link fragment.first inner.first).link inner.last fragment.last).Route crossing
        (fragment.first, source) (id, target) ↔
      graph.Route crossing (fragment.first, source) (id, target) ∨
        graph.Route crossing (inner.first, source) (id, target) ∨
          (id = fragment.last ∧ innerCrosses source target) := by
  have different : inner.last ≠ fragment.last :=
    (Set.disjoint_iff_forall_ne.mp disjoint offers.last carries.last).symm
  have exit : ((graph.link fragment.first inner.first).node fragment.last).edges = [] := by
    rw [link, node_addEdge_of_ne offers.distinct.symm]
    exact offers.exit
  have toInner :
      ∀ {here},
        (graph.link fragment.first inner.first).Route crossing (fragment.first, source)
            (inner.last, here) ↔
          innerCrosses source here := by
    intro here
    rw [offers.route_link_first carries disjoint, carries.route_iff]
    constructor
    · rintro (route | crossed)
      · exact (offers.closed.not_route disjoint offers.first carries.last route).elim
      · exact crossed
    · exact Or.inr
  conv_lhs => rw [link]
  rw [route_addEdge_iff_of_noReturn (by simpa [link] using carries.inside _ carries.last),
    offers.route_link_first carries disjoint, or_assoc]
  · apply or_congr_right
    apply or_congr_right
    constructor
    · rintro ⟨here, behind, front, rfl, back⟩
      cases back.eq_of_deadEnd exit
      exact ⟨rfl, toInner.mp front⟩
    · rintro ⟨rfl, crossed⟩
      exact ⟨target, target, toInner.mpr crossed, rfl, .refl⟩
  · intro behind here route
    have same := route.eq_of_deadEnd exit
    exact different (congrArg Prod.fst same)

/-- Between the ends of a fragment another one is put as one more way to cross it. -/
theorem Offers.enclose
    (offers : graph.Offers crossing region fragment crosses)
    (carries : graph.Carries crossing other inner innerCrosses)
    (disjoint : Disjoint region other) :
    ((graph.link fragment.first inner.first).link inner.last fragment.last).Offers crossing
      (region ∪ other) fragment
      (fun source target => crosses source target ∨ innerCrosses source target) := by
  have insideFirst := offers.inside _ offers.first
  have insideLast : inner.last < (graph.link fragment.first inner.first).size := by
    simpa [link] using carries.inside _ carries.last
  have outside : ∀ {id}, id ∈ region → id ∉ other :=
    fun member => Set.disjoint_left.mp disjoint member
  refine ⟨⟨?_, Or.inl offers.first, Or.inl offers.last, ?_, ?_⟩, offers.distinct, ?_, ?_⟩
  · rintro id (member | member)
    · simpa [link] using offers.inside id member
    · simpa [link] using carries.inside id member
  · apply Closed.addEdge _ insideLast (Or.inl offers.last)
    exact (offers.closed.union carries.closed).addEdge insideFirst (Or.inr carries.first)
  · intro source target
    rw [offers.route_enclose carries disjoint, offers.route_iff]
    apply or_congr_right
    constructor
    · rintro (route | ⟨_, crossed⟩)
      · exact (carries.closed.not_route disjoint.symm carries.first offers.last route).elim
      · exact crossed
    · intro crossed
      exact Or.inr ⟨rfl, crossed⟩
  · refine Unentered.addEdge (Unentered.addEdge ?_ insideFirst ?_) insideLast ?_
    · exact offers.entry.union carries.closed (outside offers.first)
    · intro same
      exact outside offers.first (same ▸ carries.first)
    · exact offers.distinct.symm
  · rw [link, node_addEdge_of_ne, link, node_addEdge_of_ne offers.distinct.symm]
    · exact offers.exit
    · intro same
      exact outside offers.last (same ▸ carries.last)

end Fragment

end Graph

end LexicalAutomata
