import LexicalAutomata.Proofs.Graph.Combinators
import LexicalAutomata.Proofs.Graph.Fragments
import Mathlib.Data.List.Perm.Subperm
import Mathlib.Order.Interval.Set.Defs

namespace LexicalAutomata.Graph

/-!
# Isolated parts of a graph

What is added to a graph lies behind the nodes that were there, and no edge leads from it to
them.  In such a part there are loose fragments: nothing leads to their entries or from their
exits, and all these nodes are different ones.  An edge does no harm as long as it leaves no
loose exit and enters no loose entry.  So each way of putting fragments together lets go of the
ends that it needs for its edges, and keeps the others loose.
-/

variable {τ : Type} {base graph later : Graph τ} {loose more fewer rest : List Fragment}

/-- The nodes that a larger graph has behind those of a graph. -/
def added
    (graph later : Graph τ) :
    Set Nat :=
  Set.Ico graph.size later.size

section Added

variable {id : Nat}

/-- What is added in two steps is added in the first or in the second. -/
theorem mem_added_or
    (member : id ∈ base.added later)
    (graph : Graph τ) :
    id ∈ base.added graph ∨ id ∈ graph.added later := by
  rcases Nat.lt_or_ge id graph.size with early | late
  · exact Or.inl ⟨member.1, early⟩
  · exact Or.inr ⟨late, member.2⟩

/-- A node that was added stays added. -/
theorem mem_added_of_le
    (member : id ∈ base.added graph)
    (le : graph.size ≤ later.size) :
    id ∈ base.added later :=
  ⟨member.1, Nat.lt_of_lt_of_le member.2 le⟩

/-- A node that was added late was added at all. -/
theorem mem_added_of_ge
    (member : id ∈ graph.added later)
    (le : base.size ≤ graph.size) :
    id ∈ base.added later :=
  ⟨le.trans member.1, member.2⟩

/-- A node that was added late is none that was there early. -/
theorem ne_of_mem_added
    {other : Nat}
    (late : id ∈ graph.added later)
    (early : other ∈ base.added graph) :
    id ≠ other :=
  Nat.ne_of_gt (Nat.lt_of_lt_of_le early.2 late.1)

@[simp] theorem added_addEdge
    (base graph : Graph τ)
    (source : Nat)
    (edge : Edge) :
    base.added (graph.addEdge source edge) = base.added graph := by
  simp [added]

end Added

/-- What has been added to a graph is isolated, and some fragments in it are loose. -/
structure Isolates
    (base graph : Graph τ)
    (loose : List Fragment) : Prop
    extends Grows ∅ base graph where
  closed : graph.Closed (base.added graph)
  distinct : (loose.map Fragment.first ++ loose.map Fragment.last).Nodup
  inside :
    ∀ id ∈ loose.map Fragment.first ++ loose.map Fragment.last, id ∈ base.added graph
  entry : ∀ fragment ∈ loose, graph.Unentered (base.added graph) fragment.first
  exit : ∀ fragment ∈ loose, (graph.node fragment.last).edges = []

/-- An edge from a node would leave no loose exit. -/
def MayLeave
    (base graph : Graph τ)
    (loose : List Fragment)
    (id : Nat) :
    Prop :=
  id ∈ base.added graph ∧ id ∉ loose.map Fragment.last

/-- An edge to a node would enter no loose entry. -/
def MayEnter
    (base graph : Graph τ)
    (loose : List Fragment)
    (id : Nat) :
    Prop :=
  id ∈ base.added graph ∧ id ∉ loose.map Fragment.first

section Ends

variable {fragment : Fragment}

/-- A loose fragment begins in what was added. -/
theorem Isolates.first_mem
    (isolates : Isolates base graph loose)
    (member : fragment ∈ loose) :
    fragment.first ∈ base.added graph :=
  isolates.inside _ (List.mem_append_left _ (List.mem_map_of_mem member))

/-- A loose fragment ends in what was added. -/
theorem Isolates.last_mem
    (isolates : Isolates base graph loose)
    (member : fragment ∈ loose) :
    fragment.last ∈ base.added graph :=
  isolates.inside _ (List.mem_append_right _ (List.mem_map_of_mem member))

/-- An entry is no exit. -/
theorem Isolates.first_ne_last
    (isolates : Isolates base graph loose)
    {other : Fragment}
    (member : fragment ∈ loose)
    (otherMember : other ∈ loose) :
    fragment.first ≠ other.last :=
  (List.nodup_append.mp isolates.distinct).2.2 _ (List.mem_map_of_mem member) _
    (List.mem_map_of_mem otherMember)

/-- An edge may leave the first node of a loose fragment. -/
theorem Isolates.mayLeave_first
    (isolates : Isolates base graph loose)
    (member : fragment ∈ loose) :
    MayLeave base graph loose fragment.first := by
  refine ⟨isolates.first_mem member, ?_⟩
  intro isLast
  obtain ⟨other, otherMember, same⟩ := List.mem_map.mp isLast
  exact isolates.first_ne_last member otherMember same.symm

/-- An edge may enter the last node of a loose fragment. -/
theorem Isolates.mayEnter_last
    (isolates : Isolates base graph loose)
    (member : fragment ∈ loose) :
    MayEnter base graph loose fragment.last := by
  refine ⟨isolates.last_mem member, ?_⟩
  intro isFirst
  obtain ⟨other, otherMember, same⟩ := List.mem_map.mp isFirst
  exact isolates.first_ne_last otherMember member same

/-- The exit of a fragment can be left when it is not one of the loose ones any more. -/
theorem Isolates.mayLeave_last
    (isolates : Isolates base graph (fragment :: rest)) :
    MayLeave base graph rest fragment.last :=
  ⟨isolates.last_mem List.mem_cons_self,
    (List.nodup_cons.mp (List.nodup_append.mp isolates.distinct).2.1).1⟩

/-- An edge may enter a fragment that is used up. -/
theorem Isolates.mayEnter_first
    (isolates : Isolates base graph (fragment :: rest)) :
    MayEnter base graph rest fragment.first :=
  ⟨isolates.first_mem List.mem_cons_self,
    (List.nodup_cons.mp (List.nodup_append.mp isolates.distinct).1).1⟩

end Ends

/-- A link changes nothing about what edges may leave. -/
theorem MayLeave.link
    {id : Nat}
    (mayLeave : MayLeave base graph loose id)
    (source target : Nat) :
    MayLeave base (graph.link source target) loose id := by
  simpa [MayLeave, Graph.link] using mayLeave

/-- A link changes nothing about what edges may enter. -/
theorem MayEnter.link
    {id : Nat}
    (mayEnter : MayEnter base graph loose id)
    (source target : Nat) :
    MayEnter base (graph.link source target) loose id := by
  simpa [MayEnter, Graph.link] using mayEnter

/-- Nothing has been added yet. -/
theorem Isolates.refl
    (graph : Graph τ) :
    Isolates graph graph [] where
  toGrows :=
    Grows.refl ∅ graph
  closed _ member :=
    (Nat.not_lt_of_le member.1 member.2).elim
  distinct :=
    List.nodup_nil
  inside _ impossible :=
    (List.not_mem_nil impossible).elim
  entry _ impossible :=
    (List.not_mem_nil impossible).elim
  exit _ impossible :=
    (List.not_mem_nil impossible).elim

/-- Loose ends can be let go, and other ones can be taken for the ends of a fragment. -/
theorem Isolates.regroup
    (isolates : Isolates base graph loose)
    (firsts : (fewer.map Fragment.first).Subperm (loose.map Fragment.first))
    (lasts : (fewer.map Fragment.last).Subperm (loose.map Fragment.last)) :
    Isolates base graph fewer where
  toGrows :=
    isolates.toGrows
  closed :=
    isolates.closed
  distinct := by
    obtain ⟨ends, same, among⟩ := firsts.append lasts
    exact (isolates.distinct.sublist among).perm same
  inside id member :=
    isolates.inside id ((firsts.append lasts).subset member)
  entry fragment member := by
    obtain ⟨other, otherMember, same⟩ :=
      List.mem_map.mp (firsts.subset (List.mem_map_of_mem member))
    rw [← same]
    exact isolates.entry other otherMember
  exit fragment member := by
    obtain ⟨other, otherMember, same⟩ :=
      List.mem_map.mp (lasts.subset (List.mem_map_of_mem member))
    rw [← same]
    exact isolates.exit other otherMember

/-- The order of the loose fragments does not matter. -/
theorem Isolates.perm
    (isolates : Isolates base graph loose)
    (same : loose.Perm more) :
    Isolates base graph more :=
  isolates.regroup (same.symm.map Fragment.first).subperm (same.symm.map Fragment.last).subperm

/-- Fragments that are not to be put to use any more can be let go. -/
theorem Isolates.sublist
    (isolates : Isolates base graph loose)
    (among : fewer.Sublist loose) :
    Isolates base graph fewer :=
  isolates.regroup (among.map Fragment.first).subperm (among.map Fragment.last).subperm

/-- What is added in isolation to an isolated part belongs to that part. -/
theorem Isolates.trans
    (isolates : Isolates base graph loose)
    (further : Isolates graph later more) :
    Isolates base later (more ++ loose) := by
  have front : base.size ≤ graph.size := isolates.size_le
  have back : graph.size ≤ later.size := further.size_le
  have sameEdges : ∀ id ∈ base.added graph, (later.node id).edges = (graph.node id).edges :=
    fun id member => further.edges id member.2 (Set.notMem_empty id)
  refine ⟨isolates.toGrows.trans further.toGrows (.refl _ _), ?_, ?_, ?_, ?_, ?_⟩
  · intro id member edge edgeMember
    rcases mem_added_or member graph with early | late
    · rw [sameEdges id early] at edgeMember
      exact mem_added_of_le (isolates.closed id early edge edgeMember) back
    · exact mem_added_of_ge (further.closed id late edge edgeMember) front
  · have ends :
        ((more.map Fragment.first ++ more.map Fragment.last) ++
            (loose.map Fragment.first ++ loose.map Fragment.last)).Perm
          ((more ++ loose).map Fragment.first ++ (more ++ loose).map Fragment.last) := by
      simp only [List.map_append, List.append_assoc]
      exact (List.perm_append_comm_assoc _ _ _).append_left _
    refine List.Nodup.perm ?_ ends
    exact List.nodup_append.mpr ⟨further.distinct, isolates.distinct, fun id late other early =>
      ne_of_mem_added (further.inside id late) (isolates.inside other early)⟩
  · simp only [List.map_append, List.mem_append]
    rintro id ((late | early) | (late | early))
    · exact mem_added_of_ge (further.inside id (List.mem_append_left _ late)) front
    · exact mem_added_of_le (isolates.inside id (List.mem_append_left _ early)) back
    · exact mem_added_of_ge (further.inside id (List.mem_append_right _ late)) front
    · exact mem_added_of_le (isolates.inside id (List.mem_append_right _ early)) back
  · intro fragment member id idMember edge edgeMember
    rcases mem_added_or idMember graph with early | late
    · rw [sameEdges id early] at edgeMember
      rcases List.mem_append.mp member with new | old
      · have target := isolates.closed id early edge edgeMember
        exact (ne_of_mem_added (further.first_mem new) target).symm
      · exact isolates.entry fragment old id early edge edgeMember
    · rcases List.mem_append.mp member with new | old
      · exact further.entry fragment new id late edge edgeMember
      · have target := further.closed id late edge edgeMember
        exact ne_of_mem_added target (isolates.first_mem old)
  · intro fragment member
    rcases List.mem_append.mp member with new | old
    · exact further.exit fragment new
    · rw [sameEdges _ (isolates.last_mem old)]
      exact isolates.exit fragment old

/-- Two new nodes are the ends of a fragment. -/
theorem isolates_addNode_addNode
    (graph : Graph τ) :
    Isolates graph graph.addNode.addNode [⟨graph.size, graph.size + 1⟩] := by
  have noEdges :
      ∀ id ∈ graph.added graph.addNode.addNode,
        (graph.addNode.addNode.node id).edges = [] := by
    intro id member
    rw [node_addNode, node_addNode, node_of_size_le member.1]
  have inside :
      ∀ id, id = graph.size ∨ id = graph.size + 1 → id ∈ graph.added graph.addNode.addNode := by
    intro id isEnd
    simp only [added, size_addNode, Set.mem_Ico]
    omega
  refine ⟨graph.grows_addNode_addNode.mono (graph.within_ends ∅), ?_, by simp, ?_, ?_, ?_⟩
  · intro id member edge edgeMember
    rw [noEdges id member] at edgeMember
    exact (List.not_mem_nil edgeMember).elim
  · simpa using inside
  · intro fragment _ id member edge edgeMember
    rw [noEdges id member] at edgeMember
    exact (List.not_mem_nil edgeMember).elim
  · intro fragment member
    cases List.mem_singleton.mp member
    exact noEdges _ (inside _ (Or.inr rfl))

/-- Two new nodes are the ends of a loose fragment. -/
theorem Isolates.addNode_addNode
    (isolates : Isolates base graph loose) :
    Isolates base graph.addNode.addNode (⟨graph.size, graph.size + 1⟩ :: loose) :=
  isolates.trans graph.isolates_addNode_addNode

/-- An edge that leaves no loose exit and enters no loose entry. -/
theorem Isolates.addEdge
    (isolates : Isolates base graph loose)
    {source : Nat}
    {edge : Edge}
    (mayLeave : MayLeave base graph loose source)
    (mayEnter : MayEnter base graph loose edge.target) :
    Isolates base (graph.addEdge source edge) loose := by
  obtain ⟨sourceInside, leaves⟩ := mayLeave
  obtain ⟨targetInside, enters⟩ := mayEnter
  refine ⟨?_, ?_, isolates.distinct, ?_, ?_, ?_⟩
  · have grows : Grows {source} graph (graph.addEdge source edge) :=
      grows_addEdge (Set.mem_singleton source) edge
    refine isolates.toGrows.trans grows ?_
    rintro id rfl below
    exact (Nat.not_lt_of_le sourceInside.1 below).elim
  · rw [added_addEdge]
    exact isolates.closed.addEdge sourceInside.2 targetInside
  · rw [added_addEdge]
    exact isolates.inside
  · intro fragment member
    rw [added_addEdge]
    refine (isolates.entry fragment member).addEdge sourceInside.2 ?_
    intro entered
    exact enters (List.mem_map.mpr ⟨fragment, member, entered.symm⟩)
  · intro fragment member
    rw [node_addEdge_of_ne]
    · exact isolates.exit fragment member
    · intro left
      exact leaves (List.mem_map.mpr ⟨fragment, member, left⟩)

section Fragments

variable {former latter inner whole : Fragment}

/-- An edge across a loose fragment. -/
theorem Isolates.bridge
    (isolates : Isolates base graph (inner :: rest))
    {edge : Edge}
    (across : edge.target = inner.last) :
    Isolates base (graph.addEdge inner.first edge) (inner :: rest) := by
  have member : inner ∈ inner :: rest :=
    List.mem_cons_self
  refine isolates.addEdge (isolates.mayLeave_first member) ?_
  rw [across]
  exact isolates.mayEnter_last member

/-- The exit of one fragment and the entry of another one are let go, and joined. -/
theorem Isolates.chain
    (isolates : Isolates base graph (former :: latter :: rest)) :
    Isolates base (graph.link former.last latter.first)
      (⟨former.first, latter.last⟩ :: rest) := by
  have joined : Isolates base graph (⟨former.first, latter.last⟩ :: rest) :=
    isolates.regroup ((List.sublist_cons_self _ _).cons_cons _).subperm
      (List.sublist_cons_self _ _).subperm
  exact joined.addEdge isolates.mayLeave_last (isolates.perm (.swap _ _ _)).mayEnter_first

/-- A fragment that is not loose any more is put between the ends of a loose one. -/
theorem Isolates.enclose
    (isolates : Isolates base graph (whole :: rest))
    (mayEnter : MayEnter base graph (whole :: rest) inner.first)
    (mayLeave : MayLeave base graph (whole :: rest) inner.last) :
    Isolates base ((graph.link whole.first inner.first).link inner.last whole.last)
      (whole :: rest) := by
  have entered : Isolates base (graph.link whole.first inner.first) (whole :: rest) :=
    isolates.addEdge (isolates.mayLeave_first List.mem_cons_self) mayEnter
  exact entered.addEdge (mayLeave.link _ _) (entered.mayEnter_last List.mem_cons_self)

/-- A fragment is let go, and put between two new nodes with a way back and a way around. -/
theorem Isolates.star
    (isolates : Isolates base graph (inner :: rest)) :
    Isolates base (Build.star inner graph).2 ((Build.star inner graph).1 :: rest) := by
  rw [Build.star_eq]
  let whole : Fragment := ⟨graph.size, graph.size + 1⟩
  have nodes : Isolates base graph.addNode.addNode (inner :: whole :: rest) :=
    isolates.addNode_addNode.perm (.swap _ _ _)
  have kept : Isolates base graph.addNode.addNode (whole :: rest) :=
    nodes.sublist (List.sublist_cons_self _ _)
  have back : Isolates base (graph.addNode.addNode.link inner.last inner.first) (whole :: rest) :=
    kept.addEdge nodes.mayLeave_last nodes.mayEnter_first
  have enclosed := back.enclose (nodes.mayEnter_first.link _ _) (nodes.mayLeave_last.link _ _)
  exact enclosed.bridge rfl

/-- Loose fragments are let go one after the other, and put between the ends of another one. -/
theorem Isolates.encloseAll
    {first last : Nat}
    {fragments : List Fragment}
    (isolates : Isolates base graph (⟨first, last⟩ :: (fragments ++ rest))) :
    Isolates base (Build.enclose first last fragments graph).2 (⟨first, last⟩ :: rest) := by
  induction fragments generalizing graph with
  | nil =>
      exact isolates
  | cons inner others inductionHypothesis =>
      have loosened : Isolates base graph (inner :: ⟨first, last⟩ :: (others ++ rest)) :=
        isolates.perm (.swap _ _ _)
      have kept : Isolates base graph (⟨first, last⟩ :: (others ++ rest)) :=
        loosened.sublist (List.sublist_cons_self _ _)
      rw [Build.enclose_cons]
      exact inductionHypothesis (kept.enclose loosened.mayEnter_first loosened.mayLeave_last)

/-- Loose fragments are put between two new nodes. -/
theorem Isolates.union
    {fragments : List Fragment}
    (isolates : Isolates base graph (fragments ++ rest)) :
    Isolates base (Build.union fragments graph).2 ((Build.union fragments graph).1 :: rest) := by
  rw [Build.union_eq]
  exact isolates.addNode_addNode.encloseAll

end Fragments

end LexicalAutomata.Graph
