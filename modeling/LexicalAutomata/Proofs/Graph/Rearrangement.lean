import LexicalAutomata.Proofs.Graph.Combinators
import LexicalAutomata.Proofs.Graph.Relocation
import LexicalAutomata.Proofs.Graph.Renumbering

namespace LexicalAutomata

/-!
# Graphs that are put together in another order

Renumbered graphs stay renumbered graphs when the same nodes are put behind them, or when
fragments that correspond are joined in them.  Two blocks of nodes behind a graph can
change their places.
-/

variable {τ : Type}

/-- The fragment with the numbers of its ends changed. -/
def Fragment.renumber
    (renumber : Equiv.Perm Nat)
    (fragment : Fragment) :
    Fragment :=
  ⟨renumber fragment.first, renumber fragment.last⟩

/-- The node with the numbers of the targets of its edges changed. -/
def Node.renumber
    (renumber : Equiv.Perm Nat)
    (node : Node τ) :
    Node τ :=
  { node with edges := node.edges.map (Edge.renumber renumber) }

variable {renumber : Equiv.Perm Nat}

theorem Edge.renumber_injective
    (renumber : Equiv.Perm Nat) :
    Function.Injective (Edge.renumber renumber) := by
  intro first second same
  have back := congrArg (Edge.renumber renumber.symm) same
  simpa using back

/-- An edge stays as it is when its target keeps its number. -/
theorem Edge.renumber_of_fixed
    {edge : Edge}
    (fixed : renumber edge.target = edge.target) :
    edge.renumber renumber = edge := by
  cases edge with
  | silent =>
      exact congrArg Edge.silent fixed
  | labelled label =>
      exact congrArg (Edge.labelled label) fixed

/-- A node stays as it is when the targets of its edges keep their numbers. -/
theorem Node.renumber_of_fixed
    {node : Node τ}
    (fixed : ∀ edge ∈ node.edges, renumber edge.target = edge.target) :
    node.renumber renumber = node := by
  have same : node.edges.map (Edge.renumber renumber) = node.edges.map id :=
    List.map_congr_left fun edge member => Edge.renumber_of_fixed (fixed edge member)
  rw [Node.renumber, same, List.map_id]

/-- A node is moved by another amount when the targets of its edges are. -/
theorem Node.renumber_shift
    {node : Node τ}
    {amount otherAmount : Nat}
    (moved : ∀ edge ∈ node.edges, renumber (amount + edge.target) = otherAmount + edge.target) :
    (node.shift amount).renumber renumber = node.shift otherAmount := by
  have same :
      (node.edges.map (Edge.shift amount)).map (Edge.renumber renumber) =
        node.edges.map (Edge.shift otherAmount) := by
    rw [List.map_map]
    refine List.map_congr_left fun edge member => ?_
    cases edge with
    | silent =>
        exact congrArg Edge.silent (moved _ member)
    | labelled label =>
        exact congrArg (Edge.labelled label) (moved _ member)
  simp only [Node.renumber, Node.shift, same]

/-- Exchange the `former` numbers from `start` on with the `latter` numbers behind them. -/
def exchange
    (start former latter : Nat) :
    Equiv.Perm Nat where
  toFun id :=
    if id < start then id
    else if id < start + former then id + latter
    else if id < start + former + latter then id - former
    else id
  invFun id :=
    if id < start then id
    else if id < start + latter then id + former
    else if id < start + latter + former then id - latter
    else id
  left_inv id := by
    dsimp only
    split_ifs <;> omega
  right_inv id := by
    dsimp only
    split_ifs <;> omega

section Exchange

variable {start former latter : Nat}

theorem exchange_of_lt
    {id : Nat}
    (front : id < start) :
    exchange start former latter id = id :=
  if_pos front

theorem exchange_former
    {place : Nat}
    (inside : place < former) :
    exchange start former latter (start + place) = start + latter + place := by
  simp only [exchange, Equiv.coe_fn_mk]
  split_ifs <;> omega

theorem exchange_latter
    {place : Nat}
    (inside : place < latter) :
    exchange start former latter (start + former + place) = start + place := by
  simp only [exchange, Equiv.coe_fn_mk]
  split_ifs <;> omega

theorem exchange_of_ge
    {id : Nat}
    (behind : start + former + latter ≤ id) :
    exchange start former latter id = id := by
  simp only [exchange, Equiv.coe_fn_mk]
  split_ifs <;> omega

/-- Fragments in front of both blocks keep their numbers. -/
theorem Fragment.renumber_exchange_front
    {fragment : Fragment}
    (inside : Located.Inside start fragment) :
    fragment.renumber (exchange start former latter) = fragment :=
  congrArg₂ Fragment.mk (exchange_of_lt inside.1) (exchange_of_lt inside.2)

/-- Fragments in the block that is in front come behind the other one. -/
theorem Fragment.renumber_exchange_former
    {fragment : Fragment}
    (inside : Located.Inside former fragment) :
    (Located.shift start fragment).renumber (exchange start former latter) =
      Located.shift (start + latter) fragment :=
  congrArg₂ Fragment.mk (exchange_former inside.1) (exchange_former inside.2)

/-- Fragments in the block that is behind come in front of the other one. -/
theorem Fragment.renumber_exchange_latter
    {fragment : Fragment}
    (inside : Located.Inside latter fragment) :
    (Located.shift (start + former) fragment).renumber (exchange start former latter) =
      Located.shift start fragment :=
  congrArg₂ Fragment.mk (exchange_latter inside.1) (exchange_latter inside.2)

end Exchange

namespace Graph

variable {graph other back front former latter : Graph τ}

/-- It is enough that the nodes are the same but for the targets of their edges. -/
theorem renumbered_of_node_eq
    (size : other.size = graph.size)
    (fixes : ∀ id, graph.size ≤ id → renumber id = id)
    (same : ∀ id, other.node (renumber id) = (graph.node id).renumber renumber) :
    Renumbered renumber graph other where
  size :=
    size
  fixes :=
    fixes
  bare id := by
    rw [same]
    rfl
  edges id edge member := by
    rw [same]
    exact List.mem_map_of_mem member
  back id edge member := by
    rw [same] at member
    obtain ⟨former, formerMember, rfl⟩ := List.mem_map.mp member
    simpa using formerMember

theorem Renumbered.mem_edges_iff
    (renumbered : Renumbered renumber graph other)
    {id : Nat}
    {edge : Edge} :
    edge.renumber renumber ∈ (other.node (renumber id)).edges ↔ edge ∈ (graph.node id).edges := by
  constructor
  · intro member
    simpa using renumbered.back id _ member
  · exact renumbered.edges id edge

theorem Renumbered.addNode
    (renumbered : Renumbered renumber graph other) :
    Renumbered renumber graph.addNode other.addNode where
  size := by
    simp [renumbered.size]
  fixes id outside := by
    rw [size_addNode] at outside
    exact renumbered.fixes id (Nat.le_of_succ_le outside)
  bare id := by
    simpa using renumbered.bare id
  edges id edge := by
    simpa using renumbered.edges id edge
  back id edge := by
    simpa using renumbered.back id edge

section Beside

theorem Renumbered.edges_beside
    (renumbered : Renumbered renumber graph other)
    {id : Nat}
    {edge : Edge}
    (member : edge ∈ ((graph.beside back).node id).edges) :
    edge.renumber renumber ∈ ((other.beside back).node (renumber id)).edges := by
  rcases graph.front_or_back id with inFront | ⟨place, rfl⟩
  · rw [node_beside_left inFront] at member
    rw [node_beside_left (renumbered.lt_size inFront)]
    exact renumbered.edges id edge member
  · rw [node_beside_right] at member
    obtain ⟨former, formerMember, rfl⟩ := List.mem_map.mp member
    have fixed : renumber (former.shift graph.size).target = (former.shift graph.size).target :=
      renumbered.fixes _ (by simp)
    rw [Edge.renumber_of_fixed fixed, renumbered.fixes _ (Nat.le_add_right _ _), ← renumbered.size,
      node_beside_right]
    exact List.mem_map_of_mem formerMember

/-- The same nodes can be put behind renumbered graphs. -/
theorem Renumbered.beside
    (renumbered : Renumbered renumber graph other)
    (back : Graph τ) :
    Renumbered renumber (graph.beside back) (other.beside back) where
  size := by
    simp [renumbered.size]
  fixes id outside := by
    rw [size_beside] at outside
    exact renumbered.fixes id (Nat.le_of_add_right_le outside)
  bare id := by
    rcases graph.front_or_back id with inFront | ⟨place, rfl⟩
    · rw [node_beside_left inFront, node_beside_left (renumbered.lt_size inFront)]
      exact renumbered.bare id
    · rw [renumbered.fixes _ (Nat.le_add_right _ _), node_beside_right, ← renumbered.size,
        node_beside_right]
  edges _ _ member :=
    renumbered.edges_beside member
  back id edge member := by
    have there := renumbered.symm.edges_beside member
    rwa [Equiv.symm_apply_apply] at there

/-- The edges of two blocks behind a graph lead to the same nodes when the blocks change places. -/
theorem node_beside_exchange
    (frontBears : front.Bears fun _ => True)
    (formerBears : former.Bears fun _ => True)
    (latterBears : latter.Bears fun _ => True)
    (id : Nat) :
    ((front.beside latter).beside former).node (exchange front.size former.size latter.size id) =
      (((front.beside former).beside latter).node id).renumber
        (exchange front.size former.size latter.size) := by
  -- The node is one of the front, of the former block, of the latter block, or none at all.
  rcases (front.beside former).front_or_back id with inFront | ⟨place, rfl⟩
  · rw [node_beside_left inFront]
    rcases front.front_or_back id with beforeBoth | ⟨place, rfl⟩
    · have stays := Nat.lt_add_right latter.size beforeBoth
      rw [exchange_of_lt beforeBoth, node_beside_left (by simpa using stays),
        node_beside_left beforeBoth, node_beside_left beforeBoth, Node.renumber_of_fixed]
      intro edge member
      exact exchange_of_lt (frontBears id edge member).target_lt
    · have inside : place < former.size := by
        simpa using inFront
      have moved :
          ((front.beside latter).beside former).node ((front.beside latter).size + place) =
            (former.node place).shift (front.beside latter).size :=
        node_beside_right place
      rw [size_beside] at moved
      rw [exchange_former inside, moved, node_beside_right, Node.renumber_shift]
      intro edge member
      exact exchange_former (formerBears place edge member).target_lt
  · rcases Nat.lt_or_ge place latter.size with inside | outside
    · rw [node_beside_right, size_beside, exchange_latter inside,
        node_beside_left (by simpa using inside), node_beside_right, Node.renumber_shift]
      intro edge member
      exact exchange_latter (latterBears place edge member).target_lt
    · have behind : front.size + former.size + latter.size ≤ front.size + former.size + place :=
        Nat.add_le_add_left outside _
      rw [size_beside, exchange_of_ge behind, node_of_size_le (by simp; omega),
        node_of_size_le (by simpa using outside)]
      rfl

/-- Two blocks of nodes behind a graph can change their places. -/
theorem renumbered_exchange
    (frontBears : front.Bears fun _ => True)
    (formerBears : former.Bears fun _ => True)
    (latterBears : latter.Bears fun _ => True) :
    Renumbered (exchange front.size former.size latter.size)
      ((front.beside former).beside latter) ((front.beside latter).beside former) := by
  refine renumbered_of_node_eq ?_ ?_ (node_beside_exchange frontBears formerBears latterBears)
  · simp only [size_beside]
    omega
  · intro id outside
    exact exchange_of_ge (by simpa using outside)

end Beside

section Enclose

variable {first last : Nat} {fragments others : List Fragment}

/-- Enclosing fragments adds edges only. -/
theorem grows_enclose
    (graph : Graph τ)
    (first last : Nat)
    (fragments : List Fragment) :
    Grows .univ graph (Build.enclose first last fragments graph).2 := by
  induction fragments generalizing graph with
  | nil =>
      exact .refl _ graph
  | cons inner rest inductionHypothesis =>
      have linked :
          Grows .univ graph ((graph.link first inner.first).link inner.last last) :=
        (grows_addEdge (Set.mem_univ _) _).addEdge (Set.mem_univ _) _
      exact linked.trans (inductionHypothesis _) (.refl _ _)

theorem size_enclose
    (graph : Graph τ)
    (first last : Nat)
    (fragments : List Fragment) :
    (Build.enclose first last fragments graph).2.size = graph.size := by
  induction fragments generalizing graph with
  | nil =>
      rfl
  | cons inner rest inductionHypothesis =>
      rw [Build.enclose_cons, inductionHypothesis]
      simp [link]

/-- An edge leads to the entry of each fragment, and one back from its exit. -/
theorem mem_edges_enclose_iff
    (firstInside : first < graph.size)
    (inside : ∀ fragment ∈ fragments, fragment.last < graph.size)
    {id : Nat}
    {edge : Edge} :
    edge ∈ ((Build.enclose first last fragments graph).2.node id).edges ↔
      edge ∈ (graph.node id).edges ∨
        ∃ fragment ∈ fragments,
          (id = first ∧ edge = .silent fragment.first) ∨
            (id = fragment.last ∧ edge = .silent last) := by
  induction fragments generalizing graph with
  | nil =>
      simp [Build.enclose_nil]
  | cons inner rest inductionHypothesis =>
      have lastInside : inner.last < (graph.link first inner.first).size := by
        simpa [link] using inside inner List.mem_cons_self
      have linked :=
        @inductionHypothesis ((graph.link first inner.first).link inner.last last)
          (by simpa [link] using firstInside)
          (fun fragment member => by
            simpa [link] using inside fragment (List.mem_cons_of_mem _ member))
      rw [Build.enclose_cons, linked]
      unfold link at lastInside ⊢
      rw [mem_edges_addEdge_iff lastInside, mem_edges_addEdge_iff firstInside]
      simp only [List.exists_mem_cons_iff, or_assoc]

/-- Fragments that correspond can be enclosed in renumbered graphs. -/
theorem Renumbered.enclose
    (renumbered : Renumbered renumber graph other)
    (firstInside : first < graph.size)
    (inside : ∀ fragment ∈ fragments, fragment.last < graph.size)
    (perm : (fragments.map (Fragment.renumber renumber)).Perm others) :
    Renumbered renumber (Build.enclose first last fragments graph).2
      (Build.enclose (renumber first) (renumber last) others other).2 := by
  have othersInside : ∀ fragment ∈ others, fragment.last < other.size := by
    intro fragment member
    obtain ⟨former, formerMember, rfl⟩ := List.mem_map.mp (perm.mem_iff.mpr member)
    exact renumbered.lt_size (inside former formerMember)
  have edges_iff :
      ∀ id edge,
        edge.renumber renumber ∈
            ((Build.enclose (renumber first) (renumber last) others other).2.node
              (renumber id)).edges ↔
          edge ∈ ((Build.enclose first last fragments graph).2.node id).edges := by
    intro id edge
    have silent_iff :
        ∀ target,
          edge.renumber renumber = .silent (renumber target) ↔ edge = .silent target :=
      fun target => (Edge.renumber_injective renumber).eq_iff (b := .silent target)
    rw [mem_edges_enclose_iff (renumbered.lt_size firstInside) othersInside,
      mem_edges_enclose_iff firstInside inside, renumbered.mem_edges_iff]
    simp only [← perm.mem_iff, List.mem_map, exists_exists_and_eq_and, Fragment.renumber,
      silent_iff, renumber.apply_eq_iff_eq]
  refine ⟨?_, ?_, ?_, ?_, ?_⟩
  · rw [size_enclose, size_enclose, renumbered.size]
  · rw [size_enclose]
    exact renumbered.fixes
  · intro id
    rw [(grows_enclose _ _ _ _).bare, (grows_enclose _ _ _ _).bare, renumbered.bare]
  · intro id edge
    exact (edges_iff id edge).mpr
  · intro id edge member
    rw [← edges_iff, Edge.renumber_renumber, Equiv.symm_trans_self, Edge.renumber_refl]
    exact member

end Enclose

/-- Fragments that correspond are joined in renumbered graphs, with entries that correspond. -/
theorem Renumbered.alternatives
    (renumbered : Renumbered renumber graph other)
    {fragments others : List Fragment}
    (inside : ∀ fragment ∈ fragments, fragment.last < graph.size)
    (perm : (fragments.map (Fragment.renumber renumber)).Perm others) :
    Renumbered renumber (Build.alternatives fragments graph).2
        (Build.alternatives others other).2 ∧
      (Build.alternatives others other).1.first =
        renumber (Build.alternatives fragments graph).1.first := by
  by_cases single : ∃ only, fragments = [only]
  · obtain ⟨only, rfl⟩ := single
    cases List.perm_singleton.mp perm.symm
    exact ⟨renumbered, rfl⟩
  · have severalOthers : ¬ ∃ only, others = [only] := by
      rintro ⟨only, rfl⟩
      obtain ⟨former, same, _⟩ := List.map_eq_singleton_iff.mp (List.perm_singleton.mp perm)
      exact single ⟨former, same⟩
    rw [Build.alternatives_of_several single, Build.alternatives_of_several severalOthers,
      Build.union_eq, Build.union_eq]
    -- The ends of the union are new nodes, and new nodes have the same numbers in both graphs.
    have enlarged := renumbered.addNode.addNode
    have firstFixed := renumbered.fixes graph.size (Nat.le_refl _)
    have lastFixed := renumbered.fixes (graph.size + 1) (Nat.le_succ _)
    have enclosed :
        Renumbered renumber
          (Build.enclose graph.size (graph.size + 1) fragments graph.addNode.addNode).2
          (Build.enclose (renumber graph.size) (renumber (graph.size + 1)) others
            other.addNode.addNode).2 := by
      refine enlarged.enclose (by rw [size_addNode, size_addNode]; omega) ?_ perm
      intro fragment member
      rw [size_addNode, size_addNode]
      exact Nat.lt_add_right 1 (Nat.lt_add_right 1 (inside fragment member))
    rw [firstFixed, lastFixed] at enclosed
    rw [renumbered.size]
    exact ⟨enclosed, firstFixed.symm⟩

end Graph

end LexicalAutomata
