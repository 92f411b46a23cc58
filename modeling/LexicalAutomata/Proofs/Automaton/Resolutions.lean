import LexicalAutomata.Automaton.OfGraph
import LexicalAutomata.Proofs.Automaton.KeyTable
import LexicalAutomata.Proofs.Graph.Spread

namespace LexicalAutomata.Graph

/-!
# Deciding boundaries in advance

The boundaries that a set of nodes awaits are all that matter to it: with those of
them that hold, the set spreads as far as with everything that holds.  The resolutions
of a set have an entry for every candidate that changes the set, and the entry leads
to the key of what the set spreads to.
-/

variable {τ : Type} {graph : Graph τ}

theorem mem_foldl_union
    {edges : List Edge}
    {set : BoundarySet}
    {boundary : Boundary} :
    boundary ∈ edges.foldl (fun set edge => set.union edge.boundaries) set ↔
      boundary ∈ set ∨ ∃ edge ∈ edges, boundary ∈ edge.boundaries := by
  induction edges generalizing set with
  | nil =>
      simp
  | cons edge rest inductionHypothesis =>
      rw [List.foldl_cons, inductionHypothesis, BoundarySet.mem_union, List.exists_mem_cons_iff,
        or_assoc]

/-- A set awaits the boundaries of all edges to which it could spread. -/
theorem mem_awaited_iff
    {members : List Nat}
    {boundary : Boundary} :
    boundary ∈ graph.awaited members ↔
      ∃ id ∈ graph.closure .full members,
        ∃ edge ∈ (graph.node id).edges, boundary ∈ edge.boundaries := by
  simp only [awaited, mem_foldl_union, BoundarySet.not_mem_empty, false_or,
    List.mem_flatMap]
  constructor
  · rintro ⟨edge, ⟨id, reached, member⟩, waits⟩
    exact ⟨id, reached, edge, member, waits⟩
  · rintro ⟨id, reached, edge, member, waits⟩
    exact ⟨edge, ⟨id, reached, member⟩, waits⟩

/-- An edge that is taken while some boundaries hold awaits one of them. -/
theorem FreeStep.of_awaited
    {holding awaited : BoundarySet}
    {source target : Nat}
    (step : graph.FreeStep holding source target)
    (waits :
      ∀ edge ∈ (graph.node source).edges,
        ∀ boundary ∈ edge.boundaries, boundary ∈ awaited) :
    graph.FreeStep (holding.inter awaited) source target := by
  obtain ⟨edge, member, free, same⟩ := step
  refine ⟨edge, member, ?_, same⟩
  cases edge with
  | silent _ =>
      rfl
  | labelled label _ =>
      obtain ⟨boundary, waited, holds⟩ := BoundarySet.meets_iff.mp free
      exact BoundarySet.meets_iff.mpr
        ⟨boundary, waited, BoundarySet.mem_inter.mpr ⟨holds, waits _ member boundary waited⟩⟩

/-- Only awaited boundaries matter to where a set spreads. -/
theorem Lists.spread_inter_awaited
    {members : List Nat}
    {nodes : Set Nat}
    (lists : graph.Lists members nodes)
    (holding : BoundarySet) :
    graph.spread (holding.inter (graph.awaited members)) nodes =
      graph.spread holding nodes := by
  apply Set.Subset.antisymm
  · apply spread_mono_holding
    intro boundary member
    exact (BoundarySet.mem_inter.mp member).1
  · rintro target ⟨source, member, path⟩
    refine ⟨source, member, ?_⟩
    induction path with
    | refl =>
        exact .refl
    | tail path step inductionHypothesis =>
        apply inductionHypothesis.tail
        apply step.of_awaited
        intro edge edgeMember boundary waits
        rw [mem_awaited_iff]
        refine ⟨_, (lists.closure .full _).mpr ⟨step.lt_size, source, member, ?_⟩,
          edge, edgeMember, waits⟩
        exact path.lift _ fun _ _ earlier => earlier.mono fun other _ => BoundarySet.mem_full other

/-- The awaited boundaries that hold decide what the nodes spread to. -/
theorem Lists.closure_inter_awaited
    {members : List Nat}
    {nodes : Set Nat}
    (lists : graph.Lists members (graph.spread .empty nodes))
    (holding : BoundarySet) :
    graph.Lists (graph.closure (holding.inter (graph.awaited members)) members)
      (graph.spread holding nodes) := by
  have closed := lists.closure (holding.inter (graph.awaited members))
  rw [lists.spread_inter_awaited, spread_spread_empty] at closed
  exact closed

theorem mem_resolutionCandidates_iff
    {members : List Nat}
    {holding : BoundarySet} :
    holding ∈ graph.resolutionCandidates members ↔
      holding ≠ .empty ∧ holding.isSubset (graph.awaited members) = true ∧
        holding.isRealizableWithin (graph.awaited members) = true := by
  simp only [resolutionCandidates, List.mem_filter, BoundarySet.mem_subsets, and_assoc]

/-- The entries of the resolutions of a set, as far as they concern the given candidates. -/
structure Resolves
    (graph : Graph τ)
    (keys : Array Key)
    (members : List Nat)
    (candidates : List BoundarySet)
    (resolutions : List Resolution) : Prop where
  target :
    ∀ resolution ∈ resolutions,
      resolution.holding ∈ candidates ∧
        keys[resolution.target]? =
          some ⟨graph.closure resolution.holding members, true⟩
  changes :
    ∀ resolution ∈ resolutions,
      graph.closure resolution.holding members ≠ members
  complete :
    ∀ holding ∈ candidates,
      graph.closure holding members = members ∨
        ∃ resolution ∈ resolutions, resolution.holding = holding

theorem Resolves.mono
    {keys later : Array Key}
    {members : List Nat}
    {candidates : List BoundarySet}
    {resolutions : List Resolution}
    (resolves : graph.Resolves keys members candidates resolutions)
    (kept : KeyTable.Keeps keys later) :
    graph.Resolves later members candidates resolutions where
  target resolution member :=
    ⟨(resolves.target resolution member).1,
      kept _ _ (resolves.target resolution member).2⟩
  changes :=
    resolves.changes
  complete :=
    resolves.complete

/-- The keys that are found with the resolutions of a set are those of what it spreads to. -/
theorem resolves_resolutions
    (graph : Graph τ)
    {table : KeyTable}
    (consistent : table.Consistent)
    (members : List Nat)
    (candidates : List BoundarySet)
    {expected : Key → Prop}
    (asExpected :
      ∀ holding ∈ candidates,
        graph.closure holding members ≠ members →
          expected ⟨graph.closure holding members, true⟩) :
    let result := graph.resolutions members candidates table
    KeyTable.Grows expected table result.2 ∧
      graph.Resolves result.2.keys members candidates result.1 := by
  induction candidates generalizing table with
  | nil =>
      have unfolded : graph.resolutions members [] table = ([], table) :=
        rfl
      rw [unfolded]
      exact ⟨consistent.grows, by simp, by simp, by simp⟩
  | cons holding rest inductionHypothesis =>
      have restAsExpected :=
        fun other member => asExpected other (List.mem_cons_of_mem holding member)
      by_cases unchanged : graph.closure holding members = members
      · have unfolded :
            graph.resolutions members (holding :: rest) table =
              graph.resolutions members rest table := by
          simp only [resolutions, if_pos unchanged]
        obtain ⟨grows, resolves⟩ := inductionHypothesis consistent restAsExpected
        rw [unfolded]
        refine ⟨grows, ?_, resolves.changes, ?_⟩
        · intro resolution member
          obtain ⟨candidate, numbered⟩ := resolves.target resolution member
          exact ⟨List.mem_cons_of_mem _ candidate, numbered⟩
        · intro other candidate
          rcases List.mem_cons.mp candidate with rfl | later
          · exact Or.inl unchanged
          · exact resolves.complete other later
      · have interned :=
          consistent.intern expected ⟨graph.closure holding members, true⟩
            (asExpected holding List.mem_cons_self unchanged)
        have unfolded :
            graph.resolutions members (holding :: rest) table =
              let number := KeyTable.intern ⟨graph.closure holding members, true⟩ table
              let others := graph.resolutions members rest number.2
              (⟨holding, number.1⟩ :: others.1, others.2) := by
          simp only [resolutions, if_neg unchanged]
          rfl
        rw [unfolded]
        obtain ⟨first, numbered⟩ := interned
        obtain ⟨second, resolves⟩ := inductionHypothesis first.consistent restAsExpected
        refine ⟨first.trans second, ?_, ?_, ?_⟩
        · intro resolution member
          rcases List.mem_cons.mp member with rfl | later
          · exact ⟨List.mem_cons_self, second.keeps _ _ numbered⟩
          · obtain ⟨candidate, kept⟩ := resolves.target resolution later
            exact ⟨List.mem_cons_of_mem _ candidate, kept⟩
        · intro resolution member
          rcases List.mem_cons.mp member with rfl | later
          · exact unchanged
          · exact resolves.changes resolution later
        · intro other candidate
          rcases List.mem_cons.mp candidate with rfl | later
          · exact Or.inr ⟨_, List.mem_cons_self, rfl⟩
          · rcases resolves.complete other later with same | ⟨resolution, member, holds⟩
            · exact Or.inl same
            · exact Or.inr ⟨resolution, List.mem_cons_of_mem _ member, holds⟩

end LexicalAutomata.Graph
