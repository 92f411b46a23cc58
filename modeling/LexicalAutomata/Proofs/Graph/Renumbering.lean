import LexicalAutomata.Proofs.Graph.Fragments
import LexicalAutomata.Proofs.Graph.Simulation

namespace LexicalAutomata

/-!
# Graphs up to the numbers of their nodes

Two graphs may differ in nothing but the numbers of their nodes and the order of their
edges.  Then sets of nodes spread to sets that correspond, accept the same, and the
simulations of both graphs have the same result.
-/

variable {τ : Type}

/-- The edge with the number of its target changed. -/
def Edge.renumber
    (renumber : Equiv.Perm Nat) :
    Edge → Edge
  | .silent target =>
      .silent (renumber target)
  | .labelled label target =>
      .labelled label (renumber target)

@[simp] theorem Edge.target_renumber
    (renumber : Equiv.Perm Nat)
    (edge : Edge) :
    (edge.renumber renumber).target = renumber edge.target := by
  cases edge <;> rfl

@[simp] theorem Edge.isFree_renumber
    (renumber : Equiv.Perm Nat)
    (edge : Edge)
    (holding : BoundarySet) :
    (edge.renumber renumber).isFree holding = edge.isFree holding := by
  cases edge <;> rfl

@[simp] theorem Edge.boundaries_renumber
    (renumber : Equiv.Perm Nat)
    (edge : Edge) :
    (edge.renumber renumber).boundaries = edge.boundaries := by
  cases edge <;> rfl

/-- An edge that is renumbered twice is renumbered by both permutations together. -/
@[simp] theorem Edge.renumber_renumber
    (first second : Equiv.Perm Nat)
    (edge : Edge) :
    (edge.renumber first).renumber second = edge.renumber (first.trans second) := by
  cases edge <;> rfl

@[simp] theorem Edge.renumber_refl
    (edge : Edge) :
    edge.renumber (Equiv.refl Nat) = edge := by
  cases edge <;> rfl

namespace Graph

/-- The nodes of one graph are those of another one under other numbers. -/
structure Renumbered
    (renumber : Equiv.Perm Nat)
    (graph other : Graph τ) : Prop where
  size : other.size = graph.size
  fixes : ∀ id, graph.size ≤ id → renumber id = id
  bare : ∀ id, (other.node (renumber id)).bare = (graph.node id).bare
  edges :
    ∀ id edge,
      edge ∈ (graph.node id).edges →
        edge.renumber renumber ∈ (other.node (renumber id)).edges
  back :
    ∀ id edge,
      edge ∈ (other.node (renumber id)).edges →
        edge.renumber renumber.symm ∈ (graph.node id).edges

section Renumbered

variable {renumber further : Equiv.Perm Nat} {graph other last : Graph τ} {nodes : Set Nat}
  {holding : BoundarySet}

/-- A graph keeps its numbers. -/
theorem Renumbered.refl
    (graph : Graph τ) :
    Renumbered (Equiv.refl Nat) graph graph where
  size :=
    rfl
  fixes _ _ :=
    rfl
  bare _ :=
    rfl
  edges _ edge member := by
    rw [edge.renumber_refl]
    exact member
  back _ edge member := by
    rw [Equiv.refl_symm, edge.renumber_refl]
    exact member

/-- Numbers can be exchanged back. -/
theorem Renumbered.symm
    (renumbered : Renumbered renumber graph other) :
    Renumbered renumber.symm other graph where
  size :=
    renumbered.size.symm
  fixes id outside := by
    rw [renumbered.size] at outside
    rw [Equiv.symm_apply_eq, renumbered.fixes id outside]
  bare id := by
    rw [← renumbered.bare, Equiv.apply_symm_apply]
  edges id edge member := by
    apply renumbered.back
    rw [Equiv.apply_symm_apply]
    exact member
  back id edge member := by
    have there := renumbered.edges _ edge member
    rw [Equiv.apply_symm_apply] at there
    exact there

/-- Numbers can be exchanged one time after another. -/
theorem Renumbered.trans
    (renumbered : Renumbered renumber graph other)
    (again : Renumbered further other last) :
    Renumbered (renumber.trans further) graph last where
  size :=
    again.size.trans renumbered.size
  fixes id outside := by
    rw [Equiv.trans_apply, renumbered.fixes id outside]
    exact again.fixes id (by rw [renumbered.size]; exact outside)
  bare id := by
    rw [Equiv.trans_apply, again.bare, renumbered.bare]
  edges id edge member := by
    have there := again.edges _ _ (renumbered.edges id edge member)
    rw [Edge.renumber_renumber] at there
    exact there
  back id edge member := by
    have there := renumbered.back id _ (again.back _ edge member)
    rw [Edge.renumber_renumber] at there
    exact there

/-- The new number of a node is that of a node. -/
theorem Renumbered.lt_size
    (renumbered : Renumbered renumber graph other)
    {id : Nat}
    (inside : id < graph.size) :
    renumber id < other.size := by
  rw [renumbered.size]
  by_contra outside
  have fixed := renumbered.fixes _ (Nat.le_of_not_lt outside)
  rw [renumber.injective fixed] at outside
  exact outside inside

/-- A node keeps its token. -/
theorem Renumbered.token
    (renumbered : Renumbered renumber graph other)
    (id : Nat) :
    (other.node (renumber id)).token = (graph.node id).token := by
  have same := congrArg Node.token (renumbered.bare id)
  exact same

/-- A node keeps its priority. -/
theorem Renumbered.priority
    (renumbered : Renumbered renumber graph other)
    (id : Nat) :
    (other.node (renumber id)).priority = (graph.node id).priority := by
  have same := congrArg Node.priority (renumbered.bare id)
  exact same

/-- A node stops a scan or not as before. -/
theorem Renumbered.immediate
    (renumbered : Renumbered renumber graph other)
    (id : Nat) :
    (other.node (renumber id)).immediate = (graph.node id).immediate := by
  have same := congrArg Node.immediate (renumbered.bare id)
  exact same

/-- A node keeps the length of its ender. -/
theorem Renumbered.enderLength
    (renumbered : Renumbered renumber graph other)
    (id : Nat) :
    (other.node (renumber id)).enderLength = (graph.node id).enderLength := by
  have same := congrArg Node.enderLength (renumbered.bare id)
  exact same

/-- Steps that read nothing lead between the new numbers. -/
theorem Renumbered.freeStep
    (renumbered : Renumbered renumber graph other)
    {source target : Nat}
    (step : graph.FreeStep holding source target) :
    other.FreeStep holding (renumber source) (renumber target) := by
  obtain ⟨edge, member, free, rfl⟩ := step
  exact ⟨edge.renumber renumber, renumbered.edges source edge member, by simpa using free, by simp⟩

/-- So do steps that read a code point. -/
theorem Renumbered.readStep
    (renumbered : Renumbered renumber graph other)
    {codePoint source target : Nat}
    (step : graph.ReadStep codePoint source target) :
    other.ReadStep codePoint (renumber source) (renumber target) := by
  obtain ⟨label, member, contained⟩ := step
  exact ⟨label, renumbered.edges source _ member, contained⟩

/-- What nodes spread to keeps its place among the new numbers. -/
theorem Renumbered.image_spread_subset
    (renumbered : Renumbered renumber graph other)
    (holding : BoundarySet)
    (nodes : Set Nat) :
    renumber '' graph.spread holding nodes ⊆ other.spread holding (renumber '' nodes) := by
  rintro _ ⟨target, ⟨source, member, path⟩, rfl⟩
  exact ⟨renumber source, Set.mem_image_of_mem _ member,
    path.lift renumber fun _ _ step => renumbered.freeStep step⟩

/-- Corresponding sets spread to corresponding sets. -/
theorem Renumbered.spread_image
    (renumbered : Renumbered renumber graph other)
    (holding : BoundarySet)
    (nodes : Set Nat) :
    other.spread holding (renumber '' nodes) = renumber '' graph.spread holding nodes := by
  apply Set.Subset.antisymm _ (renumbered.image_spread_subset holding nodes)
  have back := renumbered.symm.image_spread_subset holding (renumber '' nodes)
  rw [Equiv.symm_image_image] at back
  exact (Equiv.symm_image_subset _ _ _).mp back

/-- So does what is reached by reading a code point. -/
theorem Renumbered.image_afterReading_subset
    (renumbered : Renumbered renumber graph other)
    (codePoint : Nat)
    (nodes : Set Nat) :
    renumber '' graph.afterReading codePoint nodes ⊆
      other.afterReading codePoint (renumber '' nodes) := by
  rintro _ ⟨target, ⟨source, member, step⟩, rfl⟩
  exact ⟨renumber source, Set.mem_image_of_mem _ member, renumbered.readStep step⟩

/-- Corresponding sets read to corresponding sets. -/
theorem Renumbered.afterReading_image
    (renumbered : Renumbered renumber graph other)
    (codePoint : Nat)
    (nodes : Set Nat) :
    other.afterReading codePoint (renumber '' nodes) =
      renumber '' graph.afterReading codePoint nodes := by
  apply Set.Subset.antisymm _ (renumbered.image_afterReading_subset codePoint nodes)
  have back := renumbered.symm.image_afterReading_subset codePoint (renumber '' nodes)
  rw [Equiv.symm_image_image] at back
  exact (Equiv.symm_image_subset _ _ _).mp back

/-- The terminals that count correspond. -/
theorem Renumbered.isTop_iff
    (renumbered : Renumbered renumber graph other)
    {id : Nat} :
    other.IsTop (renumber '' nodes) (renumber id) ↔ graph.IsTop nodes id := by
  constructor
  · intro isTop
    refine ⟨renumber.injective.mem_set_image.mp isTop.member, ?_, ?_⟩
    · rw [← renumbered.token]
      exact isTop.terminal
    · intro rival member terminal
      rw [← renumbered.priority, ← renumbered.priority]
      apply isTop.highest _ (Set.mem_image_of_mem _ member)
      rw [renumbered.token]
      exact terminal
  · intro isTop
    refine ⟨Set.mem_image_of_mem _ isTop.member, ?_, ?_⟩
    · rw [renumbered.token]
      exact isTop.terminal
    · rintro _ ⟨rival, member, rfl⟩ terminal
      rw [renumbered.priority, renumbered.priority]
      apply isTop.highest rival member
      rw [← renumbered.token]
      exact terminal

/-- What is said of some terminal that counts is said of the one that corresponds to it. -/
theorem Renumbered.exists_isTop_iff
    (renumbered : Renumbered renumber graph other)
    {property : Nat → Prop} :
    (∃ top, other.IsTop (renumber '' nodes) top ∧ property top) ↔
      ∃ top, graph.IsTop nodes top ∧ property (renumber top) := by
  constructor
  · rintro ⟨top, isTop, holds⟩
    obtain ⟨id, _, rfl⟩ := isTop.member
    exact ⟨id, renumbered.isTop_iff.mp isTop, holds⟩
  · rintro ⟨top, isTop, holds⟩
    exact ⟨_, renumbered.isTop_iff.mpr isTop, holds⟩

/-- Nodes have a terminal among them or not as before. -/
theorem Renumbered.hasTerminal_iff
    (renumbered : Renumbered renumber graph other) :
    other.HasTerminal (renumber '' nodes) ↔ graph.HasTerminal nodes := by
  unfold HasTerminal
  rw [Set.exists_mem_image]
  simp only [renumbered.token]

/-- Nodes stop a scan or not as before. -/
theorem Renumbered.stops_iff
    (renumbered : Renumbered renumber graph other) :
    other.Stops (renumber '' nodes) ↔ graph.Stops nodes := by
  unfold Stops
  rw [renumbered.exists_isTop_iff]
  simp only [renumbered.immediate]

/-- Nodes accept the same as before. -/
theorem Renumbered.accepts_iff
    (renumbered : Renumbered renumber graph other)
    {acceptance : Acceptance τ} :
    other.Accepts (renumber '' nodes) acceptance ↔ graph.Accepts nodes acceptance := by
  have tokens :
      (∀ top, other.IsTop (renumber '' nodes) top →
          (other.node top).token = some acceptance.token) ↔
        ∀ top, graph.IsTop nodes top → (graph.node top).token = some acceptance.token := by
    constructor
    · intro all top isTop
      rw [← renumbered.token]
      exact all _ (renumbered.isTop_iff.mpr isTop)
    · intro all top isTop
      obtain ⟨id, _, rfl⟩ := isTop.member
      rw [renumbered.token]
      exact all id (renumbered.isTop_iff.mp isTop)
  have priorities :
      (∃ top, other.IsTop (renumber '' nodes) top ∧
          (other.node top).priority = acceptance.priority) ↔
        ∃ top, graph.IsTop nodes top ∧ (graph.node top).priority = acceptance.priority := by
    rw [renumbered.exists_isTop_iff]
    simp only [renumbered.priority]
  have enders :
      { length |
          ∃ top, other.IsTop (renumber '' nodes) top ∧ (other.node top).enderLength = length } =
        { length | ∃ top, graph.IsTop nodes top ∧ (graph.node top).enderLength = length } := by
    ext length
    simp only [Set.mem_ofPred_eq, renumbered.exists_isTop_iff, renumbered.enderLength]
  constructor
  · intro accepts
    exact ⟨tokens.mp accepts.token, priorities.mp accepts.priority, enders ▸ accepts.ender⟩
  · intro accepts
    exact ⟨tokens.mpr accepts.token, priorities.mpr accepts.priority,
      enders.symm ▸ accepts.ender⟩

/-- The leading terminals agree as before. -/
theorem Renumbered.agrees
    (renumbered : Renumbered renumber graph other)
    (agrees : graph.Agrees nodes) :
    other.Agrees (renumber '' nodes) := by
  intro first second firstTop secondTop
  obtain ⟨firstId, _, rfl⟩ := firstTop.member
  obtain ⟨secondId, _, rfl⟩ := secondTop.member
  rw [renumbered.token, renumbered.token]
  exact agrees _ _ (renumbered.isTop_iff.mp firstTop) (renumbered.isTop_iff.mp secondTop)

/-- A scan keeps the same record at the nodes as before. -/
theorem Renumbered.records_iff
    (renumbered : Renumbered renumber graph other)
    {count : Nat}
    {before next : Option (Record τ)} :
    other.Records (renumber '' nodes) count before next ↔
      graph.Records nodes count before next := by
  unfold Records
  simp only [renumbered.accepts_iff, renumbered.hasTerminal_iff]

/-- What one graph records, the other one records as well. -/
theorem Renumbered.simulation
    (renumbered : Renumbered renumber graph other)
    {searchStart count : Nat}
    {place : Place}
    {before result : Option (Record τ)}
    (simulation : graph.Simulation searchStart nodes place count before result) :
    other.Simulation searchStart (renumber '' nodes) place count before result := by
  induction simulation with
  | stopped stops records =>
      refine .stopped ?_ ?_ <;> rw [renumbered.spread_image]
      · exact renumbered.stops_iff.mpr stops
      · exact renumbered.records_iff.mpr records
  | ended goesOn agrees records ends =>
      refine .ended ?_ ?_ ?_ ?_
      · rw [renumbered.spread_image, renumbered.stops_iff]
        exact goesOn
      · rw [renumbered.spread_image]
        exact renumbered.agrees agrees
      · rw [spreadAt, renumbered.spread_image, renumbered.records_iff]
        exact records
      · simp only [spreadAt, renumbered.spread_image, renumbered.stops_iff,
          renumbered.afterReading_image, Set.image_eq_empty]
        exact ends
  | onward goesOn agrees records further ahead read _ inductionHypothesis =>
      rw [← renumbered.afterReading_image, spreadAt, ← renumbered.spread_image]
        at inductionHypothesis
      refine .onward ?_ ?_ ?_ ?_ ahead ?_ inductionHypothesis
      · rw [renumbered.spread_image, renumbered.stops_iff]
        exact goesOn
      · rw [renumbered.spread_image]
        exact renumbered.agrees agrees
      · rw [spreadAt, renumbered.spread_image, renumbered.records_iff]
        exact records
      · rw [spreadAt, renumbered.spread_image, renumbered.stops_iff]
        exact further
      · rw [spreadAt, renumbered.spread_image, renumbered.afterReading_image, Set.image_nonempty]
        exact read

end Renumbered

end Graph

end LexicalAutomata
