import LexicalAutomata.Proofs.Graph.Copies

namespace LexicalAutomata

/-!
# Fragments of expressions

The fragment of an expression is crossed between two points exactly when the expression
leads from the one to the other.  In a union each of the fragments keeps an exit of its own,
to which the common entry leads as the fragment does.
-/

variable {τ σ : Type} {crossing : Label → σ → σ → Prop}

/-- Fragments in regions of their own, and what each of them is crossed by. -/
inductive Graph.Rows
    (graph : Graph τ)
    (crossing : Label → σ → σ → Prop) :
    Set Nat →
    List Fragment →
    List (σ → σ → Prop) →
    Prop where
  | nil :
      Rows graph crossing ∅ [] []
  | cons
      {region other : Set Nat}
      {fragment : Fragment}
      {rest : List Fragment}
      {crosses : σ → σ → Prop}
      {others : List (σ → σ → Prop)} :
      graph.Offers crossing region fragment crosses →
      Rows graph crossing other rest others →
      Disjoint region other →
      Rows graph crossing (region ∪ other) (fragment :: rest) (crosses :: others)

namespace Graph

variable {graph later : Graph τ} {region other frame : Set Nat} {whole : Fragment}
  {fragments : List Fragment} {crosses : σ → σ → Prop}
  {languages : List (σ → σ → Prop)}

theorem Rows.inside
    (rows : graph.Rows crossing region fragments languages) :
    ∀ id ∈ region, id < graph.size := by
  induction rows with
  | nil =>
      simp
  | cons offers _ _ inductionHypothesis =>
      rintro id (member | member)
      · exact offers.inside id member
      · exact inductionHypothesis id member

theorem Rows.spared
    (rows : graph.Rows crossing region fragments languages)
    (spares : Spares other graph later)
    (disjoint : Disjoint region other) :
    later.Rows crossing region fragments languages := by
  induction rows with
  | nil =>
      exact .nil
  | cons offers _ apart inductionHypothesis =>
      obtain ⟨first, rest⟩ := Set.disjoint_union_left.mp disjoint
      exact .cons (offers.spared spares first) (inductionHypothesis rest) apart

/-- One fragment more behind a row. -/
theorem Rows.snoc
    {fragment : Fragment}
    (rows : graph.Rows crossing region fragments languages)
    (offers : graph.Offers crossing other fragment crosses)
    (disjoint : Disjoint region other) :
    graph.Rows crossing (region ∪ other) (fragments ++ [fragment]) (languages ++ [crosses]) := by
  induction rows with
  | nil =>
      rw [Set.empty_union, ← Set.union_empty other]
      exact .cons offers .nil (Set.disjoint_empty other)
  | cons own _ apart inductionHypothesis =>
      obtain ⟨first, rest⟩ := Set.disjoint_union_left.mp disjoint
      rw [Set.union_assoc]
      exact .cons own (inductionHypothesis rest) (Set.disjoint_union_right.mpr ⟨apart, first⟩)

/-- What leads from the common entry to the exits of fragments. -/
def Branches
    (graph : Graph τ)
    (crossing : Label → σ → σ → Prop)
    (first : Nat)
    (fragments : List Fragment)
    (languages : List (σ → σ → Prop)) :
    Prop :=
  List.Forall₂
    (fun fragment crosses =>
      ∀ source target,
        graph.Route crossing (first, source) (fragment.last, target) ↔ crosses source target)
    fragments languages

/-- Between the ends of a fragment a row of fragments is put. -/
theorem Rows.enclose
    (rows : graph.Rows crossing region fragments languages)
    (offers : graph.Offers crossing frame whole crosses)
    (disjoint : Disjoint frame region) :
    let result := Build.enclose whole.first whole.last fragments graph
    Grows (frame ∪ region) graph result.2 ∧
      result.2.Offers crossing (frame ∪ region) whole
          (fun source target =>
            crosses source target ∨ ∃ language ∈ languages, language source target) ∧
        (∀ id ∈ frame, id ≠ whole.last → ∀ source target,
          result.2.Route crossing (whole.first, source) (id, target) ↔
            graph.Route crossing (whole.first, source) (id, target)) ∧
          result.2.Branches crossing whole.first fragments languages := by
  induction fragments generalizing graph frame region crosses languages with
  | nil =>
      cases rows
      refine ⟨Grows.refl _ _, ?_, fun _ _ _ _ _ => Iff.rfl, .nil⟩
      rw [Set.union_empty]
      exact offers.congr (by simp)
  | cons fragment rest inductionHypothesis =>
      cases rows with
      | @cons own others _ _ language otherLanguages inner innerRows apart =>
          obtain ⟨fromOwn, fromOthers⟩ := Set.disjoint_union_right.mp disjoint
          have enclosed := offers.enclose inner.toCarries fromOwn
          have grows :
              Grows (frame ∪ own) graph
                ((graph.link whole.first fragment.first).link fragment.last whole.last) :=
            (grows_addEdge (Or.inl offers.first) (.silent fragment.first)).trans
              (grows_addEdge (Or.inr inner.last) (.silent whole.last)) (.refl _ _)
          have separate : Disjoint (frame ∪ own) others :=
            Set.disjoint_union_left.mpr ⟨fromOthers, apart⟩
          obtain ⟨restGrows, restOffers, kept, branches⟩ :=
            inductionHypothesis (innerRows.spared grows.toSpares separate.symm) enclosed separate
          rw [Set.union_assoc] at restGrows restOffers
          rw [Build.enclose_cons]
          refine ⟨?_, restOffers.congr ?_, ?_, ?_⟩
          · apply (grows.mono _).trans restGrows (.refl _ _)
            rintro id (member | member) _
            · exact Or.inl member
            · exact Or.inr (Or.inl member)
          · intro source target
            simp only [List.exists_mem_cons_iff, or_assoc]
          · intro id member different source target
            rw [kept id (Or.inl member) different, offers.route_enclose inner.toCarries fromOwn]
            apply or_iff_left
            rintro (route | ⟨same, _⟩)
            · exact inner.closed.not_route fromOwn.symm inner.first member route
            · exact different same
          · refine .cons ?_ branches
            intro source target
            have different : fragment.last ≠ whole.last :=
              (Set.disjoint_iff_forall_ne.mp fromOwn offers.last inner.last).symm
            rw [kept _ (Or.inr inner.last) different,
              offers.route_enclose inner.toCarries fromOwn, inner.route_iff]
            constructor
            · rintro (route | crossed | ⟨same, _⟩)
              · exact (offers.closed.not_route fromOwn offers.first inner.last route).elim
              · exact crossed
              · exact (different same).elim
            · intro crossed
              exact Or.inr (Or.inl crossed)

/-- A union is crossed over any of its fragments. -/
theorem Rows.union
    (rows : graph.Rows crossing region fragments languages) :
    let result := Build.union fragments graph
    Grows region graph result.2 ∧
      ∃ larger,
        graph.Within larger region ∧
          result.2.Offers crossing larger result.1
              (fun source target => ∃ language ∈ languages, language source target) ∧
            result.2.Branches crossing result.1.first fragments languages := by
  let ends : Set Nat := {graph.size, graph.size + 1}
  have disjoint : Disjoint ends region :=
    ((graph.within_ends ∅).disjoint rows.inside).symm
  have nodes : Grows ends graph graph.addNode.addNode :=
    graph.grows_addNode_addNode
  rw [Build.union_eq]
  obtain ⟨grows, offers, _, branches⟩ :=
    (rows.spared nodes.toSpares disjoint.symm).enclose (offers_addNode_addNode _ graph) disjoint
  have within : graph.Within (ends ∪ region) region :=
    (graph.within_ends region).union (.refl _ _)
  refine ⟨?_, ends ∪ region, within, offers.congr (by simp), branches⟩
  exact ((nodes.mono (graph.within_union_left ends region)).trans grows (.refl _ _)).mono within

/-- Alternatives are crossed over any of the fragments. -/
theorem Rows.alternatives
    (rows : graph.Rows crossing region fragments languages) :
    let result := Build.alternatives fragments graph
    Grows region graph result.2 ∧
      ∃ larger,
        graph.Within larger region ∧
          result.2.Offers crossing larger result.1
              (fun source target => ∃ language ∈ languages, language source target) ∧
            result.2.Branches crossing result.1.first fragments languages := by
  unfold Build.alternatives
  split
  · cases rows with
    | @cons own others fragment _ language _ offers innerRows apart =>
        cases innerRows
        rw [Set.union_empty]
        exact ⟨Grows.refl _ _, own, .refl _ _, offers.congr (by simp),
          .cons offers.route_iff .nil⟩
  · exact rows.union

end Graph

namespace Build

/-- A build makes a row of fragments of new nodes. -/
def MakesRows
    (crossing : Label → σ → σ → Prop)
    (build : Build τ (List Fragment))
    (languages : List (σ → σ → Prop)) :
    Prop :=
  ∀ graph,
    Graph.Grows ∅ graph (build graph).2 ∧
      ∃ region,
        graph.Within region ∅ ∧
          (build graph).2.Rows crossing region (build graph).1 languages

theorem makesRows_nil :
    MakesRows crossing (pure [] : Build τ (List Fragment)) [] :=
  fun _ => ⟨Graph.Grows.refl _ _, ∅, .refl _ _, .nil⟩

/-- One fragment more in front of a row. -/
theorem Makes.rows_cons
    {copy : Build τ Fragment}
    {crosses : σ → σ → Prop}
    {rest : Build τ (List Fragment)}
    {languages : List (σ → σ → Prop)}
    (makes : Makes crossing copy crosses)
    (makesRest : MakesRows crossing rest languages) :
    MakesRows crossing
      (do
        let fragment ← copy
        return fragment :: (← rest))
      (crosses :: languages) := by
  intro graph
  obtain ⟨grows, region, within, offers⟩ := makes graph
  obtain ⟨restGrows, other, restWithin, rows⟩ := makesRest (copy graph).2
  have disjoint : Disjoint region other :=
    restWithin.disjoint offers.inside
  exact ⟨grows.trans restGrows (.refl _ _), region ∪ other,
    within.union (restWithin.of_size_le grows.size_le),
    .cons (offers.spared restGrows.toSpares (Set.disjoint_empty region)) rows disjoint⟩

/-- A row is made into alternatives. -/
theorem MakesRows.makes_alternatives
    {build : Build τ (List Fragment)}
    {languages : List (σ → σ → Prop)}
    (makesRows : MakesRows crossing build languages) :
    Makes crossing (build >>= Build.alternatives)
      (fun source target => ∃ language ∈ languages, language source target) := by
  intro graph
  obtain ⟨grows, region, within, rows⟩ := makesRows graph
  obtain ⟨wholeGrows, larger, largerWithin, offers, _⟩ := rows.alternatives
  exact ⟨grows.trans wholeGrows within, larger,
    (largerWithin.of_size_le grows.size_le).trans within, offers⟩

end Build

/-- One of several branches matches when one of their languages has the text. -/
theorem branchesMatch_iff
    {branches : List (List Piece)}
    {source target : σ} :
    BranchesMatch crossing branches source target ↔
      ∃ language ∈ branches.map (PiecesMatch crossing), language source target := by
  induction branches with
  | nil =>
      simp [BranchesMatch]
  | cons pieces rest inductionHypothesis =>
      rw [BranchesMatch, List.map_cons, List.exists_mem_cons_iff, inductionHypothesis]

mutual

/-- The fragment of a piece is crossed where the piece leads. -/
theorem Piece.makes_build
    (piece : Piece)
    (ordered : piece.Ordered) :
    Build.Makes crossing (piece.build : Build τ Fragment) (piece.Matches crossing) := by
  match piece with
  | ⟨.label label, quantifier⟩ =>
      rw [Piece.build, Piece.Matches]
      exact (Build.makes_label label).repeated (Build.makes_label label).extends_optionalLabels
        ordered
  | ⟨.group branches, quantifier⟩ =>
      obtain ⟨quantifierOrdered, branchesOrdered⟩ := ordered
      rw [Piece.build, Piece.Matches]
      have makes :
          Build.Makes crossing
            (buildBranches branches >>= Build.alternatives : Build τ Fragment)
            (BranchesMatch crossing branches) :=
        (makesRows_buildBranches branches branchesOrdered).makes_alternatives.congr
          fun _ _ => branchesMatch_iff.symm
      exact makes.repeated makes.extends_optionalCopies quantifierOrdered

/-- The fragments of pieces are crossed one behind the other. -/
theorem extends_buildPieces
    (pieces : List Piece)
    (ordered : PiecesOrdered pieces) :
    Build.Extends crossing
      (buildPieces pieces : Option Fragment → Build τ (Option Fragment))
      (PiecesMatch crossing pieces) := by
  match pieces with
  | [] =>
      exact Build.extends_none _ fun _ _ => rfl
  | piece :: rest =>
      exact (piece.makes_build ordered.1).extends_cons (extends_buildPieces rest ordered.2)

/-- The fragments of branches make a row. -/
theorem makesRows_buildBranches
    (branches : List (List Piece))
    (ordered : BranchesOrdered branches) :
    Build.MakesRows crossing (buildBranches branches : Build τ (List Fragment))
      (branches.map (PiecesMatch crossing)) := by
  match branches with
  | [] =>
      exact Build.makesRows_nil
  | pieces :: rest =>
      have first := (extends_buildPieces pieces ordered.1).makes_orEmpty
      exact first.rows_cons (makesRows_buildBranches rest ordered.2)

end

/-- The fragment of an expression is crossed where the expression leads. -/
theorem Expression.makes_build
    (expression : Expression)
    (ordered : BranchesOrdered expression) :
    Build.Makes crossing (expression.build : Build τ Fragment)
      (expression.Leads crossing) :=
  (makesRows_buildBranches expression ordered).makes_alternatives.congr
    fun _ _ => branchesMatch_iff.symm

end LexicalAutomata
