import LexicalAutomata.Proofs.Graph.Adding

namespace LexicalAutomata

/-!
# Reading words

A word is a list of code points with nothing around it, so no boundary holds anywhere in
it.  The nodes behind a word are those to which routes lead that have read all of it.
-/

variable {τ : Type}

/-- A label reads the first code point of a word. -/
def Label.Reads
    (label : Label)
    (source target : List Nat) :
    Prop :=
  ∃ codePoint ∈ label.points, source = codePoint :: target

namespace Graph

variable {graph : Graph τ}

/-- A move reads nothing, or it reads the first code point. -/
theorem moves_reads_iff
    {source target : Nat}
    {word rest : List Nat} :
    graph.Moves Label.Reads (source, word) (target, rest) ↔
      (rest = word ∧ graph.FreeStep .empty source target) ∨
        ∃ codePoint, word = codePoint :: rest ∧ graph.ReadStep codePoint source target := by
  constructor
  · rintro ⟨edge, member, same, passes⟩
    cases edge with
    | silent _ =>
        cases passes
        exact Or.inl ⟨rfl, _, member, rfl, same⟩
    | labelled label _ =>
        cases same
        obtain ⟨codePoint, contained, split⟩ := passes
        exact Or.inr ⟨codePoint, split, label, member, contained⟩
  · rintro (⟨rfl, edge, member, free, same⟩ | ⟨codePoint, rfl, label, member, contained⟩)
    · refine ⟨edge, member, same, ?_⟩
      cases edge with
      | silent _ =>
          rfl
      | labelled label _ =>
          obtain ⟨boundary, _, holds⟩ := BoundarySet.meets_iff.mp free
          exact (BoundarySet.not_mem_empty boundary holds).elim
    · exact ⟨_, member, rfl, codePoint, contained, rfl⟩

/-- The nodes to which some nodes lead by reading a word. -/
def behind
    (graph : Graph τ)
    (nodes : Set Nat) :
    List Nat →
    Set Nat
  | [] =>
      graph.spread .empty nodes
  | codePoint :: rest =>
      graph.behind (graph.afterReading codePoint (graph.spread .empty nodes)) rest

/-- One more code point at the end of a word is read behind the word. -/
theorem behind_concat
    (nodes : Set Nat)
    (word : List Nat)
    (codePoint : Nat) :
    graph.behind nodes (word ++ [codePoint]) =
      graph.spread .empty (graph.afterReading codePoint (graph.behind nodes word)) := by
  induction word generalizing nodes with
  | nil =>
      rfl
  | cons first rest inductionHypothesis =>
      exact inductionHypothesis _

theorem FreeStep.move_reads
    {source target : Nat}
    (free : graph.FreeStep .empty source target)
    (word : List Nat) :
    graph.Moves Label.Reads (source, word) (target, word) :=
  moves_reads_iff.mpr (Or.inl ⟨rfl, free⟩)

/-- A route through a word spreads to some node and ends there, or reads the next code point. -/
theorem Route.spread_or_read
    {source target : Nat}
    {word rest : List Nat}
    (route : graph.Route Label.Reads (source, word) (target, rest)) :
    (rest = word ∧ target ∈ graph.spread .empty {source}) ∨
      ∃ codePoint others,
        word = codePoint :: others ∧
          ∃ next ∈ graph.afterReading codePoint (graph.spread .empty {source}),
            graph.Route Label.Reads (next, others) (target, rest) := by
  generalize first : (source, word) = origin at route
  induction route using Relation.ReflTransGen.head_induction_on generalizing source word with
  | refl =>
      cases first
      exact Or.inl ⟨rfl, _, rfl, .refl⟩
  | @head origin middle move path inductionHypothesis =>
      cases first
      obtain ⟨middle, between⟩ := middle
      rcases moves_reads_iff.mp move with ⟨rfl, free⟩ | ⟨codePoint, rfl, read⟩
      · -- A free move comes in front of what the hypothesis says about the rest of the route.
        have more : graph.spread .empty {middle} ⊆ graph.spread .empty {source} := by
          rintro node ⟨_, rfl, reached⟩
          exact ⟨source, rfl, reached.head free⟩
        rcases inductionHypothesis rfl with ⟨same, reached⟩ | ⟨codePoint, others, split, rest⟩
        · exact Or.inl ⟨same, more reached⟩
        · obtain ⟨next, read, back⟩ := rest
          exact Or.inr ⟨codePoint, others, split, next, afterReading_mono more _ read, back⟩
      · exact Or.inr ⟨codePoint, between, rfl, middle, ⟨source, ⟨source, rfl, .refl⟩, read⟩, path⟩

/-- The nodes behind a word are those to which routes lead that read all of it. -/
theorem mem_behind_iff
    {nodes : Set Nat}
    {word : List Nat}
    {target : Nat} :
    target ∈ graph.behind nodes word ↔
      ∃ source ∈ nodes, graph.Route Label.Reads (source, word) (target, []) := by
  induction word generalizing nodes with
  | nil =>
      constructor
      · rintro ⟨source, member, path⟩
        exact ⟨source, member,
          path.lift (fun node => (node, [])) fun _ _ free => free.move_reads []⟩
      · rintro ⟨source, member, route⟩
        rcases route.spread_or_read with ⟨_, _, rfl, path⟩ | ⟨_, _, impossible, _⟩
        · exact ⟨_, member, path⟩
        · contradiction
  | cons codePoint rest inductionHypothesis =>
      rw [behind, inductionHypothesis]
      constructor
      · rintro ⟨next, ⟨middle, ⟨source, member, path⟩, read⟩, route⟩
        refine ⟨source, member, ?_⟩
        have front :
            graph.Route Label.Reads (source, codePoint :: rest) (middle, codePoint :: rest) :=
          path.lift (fun node => (node, codePoint :: rest)) fun _ _ free => free.move_reads _
        exact (front.tail (moves_reads_iff.mpr (Or.inr ⟨_, rfl, read⟩))).trans route
      · rintro ⟨source, member, route⟩
        rcases route.spread_or_read with ⟨impossible, _⟩ | ⟨other, others, split, next, read, back⟩
        · contradiction
        · cases split
          refine ⟨next, afterReading_mono (spread_mono ?_) _ read, back⟩
          rintro _ rfl
          exact member

end Graph

end LexicalAutomata
