import LexicalAutomata.Proofs.Graph.Relocation
import LexicalAutomata.Proofs.Lexer.Patterns

namespace LexicalAutomata

/-!
# The blocks of patterns

Adding a pattern puts a block of nodes behind those of the patterns before it.  The block
is the same whatever there is in front of it, its edges do not leave it, and they bear the
labels of the expression.
-/

variable {τ : Type} {allowed : Label → Prop}

/-- All labels of the expression of a pattern are allowed ones. -/
def Pattern.Bears
    [PropertyParser]
    (pattern : Pattern τ)
    (allowed : Label → Prop) :
    Prop :=
  ∀ expression,
    Expression.parse pattern.text pattern.options = .ok expression → expression.Bears allowed

/-- No label of the expression of a pattern waits for a boundary. -/
def Pattern.Avoids
    [PropertyParser]
    (pattern : Pattern τ)
    (boundary : Boundary) :
    Prop :=
  pattern.Bears fun label => boundary ∉ label.boundaries

/-- The labels of a pattern are those of what its text is read as, if it can be read. -/
theorem Pattern.bears_iff
    [PropertyParser]
    {pattern : Pattern τ} :
    pattern.Bears allowed ↔
      match Expression.parse pattern.text pattern.options with
      | .error _ => True
      | .ok expression => expression.Bears allowed := by
  unfold Pattern.Bears
  cases Expression.parse pattern.text pattern.options with
  | error error =>
      simp
  | ok expression =>
      simp

instance
    [PropertyParser]
    [DecidablePred allowed]
    (pattern : Pattern τ) :
    Decidable (pattern.Bears allowed) :=
  match parsed : Expression.parse pattern.text pattern.options with
  | .error _ =>
      .isTrue (Pattern.bears_iff.mpr (by rw [parsed]; trivial))
  | .ok expression =>
      decidable_of_iff (expression.Bears allowed) (by rw [Pattern.bears_iff, parsed])

instance
    [PropertyParser]
    (pattern : Pattern τ)
    (boundary : Boundary) :
    Decidable (pattern.Avoids boundary) :=
  inferInstanceAs (Decidable (pattern.Bears fun label => boundary ∉ label.boundaries))

namespace Build

theorem relocates_endBefore
    {front : Graph τ}
    {size : Nat}
    {fragment : Fragment}
    (inside : Located.Inside size fragment)
    (enderLength : Nat) :
    Relocates front allowed size (endBefore fragment enderLength)
      (endBefore (Located.shift front.size fragment) enderLength) := by
  have ended :
      Relocates front allowed size
        (Build.change fragment.last fun node => { node with immediate := true, enderLength })
        (Build.change (front.size + fragment.last)
          fun node => { node with immediate := true, enderLength }) :=
    relocates_change (fun _ => rfl) fun _ _ => rfl
  exact ended.bind fun _ le _ _ => relocates_pure (Located.mono le inside)

/-- The fragment of an expression text is the same behind every graph. -/
theorem relocates_expression
    [PropertyParser]
    {front : Graph τ}
    {text : String}
    {options : Options}
    (bears :
      ∀ expression, Expression.parse text options = .ok expression → expression.Bears allowed)
    (token : τ)
    (size : Nat) :
    Relocates front allowed size (expression text token options)
      (expression text token options) := by
  unfold expression
  cases parsed : Expression.parse text options with
  | error error =>
      exact relocates_error error
  | ok expression =>
      refine (relocates_expression_build (bears expression parsed)).bind
        fun larger _ fragment inside => ?_
      cases options.fixedEnder with
      | false =>
          exact (relocates_finish inside expression token options).ok
      | true =>
          simp only [↓reduceIte]
          split
          · exact relocates_error _
          · exact (relocates_endBefore inside expression.enderLength).bind
              fun _ _ _ ended => (relocates_finish ended expression token options).ok

end Build

namespace LexerBuilder

/-- The block of a pattern is the same behind every graph. -/
theorem relocates_prioritized
    [PropertyParser]
    {front : Graph τ}
    {pattern : Pattern τ}
    (bears : pattern.Bears allowed)
    (size : Nat) :
    Build.Relocates front allowed size
      (prioritized pattern.text pattern.token pattern.options pattern.priority)
      (prioritized pattern.text pattern.token pattern.options pattern.priority) := by
  refine (Build.relocates_expression bears pattern.token size).bind fun _ _ added inside => ?_
  cases added with
  | error error =>
      exact Build.relocates_error error
  | ok fragment =>
      refine (Build.relocates_raise fragment.last pattern.priority).bind fun larger le _ _ => ?_
      have isOk : Located.Inside larger (.ok fragment : Except TextError Fragment) :=
        Located.mono le inside
      exact Build.relocates_pure isOk

end LexerBuilder

/-- The nodes that a pattern adds behind no others, and its fragment unless it is refused. -/
def Pattern.block
    [PropertyParser]
    (pattern : Pattern τ) :
    Except TextError Fragment × Graph τ :=
  LexerBuilder.prioritized pattern.text pattern.token pattern.options pattern.priority .empty

/-- The edges of a block do not leave it and bear the labels of the expression. -/
theorem Pattern.bears_block
    [PropertyParser]
    {pattern : Pattern τ}
    (bears : pattern.Bears allowed) :
    pattern.block.2.Bears allowed ∧
      ∀ fragment,
        pattern.block.1 = .ok fragment → Located.Inside pattern.block.2.size fragment := by
  have relocates :
      Build.Relocates (Graph.empty : Graph τ) allowed 0
        (LexerBuilder.prioritized pattern.text pattern.token pattern.options pattern.priority) _ :=
    LexerBuilder.relocates_prioritized bears 0
  have relocated := relocates .empty (Nat.zero_le _) Graph.bears_empty
  exact ⟨relocated.bears, relocated.inside⟩

theorem Pattern.bears_of_forall
    [PropertyParser]
    (pattern : Pattern τ)
    (all : ∀ label, allowed label) :
    pattern.Bears allowed :=
  fun expression _ => branchesBear_of_forall all expression

namespace LexerBuilder

/-- A pattern is added by putting its block behind all nodes that there are. -/
theorem prioritized_eq
    [PropertyParser]
    (pattern : Pattern τ)
    (graph : Graph τ) :
    prioritized pattern.text pattern.token pattern.options pattern.priority graph =
      (Located.shift graph.size pattern.block.1, graph.beside pattern.block.2) := by
  have bears : pattern.Bears fun _ => True := pattern.bears_of_forall fun _ => trivial
  have relocates :
      Build.Relocates graph _ 0
        (prioritized pattern.text pattern.token pattern.options pattern.priority) _ :=
    relocates_prioritized bears 0
  have relocated := relocates .empty (Nat.zero_le _) Graph.bears_empty
  rw [Graph.beside_empty] at relocated
  exact Prod.ext relocated.value relocated.graph

/-- A pattern that is not refused has a block with a fragment. -/
theorem exists_block_of_add
    [PropertyParser]
    {builder next : LexerBuilder τ}
    {pattern : Pattern τ}
    (added :
      builder.add pattern.text pattern.token pattern.options pattern.priority = (.ok (), next)) :
    ∃ fragment,
      pattern.block.1 = .ok fragment ∧
        next =
          ⟨builder.graph.beside pattern.block.2,
            builder.fragments ++ [Located.shift builder.graph.size fragment]⟩ := by
  simp only [add, StateT.run, prioritized_eq] at added
  cases built : pattern.block.1 with
  | error error =>
      rw [built] at added
      cases added
  | ok fragment =>
      rw [built] at added
      cases added
      exact ⟨fragment, rfl, rfl⟩

/-- The edges of a builder lead to nodes of its graph and bear allowed labels. -/
structure Bears
    (builder : LexerBuilder τ)
    (allowed : Label → Prop) : Prop where
  graph : builder.graph.Bears allowed
  inside : Located.Inside builder.graph.size builder.fragments

theorem bears_empty :
    (empty : LexerBuilder τ).Bears allowed :=
  ⟨Graph.bears_empty, fun _ => (absurd · List.not_mem_nil)⟩

section Bears

variable {builder next : LexerBuilder τ}

theorem Bears.add
    [PropertyParser]
    (bears : builder.Bears allowed)
    {pattern : Pattern τ}
    (patternBears : pattern.Bears allowed)
    (added :
      builder.add pattern.text pattern.token pattern.options pattern.priority = (.ok (), next)) :
    next.Bears allowed := by
  obtain ⟨fragment, built, rfl⟩ := exists_block_of_add added
  obtain ⟨blockBears, blockInside⟩ := Pattern.bears_block patternBears
  refine ⟨bears.graph.beside blockBears, ?_⟩
  rw [Graph.size_beside]
  intro other member
  rcases List.mem_append.mp member with old | new
  · exact Located.mono (Nat.le_add_right _ _) (bears.inside other old)
  · cases List.mem_singleton.mp new
    obtain ⟨first, last⟩ := blockInside fragment built
    exact ⟨Nat.add_lt_add_left first _, Nat.add_lt_add_left last _⟩

theorem Bears.addAll
    [PropertyParser]
    (bears : builder.Bears allowed)
    {patterns : List (Pattern τ)}
    (patternsBear : ∀ pattern ∈ patterns, pattern.Bears allowed)
    (added : builder.addAll patterns = .ok next) :
    next.Bears allowed := by
  induction patterns generalizing builder with
  | nil =>
      cases added
      exact bears
  | cons pattern rest inductionHypothesis =>
      obtain ⟨middle, addedFirst, addedRest⟩ := addAll_cons_eq_ok_iff.mp added
      exact inductionHypothesis
        (bears.add (patternsBear pattern List.mem_cons_self) addedFirst)
        (fun other member => patternsBear other (List.mem_cons_of_mem _ member)) addedRest

/-- Joining the patterns adds no labels. -/
theorem Bears.joined
    (bears : builder.Bears allowed) :
    builder.joined.2.Bears allowed ∧
      Located.Inside builder.joined.2.size builder.joined.1 := by
  have relocates :
      Build.Relocates (Graph.empty : Graph τ) allowed builder.graph.size
        (Build.alternatives builder.fragments) _ :=
    Build.relocates_alternatives bears.inside
  have relocated := relocates builder.graph (Nat.le_refl _) bears.graph
  exact ⟨relocated.bears, relocated.inside⟩

end Bears

end LexerBuilder

end LexicalAutomata
