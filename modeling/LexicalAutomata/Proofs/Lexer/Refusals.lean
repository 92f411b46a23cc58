import LexicalAutomata.Proofs.Automaton.Embedding
import LexicalAutomata.Proofs.Lexer.Order
import LexicalAutomata.Unicode.Property

namespace LexicalAutomata

/-!
# Patterns that are refused

A pattern that is refused may leave nodes in the graph, in front of those of the patterns that
are added after it.  Nothing leads to these nodes, and all others keep their order.  So the
lexer is the one that is built when the pattern is not tried at all.
-/

variable {τ : Type}

namespace LexerBuilder

/-- Try to add patterns in the given order, and collect those that are not refused. -/
def attemptAll
    [PropertyParser]
    (builder : LexerBuilder τ) :
    List (Pattern τ) →
    List (Pattern τ) × LexerBuilder τ
  | [] =>
      ([], builder)
  | pattern :: rest =>
      match builder.add pattern.text pattern.token pattern.options pattern.priority with
      | (.error _, next) =>
          next.attemptAll rest
      | (.ok (), next) =>
          let (accepted, last) := next.attemptAll rest
          (pattern :: accepted, last)

/-- A pattern with a block that has no fragment is refused, and the block stays. -/
theorem add_of_refused
    [PropertyParser]
    (builder : LexerBuilder τ)
    {pattern : Pattern τ}
    {error : TextError}
    (refused : pattern.block.1 = .error error) :
    builder.add pattern.text pattern.token pattern.options pattern.priority =
      (.error error, ⟨builder.graph.beside pattern.block.2, builder.fragments⟩) := by
  simp only [add, StateT.run, prioritized_eq, refused]
  rfl

/-- A pattern without the ender that it asks for is refused after its nodes have been added. -/
example :
    let (accepted, builder) :=
      (empty : LexerBuilder Nat).attemptAll
        [⟨"a*", 0, { fixedEnder := true }, 0⟩, ⟨"b", 1, {}, 0⟩]
    accepted.map Pattern.token = [1] ∧ builder.fragments = [⟨4, 5⟩] := by
  decide +kernel

/-- Adding patterns adds as many fragments. -/
theorem size_of_addAll
    [PropertyParser]
    {builder next : LexerBuilder τ}
    {patterns : List (Pattern τ)}
    (added : builder.addAll patterns = .ok next) :
    next.size = builder.size + patterns.length := by
  induction patterns generalizing builder with
  | nil =>
      cases added
      rfl
  | cons pattern rest inductionHypothesis =>
      obtain ⟨middle, addedFirst, addedRest⟩ := addAll_cons_eq_ok_iff.mp added
      obtain ⟨fragment, _, rfl⟩ := exists_block_of_add addedFirst
      rw [inductionHypothesis addedRest]
      simp only [size, List.length_append, List.length_cons, List.length_nil]
      omega

/-- The graph of one builder stands within that of another one, and so do its fragments. -/
structure Embeds
    (place : Nat → Nat)
    (builder other : LexerBuilder τ) : Prop where
  graph : builder.graph.Embeds place other.graph
  fragments : other.fragments = builder.fragments.map (Fragment.relocate place)

section Embeds

variable {place : Nat → Nat} {builder other : LexerBuilder τ}

theorem Embeds.refl
    (builder : LexerBuilder τ) :
    Embeds (fun id => id) builder builder where
  graph :=
    .refl builder.graph
  fragments :=
    (List.map_id builder.fragments).symm

/-- A pattern can be added to both builders. -/
theorem Embeds.add
    (embeds : Embeds place builder other)
    (block : Graph τ)
    (fragment : Fragment) :
    Embeds place
      ⟨builder.graph.beside block, builder.fragments ++ [Located.shift builder.graph.size fragment]⟩
      ⟨other.graph.beside block, other.fragments ++ [Located.shift other.graph.size fragment]⟩ where
  graph :=
    embeds.graph.beside block
  fragments := by
    have moved :
        (Located.shift builder.graph.size fragment).relocate place =
          Located.shift other.graph.size fragment :=
      congrArg₂ Fragment.mk (embeds.graph.behind _) (embeds.graph.behind _)
    rw [List.map_append, List.map_singleton, moved, embeds.fragments]

/-- What a pattern leaves that is refused by the other builder is in the way of nothing. -/
theorem Embeds.refuse
    (embeds : Embeds place builder other)
    (bears : builder.Bears fun _ => True)
    (block : Graph τ) :
    Embeds (Graph.makeRoom place builder.graph.size block.size) builder
      ⟨other.graph.beside block, other.fragments⟩ where
  graph :=
    embeds.graph.makeRoom bears.graph block
  fragments := by
    rw [embeds.fragments]
    refine List.map_congr_left fun fragment member => ?_
    obtain ⟨first, last⟩ := bears.inside fragment member
    exact congrArg₂ Fragment.mk (Graph.makeRoom_of_lt first).symm (Graph.makeRoom_of_lt last).symm

/-- When patterns are tried, those that are not refused can be added without the others. -/
theorem Embeds.attemptAll
    [PropertyParser]
    (embeds : Embeds place builder other)
    (bears : builder.Bears fun _ => True)
    (patterns : List (Pattern τ)) :
    ∃ further last,
      builder.addAll (other.attemptAll patterns).1 = .ok last ∧
        Embeds further last (other.attemptAll patterns).2 := by
  induction patterns generalizing place builder other with
  | nil =>
      exact ⟨place, builder, rfl, embeds⟩
  | cons pattern rest inductionHypothesis =>
      rw [LexerBuilder.attemptAll]
      cases built : pattern.block.1 with
      | error error =>
          -- The block stays in the other builder only, in front of those to come.
          rw [add_of_refused other built]
          exact inductionHypothesis (embeds.refuse bears pattern.block.2) bears
      | ok fragment =>
          rw [add_of_block other built]
          have added := builder.add_of_block built
          have allowed : pattern.Bears fun _ => True :=
            pattern.bears_of_forall fun _ => trivial
          obtain ⟨further, last, addedRest, embedded⟩ :=
            inductionHypothesis (embeds.add pattern.block.2 fragment) (bears.add allowed added)
          exact ⟨further, last, addAll_cons_eq_ok_iff.mpr ⟨_, added, addedRest⟩, embedded⟩

theorem Embeds.size_eq
    (embeds : Embeds place builder other) :
    other.size = builder.size := by
  rw [size, size, embeds.fragments, List.length_map]

/-- Both builders have the same automaton, or the same ambiguity. -/
theorem Embeds.automaton_eq
    [DecidableEq τ]
    (embeds : Embeds place builder other) :
    other.automaton = builder.automaton := by
  obtain ⟨joined, sameFragment⟩ := embeds.graph.alternatives builder.fragments
  rw [← embeds.fragments] at joined sameFragment
  have sameStart : other.joined.1.first = place builder.joined.1.first :=
    congrArg Fragment.first sameFragment
  have sameAutomaton :
      Automaton.ofGraph other.joined.2 other.joined.1.first =
        Automaton.ofGraph builder.joined.2 builder.joined.1.first := by
    rw [sameStart]
    exact joined.ofGraph builder.joined.1.first
  have sameEmpty : other.isEmpty = builder.isEmpty := by
    rw [isEmpty, isEmpty, embeds.fragments, List.isEmpty_map]
  rw [LexerBuilder.automaton_eq, LexerBuilder.automaton_eq, sameEmpty, sameAutomaton]

end Embeds

/--
When some patterns are refused, only the others are counted, and what is built is the same as
if only the others had been added: the same lexer, or the same error.
-/
theorem build_attemptAll
    [PropertyParser]
    [DecidableEq τ]
    (patterns : List (Pattern τ)) :
    (empty.attemptAll patterns).2.size = (empty.attemptAll patterns).1.length ∧
      ∃ builder,
        empty.addAll (empty.attemptAll patterns).1 = .ok builder ∧
          (empty.attemptAll patterns).2.build = builder.build := by
  obtain ⟨place, builder, added, embeds⟩ := (Embeds.refl empty).attemptAll bears_empty patterns
  refine ⟨?_, builder, added, ?_⟩
  · rw [embeds.size_eq, size_of_addAll added]
    exact Nat.zero_add _
  · rw [build, build, embeds.automaton_eq]

/-- A class without an end, words without a fixed ender, words, and numbers. -/
def flawedPatterns : List (Pattern Nat) :=
  [{ text := "[0-9", token := 0, options := {}, priority := 0 },
    { text := "[a-z]+", token := 1, options := { fixedEnder := true }, priority := 0 },
    { text := "[a-z]+", token := 2, options := {}, priority := 0 },
    { text := "\\p\x7bNd\x7d+", token := 3, options := {}, priority := 0 }]

/-- Only the words and the numbers are added, and the lexer is built from them alone. -/
theorem build_attemptAll_flawedPatterns :
    (empty.attemptAll flawedPatterns).1.map Pattern.token = [2, 3] ∧
      (empty.attemptAll flawedPatterns).2.size = (empty.attemptAll flawedPatterns).1.length ∧
        ∃ builder,
          empty.addAll (empty.attemptAll flawedPatterns).1 = .ok builder ∧
            (empty.attemptAll flawedPatterns).2.build = builder.build :=
  ⟨by decide +kernel, build_attemptAll flawedPatterns⟩

end LexerBuilder

end LexicalAutomata
