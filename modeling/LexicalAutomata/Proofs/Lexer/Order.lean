import LexicalAutomata.Proofs.Automaton.Renumbering
import LexicalAutomata.Proofs.Graph.Rearrangement
import LexicalAutomata.Proofs.Lexer.Blocks
import LexicalAutomata.Unicode.Property

namespace LexicalAutomata

/-!
# The order of patterns

The order in which patterns are added decides only about the numbers of nodes and the order
of edges.  So the same patterns in another order can be built exactly when they can be built
in the first order, and the lexers do the same.
-/

variable {τ : Type}

namespace LexerBuilder

/-- A pattern with a block that has a fragment is not refused. -/
theorem add_of_block
    [PropertyParser]
    (builder : LexerBuilder τ)
    {pattern : Pattern τ}
    {fragment : Fragment}
    (built : pattern.block.1 = .ok fragment) :
    builder.add pattern.text pattern.token pattern.options pattern.priority =
      (.ok (),
        ⟨builder.graph.beside pattern.block.2,
          builder.fragments ++ [Located.shift builder.graph.size fragment]⟩) := by
  simp only [add, StateT.run, prioritized_eq, built]
  rfl

/-- The graphs are the same up to the numbers of their nodes, and so are the fragments. -/
structure Rearranged
    (renumber : Equiv.Perm Nat)
    (builder other : LexerBuilder τ) : Prop where
  graph : builder.graph.Renumbered renumber other.graph
  fragments : (builder.fragments.map (Fragment.renumber renumber)).Perm other.fragments

section Rearranged

variable {renumber further : Equiv.Perm Nat} {builder other next last : LexerBuilder τ}

theorem Rearranged.refl
    (builder : LexerBuilder τ) :
    Rearranged (Equiv.refl Nat) builder builder where
  graph :=
    .refl builder.graph
  fragments := by
    have same : builder.fragments.map (Fragment.renumber (Equiv.refl Nat)) = builder.fragments :=
      List.map_id _
    rw [same]

theorem Rearranged.symm
    (rearranged : Rearranged renumber builder other) :
    Rearranged renumber.symm other builder where
  graph :=
    rearranged.graph.symm
  fragments := by
    have back := (rearranged.fragments.map (Fragment.renumber renumber.symm)).symm
    rw [List.map_map] at back
    have same :
        builder.fragments.map (Fragment.renumber renumber.symm ∘ Fragment.renumber renumber) =
          builder.fragments.map id := by
      refine List.map_congr_left fun fragment _ => ?_
      simp [Fragment.renumber]
    rw [same, List.map_id] at back
    exact back

theorem Rearranged.trans
    (rearranged : Rearranged renumber builder other)
    (again : Rearranged further other last) :
    Rearranged (renumber.trans further) builder last where
  graph :=
    rearranged.graph.trans again.graph
  fragments := by
    have twice := (rearranged.fragments.map (Fragment.renumber further)).trans again.fragments
    rw [List.map_map] at twice
    exact twice

/-- A new pattern gets the same nodes in both builders. -/
theorem Rearranged.add
    [PropertyParser]
    (rearranged : Rearranged renumber builder other)
    {pattern : Pattern τ}
    (added :
      builder.add pattern.text pattern.token pattern.options pattern.priority = (.ok (), next)) :
    ∃ otherNext,
      other.add pattern.text pattern.token pattern.options pattern.priority =
          (.ok (), otherNext) ∧
        Rearranged renumber next otherNext := by
  obtain ⟨fragment, built, rfl⟩ := exists_block_of_add added
  have fixed :
      (Located.shift builder.graph.size fragment).renumber renumber =
        Located.shift builder.graph.size fragment :=
    congrArg₂ Fragment.mk (rearranged.graph.fixes _ (Nat.le_add_right _ _))
      (rearranged.graph.fixes _ (Nat.le_add_right _ _))
  refine ⟨_, other.add_of_block built, rearranged.graph.beside _, ?_⟩
  rw [List.map_append, List.map_singleton, fixed, rearranged.graph.size]
  exact rearranged.fragments.append_right _

theorem Rearranged.addAll
    [PropertyParser]
    (rearranged : Rearranged renumber builder other)
    {patterns : List (Pattern τ)}
    (added : builder.addAll patterns = .ok next) :
    ∃ otherNext, other.addAll patterns = .ok otherNext ∧ Rearranged renumber next otherNext := by
  induction patterns generalizing builder other with
  | nil =>
      cases added
      exact ⟨other, rfl, rearranged⟩
  | cons pattern rest inductionHypothesis =>
      obtain ⟨middle, addedFirst, addedRest⟩ := addAll_cons_eq_ok_iff.mp added
      obtain ⟨otherMiddle, otherAdded, middleRearranged⟩ := rearranged.add addedFirst
      obtain ⟨otherNext, otherRest, whole⟩ := inductionHypothesis middleRearranged addedRest
      exact ⟨otherNext, addAll_cons_eq_ok_iff.mpr ⟨otherMiddle, otherAdded, otherRest⟩, whole⟩

/-- Two patterns may be added in either order. -/
theorem exists_exchanged
    [PropertyParser]
    (bears : builder.Bears fun _ => True)
    {former latter : Pattern τ}
    {middle : LexerBuilder τ}
    (formerAdded :
      builder.add former.text former.token former.options former.priority = (.ok (), middle))
    (latterAdded :
      middle.add latter.text latter.token latter.options latter.priority = (.ok (), next)) :
    ∃ renumber otherMiddle otherNext,
      builder.add latter.text latter.token latter.options latter.priority =
          (.ok (), otherMiddle) ∧
        otherMiddle.add former.text former.token former.options former.priority =
            (.ok (), otherNext) ∧
          Rearranged renumber next otherNext := by
  obtain ⟨formerFragment, formerBuilt, rfl⟩ := exists_block_of_add formerAdded
  obtain ⟨latterFragment, latterBuilt, rfl⟩ := exists_block_of_add latterAdded
  obtain ⟨formerBears, formerInside⟩ :=
    Pattern.bears_block (former.bears_of_forall fun _ => trivial)
  obtain ⟨latterBears, latterInside⟩ :=
    Pattern.bears_block (latter.bears_of_forall fun _ => trivial)
  refine ⟨_, _, _, builder.add_of_block latterBuilt, add_of_block _ formerBuilt,
    Graph.renumbered_exchange bears.graph formerBears latterBears, ?_⟩
  have old :
      builder.fragments.map
          (Fragment.renumber
            (exchange builder.graph.size former.block.2.size latter.block.2.size)) =
        builder.fragments.map id :=
    List.map_congr_left fun fragment member =>
      Fragment.renumber_exchange_front (bears.inside fragment member)
  rw [List.map_append, List.map_append, List.map_singleton, List.map_singleton, old,
    Graph.size_beside, Graph.size_beside,
    Fragment.renumber_exchange_former (formerInside formerFragment formerBuilt),
    Fragment.renumber_exchange_latter (latterInside latterFragment latterBuilt), List.map_id,
    List.append_assoc, List.append_assoc]
  exact (List.Perm.swap _ _ []).append_left _

/-- Patterns may be added in every order. -/
theorem exists_rearranged
    [PropertyParser]
    (bears : builder.Bears fun _ => True)
    {patterns others : List (Pattern τ)}
    (perm : patterns.Perm others)
    (added : builder.addAll patterns = .ok next) :
    ∃ renumber other, builder.addAll others = .ok other ∧ Rearranged renumber next other := by
  induction perm generalizing builder next with
  | nil =>
      exact ⟨_, next, added, .refl next⟩
  | cons pattern _ inductionHypothesis =>
      obtain ⟨middle, addedFirst, addedRest⟩ := addAll_cons_eq_ok_iff.mp added
      have allowed : pattern.Bears fun _ => True :=
        pattern.bears_of_forall fun _ => trivial
      obtain ⟨renumber, other, otherAdded, rearranged⟩ :=
        inductionHypothesis (bears.add allowed addedFirst) addedRest
      exact ⟨renumber, other, addAll_cons_eq_ok_iff.mpr ⟨middle, addedFirst, otherAdded⟩,
        rearranged⟩
  | swap latter former rest =>
      obtain ⟨middle, addedFirst, added⟩ := addAll_cons_eq_ok_iff.mp added
      obtain ⟨both, addedSecond, addedRest⟩ := addAll_cons_eq_ok_iff.mp added
      -- The two patterns exchange their blocks; the rest gets the same numbers in both orders.
      obtain ⟨renumber, otherMiddle, otherBoth, otherFirst, otherSecond, rearranged⟩ :=
        exists_exchanged bears addedFirst addedSecond
      obtain ⟨other, otherRest, whole⟩ := rearranged.addAll addedRest
      have otherAdded : otherMiddle.addAll (former :: rest) = .ok other :=
        addAll_cons_eq_ok_iff.mpr ⟨otherBoth, otherSecond, otherRest⟩
      exact ⟨renumber, other, addAll_cons_eq_ok_iff.mpr ⟨otherMiddle, otherFirst, otherAdded⟩,
        whole⟩
  | trans _ _ firstHypothesis secondHypothesis =>
      obtain ⟨_, middle, middleAdded, rearranged⟩ := firstHypothesis bears added
      obtain ⟨_, other, otherAdded, again⟩ := secondHypothesis bears middleAdded
      exact ⟨_, other, otherAdded, rearranged.trans again⟩

end Rearranged

end LexerBuilder

namespace Lexer

/-- Two lexers find the same in every text, and their runs have the same lengths. -/
structure Alike
    (lexer other : Lexer τ) : Prop where
  longestMatch? : ∀ text, lexer.longestMatch? text = other.longestMatch? text
  tokenize : ∀ text, lexer.tokenize text = other.tokenize text
  minLength : lexer.automaton.minLength = other.automaton.minLength
  maxLength : lexer.automaton.maxLength = other.automaton.maxLength

section TokenAt

variable {lexer other : Lexer τ}

/-- The token of a run depends only on the length of the run and what is accepted there. -/
theorem tokenAt?_eq_of_longestAt
    {place : Place}
    (same :
      (lexer.automaton.longestAt place place.offset).map
          (fun found => (found.length, lexer.automaton.acceptance found.state)) =
        (other.automaton.longestAt place place.offset).map
          fun found => (found.length, other.automaton.acceptance found.state)) :
    lexer.tokenAt? place = other.tokenAt? place := by
  unfold tokenAt? accepted? Automaton.token?
  cases isFound : lexer.automaton.longestAt place place.offset with
  | none =>
      rw [isFound, Option.map_none, eq_comm, Option.map_eq_none_iff] at same
      rw [same]
  | some found =>
      rw [isFound, Option.map_some, eq_comm, Option.map_eq_some_iff] at same
      obtain ⟨otherFound, otherIsFound, samePair⟩ := same
      obtain ⟨sameLength, sameAcceptance⟩ := Prod.mk.inj samePair
      simp only [otherIsFound, sameLength, sameAcceptance]

/-- Where there is no token, a text is divided no further. -/
theorem tokensFrom_of_none
    {place : Place}
    (notEnded : ¬ place.rest.isEmpty = true)
    (isNone : lexer.tokenAt? place = none) :
    lexer.tokensFrom place = .error ⟨.noToken, place.offset⟩ := by
  rw [tokensFrom, if_neg notEnded]
  split
  · rfl
  · rename_i found
    cases isNone.symm.trans found

/-- Where there is a token, it comes in front of those behind it. -/
theorem tokensFrom_of_some
    {place : Place}
    {token : τ}
    {length : Nat}
    (notEnded : ¬ place.rest.isEmpty = true)
    (isSome : lexer.tokenAt? place = some (token, length)) :
    lexer.tokensFrom place =
      (lexer.tokensFrom (place.advance length)).map
        ((token, place.rest.take length) :: ·) := by
  rw [tokensFrom, if_neg notEnded]
  split
  · rename_i found
    cases isSome.symm.trans found
  · rename_i found
    cases isSome.symm.trans found
    cases lexer.tokensFrom (place.advance length) <;> rfl

/-- Lexers with the same tokens at every place divide texts in the same way. -/
theorem tokensFrom_eq_of_tokenAt?
    (same : ∀ place, lexer.tokenAt? place = other.tokenAt? place)
    (place : Place) :
    lexer.tokensFrom place = other.tokensFrom place := by
  fun_induction tokensFrom lexer place with
  | case1 place ended =>
      rw [tokensFrom, if_pos ended]
  | case2 place notEnded isNone =>
      rw [same] at isNone
      rw [tokensFrom_of_none notEnded isNone]
  | case3 place notEnded token length isSome error failed inductionHypothesis =>
      rw [same] at isSome
      rw [tokensFrom_of_some notEnded isSome, ← inductionHypothesis, failed]
      rfl
  | case4 place notEnded token length isSome tokens rest inductionHypothesis =>
      rw [same] at isSome
      rw [tokensFrom_of_some notEnded isSome, ← inductionHypothesis, rest]
      rfl

end TokenAt

end Lexer

namespace LexerBuilder

variable {builder other : LexerBuilder τ} {renumber : Equiv.Perm Nat}

/-- The patterns of rearranged builders are joined in renumbered graphs. -/
theorem Rearranged.joined
    (rearranged : Rearranged renumber builder other)
    (bears : builder.Bears fun _ => True) :
    Graph.Renumbered renumber builder.joined.2 other.joined.2 ∧
      other.joined.1.first = renumber builder.joined.1.first :=
  rearranged.graph.alternatives (fun fragment member => (bears.inside fragment member).2)
    rearranged.fragments

section Build

variable [DecidableEq τ]

/-- A lexer is built when there are patterns and the graph that joins them is not ambiguous. -/
theorem exists_build_iff
    (builder : LexerBuilder τ) :
    (∃ lexer, builder.build = .ok lexer) ↔
      builder.fragments ≠ [] ∧
        ∃ automaton,
          Automaton.ofGraph builder.joined.2 builder.joined.1.first = .ok automaton := by
  constructor
  · rintro ⟨lexer, built⟩
    obtain ⟨automaton, isAutomaton, rfl⟩ := exists_of_map_eq_ok built
    refine ⟨?_, automaton, ofGraph_joined isAutomaton⟩
    intro isEmpty
    rw [automaton_eq, LexerBuilder.isEmpty, isEmpty] at isAutomaton
    contradiction
  · rintro ⟨nonempty, automaton, constructed⟩
    have notEmpty : ¬ builder.isEmpty = true := by
      simpa [isEmpty] using nonempty
    refine ⟨⟨automaton⟩, ?_⟩
    rw [build, automaton_eq, if_neg notEmpty, constructed]
    rfl

/-- A rearranged builder can be built as well. -/
theorem Rearranged.exists_build
    (rearranged : Rearranged renumber builder other)
    (bears : builder.Bears fun _ => True)
    (built : ∃ lexer, builder.build = .ok lexer) :
    ∃ lexer, other.build = .ok lexer := by
  rw [exists_build_iff] at built ⊢
  obtain ⟨nonempty, constructed⟩ := built
  obtain ⟨renumbered, start⟩ := rearranged.joined bears
  refine ⟨?_, ?_⟩
  · intro isEmpty
    have noFragments := rearranged.fragments
    rw [isEmpty, List.perm_nil, List.map_eq_nil_iff] at noFragments
    exact nonempty noFragments
  · rw [start]
    exact renumbered.exists_ofGraph constructed

/-- The lexers of rearranged builders do the same. -/
theorem Rearranged.alike
    (rearranged : Rearranged renumber builder other)
    (bears : builder.Bears fun _ => True)
    {lexer otherLexer : Lexer τ}
    (built : builder.build = .ok lexer)
    (otherBuilt : other.build = .ok otherLexer) :
    lexer.Alike otherLexer := by
  obtain ⟨automaton, isAutomaton, rfl⟩ := exists_of_map_eq_ok built
  obtain ⟨otherAutomaton, otherIsAutomaton, rfl⟩ := exists_of_map_eq_ok otherBuilt
  obtain ⟨renumbered, start⟩ := rearranged.joined bears
  have constructed := ofGraph_joined isAutomaton
  have otherConstructed := ofGraph_joined otherIsAutomaton
  rw [start] at otherConstructed
  have sameTokens :
      ∀ place, (Lexer.mk automaton).tokenAt? place = (Lexer.mk otherAutomaton).tokenAt? place :=
    fun place =>
      Lexer.tokenAt?_eq_of_longestAt
        (renumbered.longestAt_eq constructed otherConstructed place place.offset)
  have lengths := renumbered.lengths_eq constructed otherConstructed
  refine ⟨?_, ?_, congrArg Prod.fst lengths, congrArg Prod.snd lengths⟩
  · intro text
    rw [Lexer.longestMatch?, sameTokens]
    rfl
  · intro text
    rw [Lexer.tokenize, Lexer.tokensFrom_eq_of_tokenAt? sameTokens]
    rfl

/--
When patterns are added in another order, none of them is refused either, a lexer can be
built exactly when it can be built in the first order, and the lexers do the same.
-/
theorem build_perm
    [PropertyParser]
    {patterns others : List (Pattern τ)}
    (perm : patterns.Perm others)
    (added : empty.addAll patterns = .ok builder) :
    ∃ other,
      empty.addAll others = .ok other ∧
        ((∃ lexer, builder.build = .ok lexer) ↔ ∃ lexer, other.build = .ok lexer) ∧
          ∀ lexer otherLexer,
            builder.build = .ok lexer →
              other.build = .ok otherLexer →
                lexer.Alike otherLexer := by
  obtain ⟨renumber, other, otherAdded, rearranged⟩ := exists_rearranged bears_empty perm added
  have bears : builder.Bears fun _ => True :=
    bears_empty.addAll (fun pattern _ => pattern.bears_of_forall fun _ => trivial) added
  have otherBears : other.Bears fun _ => True :=
    bears_empty.addAll (fun pattern _ => pattern.bears_of_forall fun _ => trivial) otherAdded
  refine ⟨other, otherAdded, ⟨rearranged.exists_build bears, ?_⟩, ?_⟩
  · exact rearranged.symm.exists_build otherBears
  · intro lexer otherLexer built otherBuilt
    exact rearranged.alike bears built otherBuilt

/-- A keyword at the beginning of a line, words in front of a semicolon, and signs. -/
def scriptPatterns : List (Pattern Nat) :=
  [{ text := "^do\\b", token := 0, options := { caseInsensitive := true }, priority := 1 },
    { text := "[a-z]+;", token := 1, options := { fixedEnder := true }, priority := 0 },
    { text := "[ ;]", token := 2, options := { acceptImmediately := true }, priority := -1 }]

theorem alike_scriptPatterns :
    ∃ builder other lexer otherLexer,
      empty.addAll scriptPatterns = .ok builder ∧
        empty.addAll scriptPatterns.reverse = .ok other ∧
          builder.build = .ok lexer ∧
            other.build = .ok otherLexer ∧
              lexer.tokenize "Do do;" = .ok [(0, "Do"), (2, " "), (1, "do"), (2, ";")] ∧
                lexer.Alike otherLexer := by
  obtain ⟨builder, lexer, added, built, tokens⟩ :=
    exists_built scriptPatterns (fun lexer => (lexer.tokenize "Do do;").toOption)
      (some [(0, "Do"), (2, " "), (1, "do"), (2, ";")]) (by decide +kernel)
  obtain ⟨other, otherAdded, built_iff, alike⟩ :=
    build_perm (List.reverse_perm scriptPatterns).symm added
  obtain ⟨otherLexer, otherBuilt⟩ := built_iff.mp ⟨lexer, built⟩
  exact ⟨builder, other, lexer, otherLexer, added, otherAdded, built, otherBuilt,
    ok_of_toOption tokens, alike lexer otherLexer built otherBuilt⟩

end Build

end LexerBuilder

end LexicalAutomata
