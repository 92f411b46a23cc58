import LexicalAutomata.Proofs.Lexer.Passes
import LexicalAutomata.Proofs.Lexer.Patterns
import LexicalAutomata.Unicode.Property

namespace LexicalAutomata

/-!
# What a pattern finds among others

Where a pattern alone has a token, a lexer with more patterns has a token as well, unless its
scan ends with an empty run.  That happens where a pattern that accepts at once matches the
empty text, or where a pattern with an ender matches no more than its ender.
-/

variable {τ : Type}

namespace Pattern

/-- A pattern that accepts at once matches the empty text at a place. -/
def AcceptsEmpty
    [PropertyParser]
    (pattern : Pattern τ)
    (place : Place) :
    Prop :=
  pattern.options.acceptImmediately = true ∧ pattern.Matches place.offset place place

/-- A pattern with an ender matches a text at a place that is not longer than the ender. -/
def AcceptsEnder
    [PropertyParser]
    (pattern : Pattern τ)
    (place : Place) :
    Prop :=
  pattern.options.fixedEnder = true ∧
    ∃ count ≤ pattern.enderLength, pattern.Matches place.offset place (place.advance count)

/-- Only a pattern with an ender takes anything off. -/
theorem fixedEnder_of_enderLength
    [PropertyParser]
    {pattern : Pattern τ}
    (positive : 0 < pattern.enderLength) :
    pattern.options.fixedEnder = true := by
  unfold enderLength at positive
  split at positive
  · contradiction
  · split at positive
    · assumption
    · contradiction

end Pattern

section Unites

variable {graph : Graph τ} {start : Nat} {entries : List (Fragment × Pattern τ)} {place : Place}
  {searchStart count : Nat} {acceptance : Acceptance τ}

/-- A terminal that is judged is the exit of a pattern that matches what has been read. -/
theorem Graph.Unites.exists_entry_of_judged
    [PropertyParser]
    (unites : graph.Unites start entries)
    {id : Nat}
    (member : id ∈ graph.judged searchStart {start} place count)
    (terminal : (graph.node id).token.isSome = true) :
    ∃ entry ∈ entries,
      id = entry.1.last ∧ entry.2.Matches searchStart place (place.advance count) := by
  obtain ⟨entry, entryMember, rfl⟩ := unites.exists_entry terminal
  exact ⟨entry, entryMember, rfl,
    (unites.last_mem_reached_iff entryMember _ _ _).mp (Graph.judged_subset member)⟩

/-- A scan that accepts last accepts what some pattern matches. -/
theorem Graph.Unites.exists_matches
    [PropertyParser]
    (unites : graph.Unites start entries)
    (accepts : graph.Accepts (graph.judged searchStart {start} place count) acceptance) :
    ∃ entry ∈ entries, entry.2.Matches searchStart place (place.advance count) := by
  obtain ⟨id, member, terminal⟩ := accepts.hasTerminal
  obtain ⟨entry, entryMember, _, matched⟩ := unites.exists_entry_of_judged member terminal
  exact ⟨entry, entryMember, matched⟩

/--
Where some pattern matches a text that is not empty, a scan ends with an empty run only
because of a pattern that accepts at once or has an ender.
-/
theorem Graph.Unites.exists_culprit
    [PropertyParser]
    (unites : graph.Unites start entries)
    (acceptsLast : graph.AcceptsLast place.offset {start} place count acceptance)
    (isEmpty : count ≤ acceptance.enderLength)
    {longer : Nat}
    (positive : 0 < longer)
    (le : longer ≤ place.rest.length)
    (terminal : graph.HasTerminal (graph.reached place.offset {start} place longer)) :
    ∃ entry ∈ entries,
      entry.2.token = acceptance.token ∧
        (entry.2.AcceptsEmpty place ∨ entry.2.AcceptsEnder place) := by
  have accepts := acceptsLast.accepts
  have counts :
      ∀ top,
        graph.IsTop (graph.judged place.offset {start} place count) top →
          ∃ entry ∈ entries,
            top = entry.1.last ∧
              entry.2.token = acceptance.token ∧
                entry.2.Matches place.offset place (place.advance count) := by
    intro top isTop
    obtain ⟨entry, member, rfl, matched⟩ :=
      unites.exists_entry_of_judged isTop.member isTop.terminal
    have token := accepts.token _ isTop
    rw [unites.token_last member] at token
    exact ⟨entry, member, rfl, Option.some.inj token, matched⟩
  rcases Nat.eq_zero_or_pos acceptance.enderLength with none | some
  · have isZero : count = 0 := by omega
    subst isZero
    rcases acceptsLast.last with ⟨top, isTop, immediate⟩ | furthest
    · obtain ⟨entry, member, rfl, token, matched⟩ := counts top isTop
      refine ⟨entry, member, token, ?_⟩
      rw [unites.immediate_last member, Bool.or_eq_true] at immediate
      rcases immediate with ender | atOnce
      · exact Or.inr ⟨ender, 0, Nat.zero_le _, matched⟩
      · rw [Place.advance_zero] at matched
        exact Or.inl ⟨atOnce, matched⟩
    · have notLonger := furthest longer le ((Graph.hasTerminal_judged_iff le).mpr terminal)
      omega
  · obtain ⟨top, isTop, ender⟩ := accepts.ender.1
    obtain ⟨entry, member, rfl, token, matched⟩ := counts top isTop
    rw [unites.enderLength_last member] at ender
    rw [← ender] at isEmpty some
    exact ⟨entry, member, token,
      Or.inr ⟨Pattern.fixedEnder_of_enderLength some, count, isEmpty, matched⟩⟩

end Unites

namespace Lexer

/-- The scan from a place ends with an empty run that has this token. -/
def FindsEmpty
    (lexer : Lexer τ)
    (place : Place)
    (token : τ) :
    Prop :=
  ∃ found,
    lexer.automaton.longestAt place place.offset = some found ∧
      found.length = 0 ∧ lexer.automaton.token? found.state = some token

/-- Where the scan ends with an empty run, there is no token. -/
theorem FindsEmpty.tokenAt?_eq_none
    {lexer : Lexer τ}
    {place : Place}
    {token : τ}
    (findsEmpty : lexer.FindsEmpty place token) :
    lexer.tokenAt? place = none := by
  obtain ⟨found, isFound, isEmpty, _⟩ := findsEmpty
  simp only [tokenAt?, accepted?, isFound, isEmpty, ↓reduceIte]

variable [DecidableEq τ] {graph : Graph τ} {start : Nat} {automaton : Automaton τ}
  {entries : List (Fragment × Pattern τ)} {place : Place}

/-- The text of a token is the beginning of a text that some pattern matches. -/
theorem exists_matches_of_tokenAt?
    [PropertyParser]
    (built : Automaton.ofGraph graph start = .ok automaton)
    (unites : graph.Unites start entries)
    {token : τ}
    {length : Nat}
    (isToken : (Lexer.mk automaton).tokenAt? place = some (token, length)) :
    ∃ entry ∈ entries,
      ∃ count ≤ place.rest.length,
        0 < count ∧ entry.2.Matches place.offset place (place.advance count) := by
  rcases Automaton.acceptsLast_or_none built place place.offset with
    ⟨found, acceptance, count, isFound, _, sameLength, acceptsLast⟩ | ⟨isNone, _⟩
  · obtain ⟨entry, member, matched⟩ := unites.exists_matches acceptsLast.accepts
    refine ⟨entry, member, count, acceptsLast.le, ?_, matched⟩
    simp only [tokenAt?, accepted?, isFound] at isToken
    split at isToken
    · contradiction
    · omega
  · simp only [tokenAt?, accepted?, isNone] at isToken
    contradiction

/-- Where a pattern matches a text that is not empty, there is a token, or an empty run. -/
theorem tokenAt?_or_findsEmpty
    [PropertyParser]
    (built : Automaton.ofGraph graph start = .ok automaton)
    (unites : graph.Unites start entries)
    {entry : Fragment × Pattern τ}
    (member : entry ∈ entries)
    {count : Nat}
    (positive : 0 < count)
    (le : count ≤ place.rest.length)
    (matched : entry.2.Matches place.offset place (place.advance count)) :
    ((Lexer.mk automaton).tokenAt? place).isSome = true ∨
      ∃ culprit ∈ entries,
        (Lexer.mk automaton).FindsEmpty place culprit.2.token ∧
          (culprit.2.AcceptsEmpty place ∨ culprit.2.AcceptsEnder place) := by
  have terminal := unites.hasTerminal_reached member matched
  rcases Automaton.acceptsLast_or_none built place place.offset with
    ⟨found, acceptance, reached, isFound, accepting, sameLength, acceptsLast⟩ | ⟨_, silent⟩
  · by_cases isEmpty : found.length = 0
    · right
      obtain ⟨culprit, culpritMember, token, blames⟩ :=
        unites.exists_culprit acceptsLast (by omega) positive le terminal
      refine ⟨culprit, culpritMember, ⟨found, isFound, isEmpty, ?_⟩, blames⟩
      rw [Automaton.token?, accepting, token]
      rfl
    · left
      simp only [tokenAt?, accepted?, isFound, isEmpty, Automaton.token?, accepting, ↓reduceIte]
      rfl
  · exact (silent count le terminal).elim

/--
If one of the patterns of a lexer, built alone, finds a token at the beginning of a text, then
so does the lexer, and it does not refuse the text there.  Otherwise its scan ends there with
an empty run of a pattern that accepts the empty text at once, or of a pattern with an ender
that matches no more than its ender.
-/
theorem longestMatch?_retained
    [PropertyParser]
    {patterns : List (Pattern τ)}
    {builder : LexerBuilder τ}
    (added : LexerBuilder.empty.addAll patterns = .ok builder)
    {lexer : Lexer τ}
    (built : builder.build = .ok lexer)
    {pattern : Pattern τ}
    (member : pattern ∈ patterns)
    {aloneBuilder : LexerBuilder τ}
    (addedAlone : LexerBuilder.empty.addAll [pattern] = .ok aloneBuilder)
    {alone : Lexer τ}
    (builtAlone : aloneBuilder.build = .ok alone)
    {text : String}
    (finds : (alone.longestMatch? text).isSome = true) :
    ((lexer.longestMatch? text).isSome = true ∧
        ∀ fault, lexer.tokenize text ≠ .error ⟨fault, 0⟩) ∨
      (lexer.longestMatch? text = none ∧
        ∃ culprit ∈ patterns,
          lexer.FindsEmpty (.start text.toList) culprit.token ∧
            (culprit.AcceptsEmpty (.start text.toList) ∨
              culprit.AcceptsEnder (.start text.toList))) := by
  obtain ⟨entries, gathers, rfl⟩ := LexerBuilder.gathers_empty.addAll added
  obtain ⟨automaton, automatonBuilt, rfl⟩ := exists_of_map_eq_ok built
  obtain ⟨graph, start, constructed, unites⟩ := gathers.exists_unites automatonBuilt
  obtain ⟨aloneEntries, aloneGathers, only⟩ := LexerBuilder.gathers_empty.addAll addedAlone
  obtain ⟨aloneAutomaton, aloneAutomatonBuilt, rfl⟩ := exists_of_map_eq_ok builtAlone
  obtain ⟨aloneGraph, aloneStart, aloneConstructed, aloneUnites⟩ :=
    aloneGathers.exists_unites aloneAutomatonBuilt
  rw [longestMatch?, Option.isSome_map] at finds
  obtain ⟨⟨token, length⟩, isToken⟩ := Option.isSome_iff_exists.mp finds
  obtain ⟨aloneEntry, aloneMember, count, le, positive, matched⟩ :=
    exists_matches_of_tokenAt? aloneConstructed aloneUnites isToken
  have isPattern : aloneEntry.2 ∈ [pattern] := by
    rw [← only]
    exact List.mem_map_of_mem aloneMember
  rw [List.mem_singleton.mp isPattern] at matched
  obtain ⟨entry, entryMember, rfl⟩ := List.mem_map.mp member
  rcases tokenAt?_or_findsEmpty constructed unites entryMember positive le matched with
    isSome | ⟨culprit, culpritMember, findsEmpty, blames⟩
  · left
    rw [longestMatch?, Option.isSome_map]
    exact ⟨isSome, tokenize_ne_error isSome⟩
  · right
    rw [longestMatch?, findsEmpty.tokenAt?_eq_none]
    exact ⟨rfl, culprit.2, List.mem_map_of_mem culpritMember, findsEmpty, blames⟩

/-- A letter, and a text up to the first semicolon. -/
def statementPatterns : List (Pattern Nat) :=
  [⟨"a", 1, {}, 0⟩, ⟨"[a-z]+;", 2, { fixedEnder := true }, 0⟩]

theorem retained_statementPatterns :
    ∃ builder lexer aloneBuilder alone,
      LexerBuilder.empty.addAll statementPatterns = .ok builder ∧
        builder.build = .ok lexer ∧
          LexerBuilder.empty.addAll [⟨"a", 1, {}, 0⟩] = .ok aloneBuilder ∧
            aloneBuilder.build = .ok alone ∧
              alone.longestMatch? "ab;" = some (1, 1) ∧
                lexer.longestMatch? "ab;" = some (2, 2) ∧
                  lexer.tokenize "ab;" ≠ .error ⟨.noToken, 0⟩ := by
  obtain ⟨builder, lexer, added, built, finds⟩ :=
    LexerBuilder.exists_built statementPatterns (fun lexer => lexer.longestMatch? "ab;")
      (some (2, 2)) (by decide +kernel)
  obtain ⟨aloneBuilder, alone, addedAlone, builtAlone, findsAlone⟩ :=
    LexerBuilder.exists_built [⟨"a", 1, {}, 0⟩] (fun lexer => lexer.longestMatch? "ab;")
      (some (1, 1)) (by decide +kernel)
  refine ⟨builder, lexer, aloneBuilder, alone, added, built, addedAlone, builtAlone, findsAlone,
    finds, ?_⟩
  rcases longestMatch?_retained added built List.mem_cons_self addedAlone builtAlone
      (by rw [findsAlone]; rfl) with ⟨_, notRefused⟩ | ⟨impossible, _⟩
  · exact notRefused .noToken
  · rw [finds] at impossible
    contradiction

/-- A lexer of some patterns finds nothing in a text, though one of them alone does. -/
def Loses
    [PropertyParser]
    (patterns : List (Pattern τ))
    (pattern : Pattern τ)
    (text : String) :
    Prop :=
  pattern ∈ patterns ∧
    ∃ builder lexer aloneBuilder alone,
      LexerBuilder.empty.addAll patterns = .ok builder ∧
        builder.build = .ok lexer ∧
          LexerBuilder.empty.addAll [pattern] = .ok aloneBuilder ∧
            aloneBuilder.build = .ok alone ∧
              (alone.longestMatch? text).isSome = true ∧
                lexer.longestMatch? text = none ∧
                  lexer.tokenize text = .error ⟨.noToken, 0⟩

/-- What a lexer loses can be evaluated. -/
theorem loses_of_evaluated
    [PropertyParser]
    {patterns : List (Pattern τ)}
    {pattern : Pattern τ}
    {text : String}
    (member : pattern ∈ patterns)
    (evaluated :
      ((LexerBuilder.empty.addAll patterns).toOption.bind fun builder =>
        builder.build.toOption.map fun lexer =>
          (lexer.longestMatch? text, lexer.tokenize text)) =
        some (none, .error ⟨.noToken, 0⟩))
    (evaluatedAlone :
      ((LexerBuilder.empty.addAll [pattern]).toOption.bind fun builder =>
        builder.build.toOption.map fun alone => (alone.longestMatch? text).isSome) =
        some true) :
    Loses patterns pattern text := by
  obtain ⟨builder, lexer, added, built, results⟩ :=
    LexerBuilder.exists_built patterns
      (fun lexer => (lexer.longestMatch? text, lexer.tokenize text)) _ evaluated
  obtain ⟨findsNone, refuses⟩ := Prod.mk.inj results
  obtain ⟨aloneBuilder, alone, addedAlone, builtAlone, findsAlone⟩ :=
    LexerBuilder.exists_built [pattern] (fun alone => (alone.longestMatch? text).isSome) _
      evaluatedAlone
  exact ⟨member, builder, lexer, aloneBuilder, alone, added, built, addedAlone, builtAlone,
    findsAlone, findsNone, refuses⟩

/-- A letter, and another letter any number of times that is accepted at once. -/
def hastyPatterns : List (Pattern Nat) :=
  [⟨"a", 1, {}, 0⟩, ⟨"b*", 2, { acceptImmediately := true }, 0⟩]

/-- A letter, and two letters that are both taken off as an ender. -/
def enderPatterns : List (Pattern Nat) :=
  [⟨"a", 1, {}, 0⟩, ⟨"ab", 2, { fixedEnder := true }, 0⟩]

/--
A pattern that accepts the empty text at once makes a lexer lose the letter, and so does one
whose longer match has nothing left without its ender.
-/
theorem loses_letter :
    Loses hastyPatterns ⟨"a", 1, {}, 0⟩ "a" ∧ Loses enderPatterns ⟨"a", 1, {}, 0⟩ "ab" :=
  ⟨loses_of_evaluated List.mem_cons_self (by decide +kernel) (by decide +kernel),
    loses_of_evaluated List.mem_cons_self (by decide +kernel) (by decide +kernel)⟩

end Lexer

end LexicalAutomata
