import LexicalAutomata.Lexer.Basic
import LexicalAutomata.Proofs.Lexer.Patterns
import LexicalAutomata.Unicode.Property

namespace LexicalAutomata

/-!
# Maximal munch

At each place the token is decided by the longest text that any pattern matches there, and
of the patterns that match exactly this text, by those with the highest priority.
-/

variable {τ : Type}

/-- No pattern that matches the text between two places exceeds this one in priority. -/
structure Pattern.Wins
    [PropertyParser]
    (patterns : List (Pattern τ))
    (source target : Place)
    (pattern : Pattern τ) : Prop where
  member : pattern ∈ patterns
  matched : pattern.Matches source.offset source target
  highest :
    ∀ other ∈ patterns,
      other.Matches source.offset source target → other.totalPriority ≤ pattern.totalPriority

/-- The next token at a place and the number of its characters. -/
structure Pattern.IsToken
    [PropertyParser]
    (patterns : List (Pattern τ))
    (place : Place)
    (token : τ)
    (length : Nat) : Prop where
  positive : 0 < length
  le : length ≤ place.rest.length
  longest :
    ∀ pattern ∈ patterns, ∀ stop,
      pattern.Matches place.offset place stop → stop.offset ≤ (place.advance length).offset
  winner : ∃ pattern, Wins patterns place (place.advance length) pattern
  agree : ∀ pattern, Wins patterns place (place.advance length) pattern → pattern.token = token

/-- No pattern matches any text at a place but the empty one. -/
def Pattern.NoToken
    [PropertyParser]
    (patterns : List (Pattern τ))
    (place : Place) :
    Prop :=
  ∀ pattern ∈ patterns, ∀ stop,
    pattern.Matches place.offset place stop → stop.offset ≤ place.offset

/-- The division of a text into tokens, or the place where there is no token. -/
inductive Pattern.Tokenizes
    [PropertyParser]
    (patterns : List (Pattern τ)) :
    Place →
    Except TextError (List (τ × List Char)) →
    Prop where
  | ended
      {place : Place} :
      place.rest = [] →
      Tokenizes patterns place (.ok [])
  | stuck
      {place : Place} :
      place.rest ≠ [] →
      Pattern.NoToken patterns place →
      Tokenizes patterns place (.error ⟨.noToken, place.offset⟩)
  | token
      {place : Place}
      {token : τ}
      {length : Nat}
      {others : Except TextError (List (τ × List Char))} :
      Pattern.IsToken patterns place token length →
      Tokenizes patterns (place.advance length) others →
      Tokenizes patterns place (others.map ((token, place.rest.take length) :: ·))

section Tokens

variable {patterns : List (Pattern τ)} {place : Place} {token other : τ}
  {length otherLength : Nat}

/-- A text that is matched is longer than the empty one. -/
theorem Pattern.IsToken.not_noToken
    [PropertyParser]
    (isToken : Pattern.IsToken patterns place token length) :
    ¬ Pattern.NoToken patterns place := by
  intro noToken
  obtain ⟨pattern, wins⟩ := isToken.winner
  have notBehind := noToken pattern wins.member _ wins.matched
  have behind := place.offset_advance_lt isToken.positive isToken.le
  rw [Place.advance_zero] at behind
  omega

/-- There is only one next token. -/
theorem Pattern.IsToken.unique
    [PropertyParser]
    (isToken : Pattern.IsToken patterns place token length)
    (isOther : Pattern.IsToken patterns place other otherLength) :
    token = other ∧ length = otherLength := by
  obtain ⟨pattern, wins⟩ := isToken.winner
  obtain ⟨otherPattern, otherWins⟩ := isOther.winner
  have notBeyond := isOther.longest pattern wins.member _ wins.matched
  have notBefore := isToken.longest otherPattern otherWins.member _ otherWins.matched
  have same : length = otherLength := by
    rcases Nat.lt_trichotomy length otherLength with less | same | greater
    · have := place.offset_advance_lt less isOther.le
      omega
    · exact same
    · have := place.offset_advance_lt greater isToken.le
      omega
  subst same
  exact ⟨(isToken.agree pattern wins).symm.trans (isOther.agree pattern wins), rfl⟩

/-- There is only one division into tokens. -/
theorem Pattern.Tokenizes.unique
    [PropertyParser]
    {first second : Except TextError (List (τ × List Char))}
    (tokenizes : Pattern.Tokenizes patterns place first)
    (otherTokenizes : Pattern.Tokenizes patterns place second) :
    first = second := by
  induction tokenizes generalizing second with
  | ended ended =>
      cases otherTokenizes with
      | ended _ =>
          rfl
      | stuck notEnded _ =>
          exact (notEnded ended).elim
      | token isToken _ =>
          have := isToken.le
          rw [ended] at this
          exact (Nat.lt_irrefl _ (Nat.lt_of_lt_of_le isToken.positive this)).elim
  | stuck notEnded noToken =>
      cases otherTokenizes with
      | ended ended =>
          exact (notEnded ended).elim
      | stuck _ _ =>
          rfl
      | token isToken _ =>
          exact (isToken.not_noToken noToken).elim
  | token isToken _ inductionHypothesis =>
      cases otherTokenizes with
      | ended ended =>
          have := isToken.le
          rw [ended] at this
          exact (Nat.lt_irrefl _ (Nat.lt_of_lt_of_le isToken.positive this)).elim
      | stuck _ noToken =>
          exact (isToken.not_noToken noToken).elim
      | token isOther otherRest =>
          obtain ⟨rfl, rfl⟩ := isToken.unique isOther
          rw [inductionHypothesis otherRest]

/-- Tokens are not empty, and make up the text. -/
theorem Pattern.Tokenizes.nonempty_and_flatMap
    [PropertyParser]
    {tokens : List (τ × List Char)}
    (tokenizes : Pattern.Tokenizes patterns place (.ok tokens)) :
    (∀ token ∈ tokens, token.2 ≠ []) ∧ tokens.flatMap Prod.snd = place.rest := by
  generalize same : Except.ok tokens = result at tokenizes
  induction tokenizes generalizing tokens with
  | ended ended =>
      cases same
      simp [ended]
  | stuck _ _ =>
      contradiction
  | @token place token length others isToken _ inductionHypothesis =>
      obtain ⟨rest, rfl, rfl⟩ := exists_of_map_eq_ok same.symm
      obtain ⟨nonempty, whole⟩ := inductionHypothesis rfl
      constructor
      · intro pair member
        rcases List.mem_cons.mp member with rfl | later
        · have := isToken.positive
          have := isToken.le
          rw [← List.length_pos_iff, List.length_take]
          omega
        · exact nonempty pair later
      · rw [List.flatMap_cons, whole, Place.rest_advance, List.take_append_drop]

end Tokens

section Joins

variable {graph : Graph τ} {start : Nat} {entries : List (Fragment × Pattern τ)}

/-- The terminals that count are the exits of the patterns that win. -/
theorem Graph.Joins.isTop_iff
    [PropertyParser]
    (joins : graph.Joins start entries)
    {entry : Fragment × Pattern τ}
    (member : entry ∈ entries)
    (place : Place)
    (count : Nat) :
    graph.IsTop (graph.reached place.offset {start} place count) entry.1.last ↔
      Pattern.Wins (entries.map Prod.snd) place (place.advance count) entry.2 := by
  constructor
  · intro isTop
    refine ⟨List.mem_map_of_mem member,
      (joins.last_mem_reached_iff member _ _ _).mp isTop.member, ?_⟩
    intro other otherMember otherMatched
    obtain ⟨otherEntry, entryMember, rfl⟩ := List.mem_map.mp otherMember
    rw [← joins.priority_last member, ← joins.priority_last entryMember]
    apply isTop.highest _ ((joins.last_mem_reached_iff entryMember _ _ _).mpr otherMatched)
    rw [joins.token_last entryMember]
    rfl
  · intro wins
    refine ⟨(joins.last_mem_reached_iff member _ _ _).mpr wins.matched, ?_, ?_⟩
    · rw [joins.token_last member]
      rfl
    · intro other otherMember terminal
      obtain ⟨otherEntry, entryMember, rfl⟩ := joins.exists_entry terminal
      rw [joins.priority_last member, joins.priority_last entryMember]
      exact wins.highest _ (List.mem_map_of_mem entryMember)
        ((joins.last_mem_reached_iff entryMember _ _ _).mp otherMember)

end Joins

namespace Lexer

variable [DecidableEq τ] {graph : Graph τ} {start : Nat}
  {entries : List (Fragment × Pattern τ)} {automaton : Automaton τ}

/-- The token that a lexer finds at a place, or that there is none. -/
theorem tokenAt?_cases
    [PropertyParser]
    (built : Automaton.ofGraph graph start = .ok automaton)
    (joins : graph.Joins start entries)
    (place : Place) :
    (∃ token length,
        (Lexer.mk automaton).tokenAt? place = some (token, length) ∧
          Pattern.IsToken (entries.map Prod.snd) place token length) ∨
      ((Lexer.mk automaton).tokenAt? place = none ∧
        Pattern.NoToken (entries.map Prod.snd) place) := by
  unfold tokenAt? accepted?
  rcases Automaton.isLongest_or_none built joins.plain place place.offset with
    ⟨found, acceptance, isFound, accepted, longest⟩ | ⟨isNone, silent⟩
  · have atMost :
        ∀ pattern ∈ entries.map Prod.snd, ∀ stop,
          pattern.Matches place.offset place stop →
            stop.offset ≤ (place.advance found.length).offset := by
      intro pattern patternMember stop matched
      obtain ⟨entry, member, rfl⟩ := List.mem_map.mp patternMember
      obtain ⟨count, le, rfl⟩ := joins.exists_advance member matched
      apply place.offset_advance_mono
      exact longest.longest count le (joins.hasTerminal_reached member matched)
    simp only [isFound]
    split
    · rename_i empty
      refine Or.inr ⟨rfl, ?_⟩
      intro pattern patternMember stop matched
      have := atMost pattern patternMember stop matched
      rw [empty, Place.advance_zero] at this
      exact this
    · rename_i nonempty
      left
      refine ⟨acceptance.token, found.length, ?_, Nat.pos_of_ne_zero nonempty, longest.le, atMost,
        ?_, ?_⟩
      · simp only [Automaton.token?, accepted]
        rfl
      · obtain ⟨top, isTop, _⟩ := longest.accepts.priority
        obtain ⟨entry, member, rfl⟩ := joins.exists_entry isTop.terminal
        exact ⟨entry.2, (joins.isTop_iff member place found.length).mp isTop⟩
      · intro pattern wins
        obtain ⟨entry, member, rfl⟩ := List.mem_map.mp wins.member
        have isTop := (joins.isTop_iff member place found.length).mpr wins
        have token := longest.accepts.token _ isTop
        rw [joins.token_last member] at token
        exact Option.some.inj token
  · right
    simp only [isNone]
    refine ⟨trivial, ?_⟩
    intro pattern patternMember stop matched
    obtain ⟨entry, member, rfl⟩ := List.mem_map.mp patternMember
    obtain ⟨count, le, rfl⟩ := joins.exists_advance member matched
    exact (silent count le (joins.hasTerminal_reached member matched)).elim

theorem isToken_of_tokenAt?
    [PropertyParser]
    (built : Automaton.ofGraph graph start = .ok automaton)
    (joins : graph.Joins start entries)
    {place : Place}
    {token : τ}
    {length : Nat}
    (found : (Lexer.mk automaton).tokenAt? place = some (token, length)) :
    Pattern.IsToken (entries.map Prod.snd) place token length := by
  rcases tokenAt?_cases built joins place with ⟨other, otherLength, isSome, isToken⟩ | ⟨isNone, _⟩
  · cases found.symm.trans isSome
    exact isToken
  · cases found.symm.trans isNone

theorem noToken_of_tokenAt?
    [PropertyParser]
    (built : Automaton.ofGraph graph start = .ok automaton)
    (joins : graph.Joins start entries)
    {place : Place}
    (isNone : (Lexer.mk automaton).tokenAt? place = none) :
    Pattern.NoToken (entries.map Prod.snd) place := by
  rcases tokenAt?_cases built joins place with ⟨_, _, isSome, _⟩ | ⟨_, noToken⟩
  · cases isNone.symm.trans isSome
  · exact noToken

/-- The lexer finds a token at a place exactly when it is the next token there. -/
theorem tokenAt?_eq_some_iff
    [PropertyParser]
    (built : Automaton.ofGraph graph start = .ok automaton)
    (joins : graph.Joins start entries)
    {place : Place}
    {token : τ}
    {length : Nat} :
    (Lexer.mk automaton).tokenAt? place = some (token, length) ↔
      Pattern.IsToken (entries.map Prod.snd) place token length := by
  constructor
  · exact isToken_of_tokenAt? built joins
  · intro isToken
    rcases tokenAt?_cases built joins place with ⟨_, _, isSome, other⟩ | ⟨_, noToken⟩
    · obtain ⟨rfl, rfl⟩ := isToken.unique other
      exact isSome
    · exact (isToken.not_noToken noToken).elim

/-- The tokens from a place on are decided by maximal munch, one after the other. -/
theorem tokenizes_tokensFrom
    [PropertyParser]
    (built : Automaton.ofGraph graph start = .ok automaton)
    (joins : graph.Joins start entries)
    (place : Place) :
    Pattern.Tokenizes (entries.map Prod.snd) place ((Lexer.mk automaton).tokensFrom place) := by
  fun_induction Lexer.tokensFrom (Lexer.mk automaton) place with
  | case1 place ended =>
      exact .ended (List.isEmpty_iff.mp ended)
  | case2 place notEnded isNone =>
      exact .stuck (by simpa using notEnded) (noToken_of_tokenAt? built joins isNone)
  | case3 place notEnded token length isSome error failed inductionHypothesis =>
      rw [failed] at inductionHypothesis
      exact .token (isToken_of_tokenAt? built joins isSome) inductionHypothesis
  | case4 place notEnded token length isSome tokens rest inductionHypothesis =>
      rw [rest] at inductionHypothesis
      exact .token (isToken_of_tokenAt? built joins isSome) inductionHypothesis

/--
Maximal munch: a text has exactly one division into tokens by its longest matches, and the
lexer finds it.  The tokens are not empty and make up the whole text, and the longest match
is the first of them.  The priorities that decide are 32-bit numbers: they are the exact ones
except for a literal whose priority is the greatest there is, which becomes the lowest.
-/
theorem tokenize_maximalMunch
    [PropertyParser]
    {patterns : List (Pattern τ)}
    (plain : ∀ pattern ∈ patterns, pattern.Plain)
    {builder : LexerBuilder τ}
    (added : LexerBuilder.empty.addAll patterns = .ok builder)
    {lexer : Lexer τ}
    (built : builder.build = .ok lexer)
    (text : String) :
    (∃ result,
        Pattern.Tokenizes patterns (.start text.toList) result ∧
          (∀ other, Pattern.Tokenizes patterns (.start text.toList) other → other = result) ∧
            lexer.tokenize text =
              result.map fun tokens =>
                tokens.map fun (token, chars) => (token, String.ofList chars)) ∧
      (∀ tokens, lexer.tokenize text = .ok tokens →
        (∀ token ∈ tokens, token.2 ≠ "") ∧
          tokens.flatMap (fun token => token.2.toList) = text.toList) ∧
      (∀ token bytes,
        lexer.longestMatch? text = some (token, bytes) ↔
          ∃ length,
            Pattern.IsToken patterns (.start text.toList) token length ∧
              bytes = Text.byteLength (text.toList.take length)) ∧
      (lexer.longestMatch? text = none ↔ Pattern.NoToken patterns (.start text.toList)) ∧
      ∀ pattern ∈ patterns,
        pattern.totalPriority.toInt =
          if pattern.exactPriority = 0x80000000 then -0x80000000 else pattern.exactPriority := by
  obtain ⟨entries, collects, rfl⟩ := LexerBuilder.collects_empty.addAll plain added
  rw [List.nil_append] at collects
  obtain ⟨automaton, automatonBuilt, rfl⟩ := exists_of_map_eq_ok built
  obtain ⟨graph, start, constructed, joins⟩ := collects.exists_joins automatonBuilt
  have tokenizes := tokenizes_tokensFrom constructed joins (.start text.toList)
  refine ⟨⟨_, tokenizes, fun other otherTokenizes => otherTokenizes.unique tokenizes, rfl⟩,
    ?_, ?_, ?_, fun pattern _ => pattern.toInt_totalPriority⟩
  · intro tokens tokenized
    obtain ⟨pairs, found, rfl⟩ := exists_of_map_eq_ok tokenized
    rw [found] at tokenizes
    obtain ⟨nonempty, whole⟩ := tokenizes.nonempty_and_flatMap
    constructor
    · intro token member
      obtain ⟨pair, pairMember, rfl⟩ := List.mem_map.mp member
      intro empty
      apply nonempty pair pairMember
      have := congrArg String.toList empty
      rw [String.toList_ofList] at this
      exact this
    · rw [List.flatMap_map]
      simp only [String.toList_ofList]
      exact whole
  · intro token bytes
    unfold longestMatch?
    rw [Option.map_eq_some_iff]
    constructor
    · rintro ⟨⟨found, length⟩, isSome, same⟩
      cases same
      exact ⟨length, isToken_of_tokenAt? constructed joins isSome, rfl⟩
    · rintro ⟨length, isToken, rfl⟩
      exact ⟨(token, length), (tokenAt?_eq_some_iff constructed joins).mpr isToken, rfl⟩
  · unfold longestMatch?
    rw [Option.map_eq_none_iff]
    constructor
    · exact noToken_of_tokenAt? constructed joins
    · intro noToken
      rcases tokenAt?_cases constructed joins (.start text.toList) with
        ⟨_, _, _, isToken⟩ | ⟨isNone, _⟩
      · exact (isToken.not_noToken noToken).elim
      · exact isNone

/-- A keyword, words and spaces. -/
def wordPatterns : List (Pattern Nat) :=
  [⟨"if", 0, {}, 0⟩, ⟨"[a-z]+", 1, {}, 0⟩, ⟨" ", 2, {}, 0⟩]

theorem tokenizes_wordPatterns :
    ∃ tokens,
      Pattern.Tokenizes wordPatterns (.start "if ifs".toList) (.ok tokens) ∧
        tokens.map Prod.fst = [0, 2, 1] := by
  have evaluated :
      ((LexerBuilder.empty.addAll wordPatterns).toOption.bind fun builder =>
          builder.build.toOption.bind fun lexer =>
            (lexer.tokenize "if ifs").toOption.map (List.map Prod.fst)) =
        some [0, 2, 1] := by
    decide +kernel
  obtain ⟨builder, isBuilder, evaluated⟩ := Option.bind_eq_some_iff.mp evaluated
  obtain ⟨lexer, isLexer, evaluated⟩ := Option.bind_eq_some_iff.mp evaluated
  obtain ⟨tokens, isTokens, names⟩ := Option.map_eq_some_iff.mp evaluated
  have plain : ∀ pattern ∈ wordPatterns, pattern.Plain := by
    simp [wordPatterns, Pattern.Plain]
  obtain ⟨⟨result, tokenizes, _, same⟩, _⟩ :=
    tokenize_maximalMunch plain (ok_of_toOption isBuilder) (ok_of_toOption isLexer) "if ifs"
  rw [ok_of_toOption isTokens] at same
  obtain ⟨pairs, rfl, rfl⟩ := exists_of_map_eq_ok same.symm
  refine ⟨pairs, tokenizes, ?_⟩
  rw [← names, List.map_map]
  rfl

/-- A pattern matches the characters that a lexer of this pattern alone finds. -/
theorem matches_of_longestMatch?_alone
    [PropertyParser]
    {pattern : Pattern τ}
    (plain : pattern.Plain)
    {builder : LexerBuilder τ}
    (added : LexerBuilder.empty.addAll [pattern] = .ok builder)
    {lexer : Lexer τ}
    (built : builder.build = .ok lexer)
    {char : Char}
    (finds : (lexer.longestMatch? (String.ofList [char])).isSome = true) :
    pattern.Matches 0 (.start [char]) ((Place.start [char]).advance 1) := by
  obtain ⟨entries, collects, only⟩ :=
    LexerBuilder.collects_empty.addAll (List.forall_mem_singleton.mpr plain) added
  obtain ⟨automaton, automatonBuilt, rfl⟩ := exists_of_map_eq_ok built
  obtain ⟨graph, start, constructed, joins⟩ := collects.exists_joins automatonBuilt
  rw [longestMatch?, Option.isSome_map, String.toList_ofList] at finds
  obtain ⟨⟨token, length⟩, isSome⟩ := Option.isSome_iff_exists.mp finds
  have isToken := isToken_of_tokenAt? constructed joins isSome
  have single : length = 1 := Nat.le_antisymm isToken.le isToken.positive
  obtain ⟨winner, wins⟩ := isToken.winner
  have same : winner = pattern := by
    have member := wins.member
    rw [List.nil_append, only] at member
    exact List.mem_singleton.mp member
  rw [← same, ← single]
  exact wins.matched

/-- The literal letter with the highest priority there is, and words. -/
def extremePatterns : List (Pattern Nat) :=
  [⟨"a", 1, {}, 2147483647⟩, ⟨"[a-z]+", 2, {}, 0⟩]

/-- Both patterns match the letter, and the one with the higher exact priority loses. -/
theorem outranked_extremePatterns :
    ∃ builder lexer,
      LexerBuilder.empty.addAll extremePatterns = .ok builder ∧
        builder.build = .ok lexer ∧
          (∀ pattern ∈ extremePatterns,
            pattern.Plain ∧ pattern.Matches 0 (.start ['a']) ((Place.start ['a']).advance 1)) ∧
            extremePatterns.map Pattern.exactPriority = [0x80000000, 0] ∧
              lexer.longestMatch? "a" = some (2, 1) ∧
                lexer.tokenize "a" = .ok [(2, "a")] := by
  obtain ⟨builder, lexer, added, built, results⟩ :=
    LexerBuilder.exists_built extremePatterns
      (fun lexer => (lexer.longestMatch? "a", lexer.tokenize "a"))
      (some (2, 1), .ok [(2, "a")]) (by decide +kernel)
  obtain ⟨finds, tokenizes⟩ := Prod.mk.inj results
  refine ⟨builder, lexer, added, built, ?_, by decide +kernel, finds, tokenizes⟩
  intro pattern member
  have plain : pattern.Plain := by
    revert pattern
    simp [extremePatterns, Pattern.Plain]
  have found :
      ∀ pattern ∈ extremePatterns,
        ((LexerBuilder.empty.addAll [pattern]).toOption.bind fun builder =>
          builder.build.toOption.map fun alone => (alone.longestMatch? "a").isSome) =
            some true := by
    decide +kernel
  obtain ⟨aloneBuilder, alone, addedAlone, builtAlone, findsAlone⟩ :=
    LexerBuilder.exists_built [pattern] (fun alone => (alone.longestMatch? "a").isSome) true
      (found pattern member)
  exact ⟨plain, matches_of_longestMatch?_alone plain addedAlone builtAlone findsAlone⟩

end Lexer

end LexicalAutomata
