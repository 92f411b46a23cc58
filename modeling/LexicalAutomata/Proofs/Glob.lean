import LexicalAutomata.Glob
import LexicalAutomata.Proofs.Expression.Pieces
import LexicalAutomata.Proofs.Expression.Words
import LexicalAutomata.Proofs.Lexer.Following

namespace LexicalAutomata

/-!
# Globs

What a glob pattern matches is said of its characters alone.  The expression that is made of
a pattern reads exactly these texts, so a matcher of glob patterns is right about the text
and about everything that may still come, and patterns without a star are preferred.
-/

/-- A glob pattern matches a text. -/
inductive Globs : List Char → List Char → Prop where
  | nil :
      Globs [] []
  /-- A backslash at the end stands for itself. -/
  | backslash :
      Globs ['\\'] ['\\']
  /-- Behind a backslash, any character stands for itself. -/
  | escaped
      {pattern text : List Char}
      (char : Char) :
      Globs pattern text →
      Globs ('\\' :: char :: pattern) (char :: text)
  | mark
      {pattern text : List Char}
      (char : Char) :
      Globs pattern text →
      Globs ('?' :: pattern) (char :: text)
  | star
      {pattern text : List Char}
      (front : List Char) :
      Globs pattern text →
      Globs ('*' :: pattern) (front ++ text)
  | ordinary
      {pattern text : List Char}
      {char : Char} :
      char ∉ ['\\', '?', '*'] →
      Globs pattern text →
      Globs (char :: pattern) (char :: text)

/-- There is a star in a glob pattern that no backslash makes an ordinary character. -/
inductive HasStar : List Char → Prop where
  | here
      (pattern : List Char) :
      HasStar ('*' :: pattern)
  | escaped
      {pattern : List Char}
      (char : Char) :
      HasStar pattern →
      HasStar ('\\' :: char :: pattern)
  | later
      {pattern : List Char}
      {char : Char} :
      char ≠ '\\' →
      HasStar pattern →
      HasStar (char :: pattern)

namespace GlobPart

/-- What the expression of a part is read as. -/
def piece : GlobPart → Piece
  | .literal char =>
      ⟨.label (Cursor.literalLabel false char), .once⟩
  | .anyChar =>
      ⟨.label .anyChar, .once⟩
  | .anyRun =>
      ⟨.label .anyChar, ⟨0, none⟩⟩

/-- The expression of a part writes its piece. -/
theorem writes_expression
    [PropertyParser]
    (part : GlobPart) :
    Writes false part.expression part.piece := by
  cases part with
  | literal char =>
      exact Writes.escapeChar char
  | anyChar =>
      exact Writes.anyChar
  | anyRun =>
      exact Writes.anyRun

/-- No part waits for a boundary. -/
theorem bears_piece
    (part : GlobPart) :
    part.piece.Bears fun label => label.boundaries = .empty := by
  cases part <;> rfl

/-- A pattern has no parts only if it is empty. -/
theorem ofChars_ne_nil
    {pattern : List Char}
    (nonempty : pattern ≠ []) :
    ofChars pattern ≠ [] := by
  unfold ofChars
  split <;> simp_all

/-- An ordinary character of a pattern is a literal part. -/
theorem ofChars_ordinary
    {char : Char}
    (ordinary : char ∉ ['\\', '?', '*'])
    (pattern : List Char) :
    ofChars (char :: pattern) = .literal char :: ofChars pattern := by
  rw [ofChars]
  · simp_all
  · simp_all
  · simp_all
  · simp_all

/-- A literal part reads its character. -/
theorem matches_literal_iff
    {char : Char}
    {word rest : List Nat} :
    (literal char).piece.Matches Label.Reads word rest ↔ word = char.toNat :: rest := by
  rw [piece, Piece.matches_once_iff]
  simp [Cursor.mem_literalLabel_iff]

/-- A mark reads one code point. -/
theorem matches_anyChar_iff
    {word rest : List Nat} :
    anyChar.piece.Matches Label.Reads word rest ↔
      ∃ codePoint < codePointLimit, word = codePoint :: rest := by
  rw [piece, Piece.matches_once_iff]
  simp [Label.mem_anyChar_iff]

/-- A star reads any run of code points. -/
theorem matches_anyRun_iff
    {word rest : List Nat} :
    anyRun.piece.Matches Label.Reads word rest ↔
      ∃ front : List Nat, (∀ codePoint ∈ front, codePoint < codePointLimit) ∧
        word = front ++ rest := by
  rw [piece, Piece.matches_star_iff]
  simp [Label.mem_anyChar_iff]

/-- The parts of a pattern read what the pattern matches. -/
theorem piecesMatch_of_globs
    {pattern text : List Char}
    (globs : Globs pattern text) :
    PiecesMatch Label.Reads ((ofChars pattern).map piece) (text.map Char.toNat) [] := by
  induction globs with
  | nil =>
      rfl
  | backslash =>
      exact ⟨[], matches_literal_iff.mpr rfl, rfl⟩
  | escaped char _ inductionHypothesis =>
      exact ⟨_, matches_literal_iff.mpr rfl, inductionHypothesis⟩
  | mark char _ inductionHypothesis =>
      exact ⟨_, matches_anyChar_iff.mpr ⟨_, toNat_lt_codePointLimit char, rfl⟩,
        inductionHypothesis⟩
  | star front _ inductionHypothesis =>
      refine ⟨_, matches_anyRun_iff.mpr ⟨front.map Char.toNat, ?_, List.map_append⟩,
        inductionHypothesis⟩
      intro codePoint member
      obtain ⟨char, _, rfl⟩ := List.mem_map.mp member
      exact toNat_lt_codePointLimit char
  | ordinary special _ inductionHypothesis =>
      rw [ofChars_ordinary special]
      exact ⟨_, matches_literal_iff.mpr rfl, inductionHypothesis⟩

/-- The character of a code point, or some other one in the place of a surrogate. -/
def charInPlace
    (codePoint : Nat) :
    Char :=
  (charOfCodePoint? codePoint).getD '\uFFFD'

@[simp] theorem charInPlace_toNat
    (char : Char) :
    charInPlace char.toNat = char := by
  simp [charInPlace]

@[simp] theorem map_charInPlace_map_toNat
    (text : List Char) :
    (text.map Char.toNat).map charInPlace = text := by
  simp [Function.comp_def]

/-- A character is no backslash if a backslash is told apart at the end and everywhere else. -/
theorem ne_backslash
    {char : Char}
    {pattern : List Char}
    (notEnd : char = '\\' → pattern = [] → False)
    (notEscape : ∀ next later, char = '\\' → pattern = next :: later → False) :
    char ≠ '\\' := by
  intro isBackslash
  cases pattern with
  | nil =>
      exact notEnd isBackslash rfl
  | cons next later =>
      exact notEscape next later isBackslash rfl

/-- What the parts of a pattern read is matched when surrogates are replaced. -/
theorem globs_of_piecesMatch
    {pattern : List Char}
    {word : List Nat}
    (reads : PiecesMatch Label.Reads ((ofChars pattern).map piece) word []) :
    Globs pattern (word.map charInPlace) := by
  fun_induction ofChars pattern generalizing word with
  | case1 =>
      cases reads
      exact .nil
  | case2 =>
      obtain ⟨_, first, rfl⟩ := reads
      rw [matches_literal_iff.mp first, List.map_cons, charInPlace_toNat]
      exact .backslash
  | case3 char pattern inductionHypothesis =>
      obtain ⟨_, first, others⟩ := reads
      rw [matches_literal_iff.mp first, List.map_cons, charInPlace_toNat]
      exact .escaped char (inductionHypothesis others)
  | case4 pattern inductionHypothesis =>
      obtain ⟨_, first, others⟩ := reads
      obtain ⟨codePoint, _, rfl⟩ := matches_anyChar_iff.mp first
      exact .mark _ (inductionHypothesis others)
  | case5 pattern inductionHypothesis =>
      obtain ⟨_, first, others⟩ := reads
      obtain ⟨front, _, rfl⟩ := matches_anyRun_iff.mp first
      rw [List.map_append]
      exact .star _ (inductionHypothesis others)
  | case6 char pattern notEnd notEscape notMark notStar inductionHypothesis =>
      obtain ⟨_, first, others⟩ := reads
      rw [matches_literal_iff.mp first, List.map_cons, charInPlace_toNat]
      have special : char ∉ ['\\', '?', '*'] := by
        simpa using ⟨ne_backslash notEnd notEscape, notMark, notStar⟩
      exact .ordinary special (inductionHypothesis others)

/-- All pieces of a pattern are plain when there is no star in it. -/
theorem all_isPlain_iff
    {pattern : List Char} :
    ((ofChars pattern).map piece).all Piece.isPlain = true ↔ ¬ HasStar pattern := by
  fun_induction ofChars pattern with
  | case1 =>
      simp only [List.map_nil, List.all_nil, true_iff]
      rintro ⟨⟩
  | case2 =>
      have noStar : ¬ HasStar ['\\'] := by
        rintro (_ | _ | ⟨notEscape, _⟩)
        exact notEscape rfl
      simp only [noStar, not_false_eq_true, iff_true]
      rfl
  | case3 char pattern inductionHypothesis =>
      have same : HasStar ('\\' :: char :: pattern) ↔ HasStar pattern := by
        constructor
        · rintro (_ | ⟨_, later⟩ | ⟨notEscape, _⟩)
          · exact later
          · exact (notEscape rfl).elim
        · exact .escaped char
      rw [same, ← inductionHypothesis]
      rfl
  | case4 pattern inductionHypothesis =>
      have same : HasStar ('?' :: pattern) ↔ HasStar pattern := by
        constructor
        · rintro (_ | _ | ⟨_, later⟩)
          exact later
        · exact .later (by decide)
      rw [same, ← inductionHypothesis]
      rfl
  | case5 pattern inductionHypothesis =>
      simp only [HasStar.here, not_true_eq_false, iff_false]
      simp [piece, Piece.isPlain, Quantifier.once]
  | case6 char pattern notEnd notEscape notMark notStar inductionHypothesis =>
      have same : HasStar (char :: pattern) ↔ HasStar pattern := by
        constructor
        · rintro (_ | ⟨_, later⟩ | ⟨_, later⟩)
          · exact (notStar rfl).elim
          · exact (notEscape _ _ rfl rfl).elim
          · exact later
        · exact .later (ne_backslash notEnd notEscape)
      rw [same, ← inductionHypothesis]
      rfl

end GlobPart

namespace Glob

/-- A glob pattern as a pattern of a lexer. -/
def lexerPattern
    (pattern : String × τ) :
    Pattern τ where
  text := .ofList ((GlobPart.ofChars pattern.1.toList).flatMap GlobPart.expression)
  token := pattern.2
  options := {}
  priority := 0

variable {pattern : String × τ}

/-- The expression of a glob pattern is the branch of its parts. -/
theorem parse_lexerPattern
    [PropertyParser]
    (nonempty : pattern.1 ≠ "") :
    Expression.parse (lexerPattern pattern).text (lexerPattern pattern).options =
      .ok [(GlobPart.ofChars pattern.1.toList).map GlobPart.piece] := by
  have present : GlobPart.ofChars pattern.1.toList ≠ [] := by
    apply GlobPart.ofChars_ne_nil
    simpa using nonempty
  have parsed :=
    Writes.ofChars_flatMap present fun part _ => GlobPart.writes_expression part
  simpa [Expression.parse, lexerPattern] using parsed

/-- A glob pattern asks for neither an ender nor immediate acceptance. -/
theorem plain_lexerPattern
    (pattern : String × τ) :
    (lexerPattern pattern).Plain :=
  ⟨rfl, rfl⟩

/-- A glob pattern waits for no boundary. -/
theorem boundaryFree_lexerPattern
    [PropertyParser]
    (nonempty : pattern.1 ≠ "") :
    (lexerPattern pattern).BoundaryFree := by
  apply Pattern.boundaryFree_of_parse (parse_lexerPattern nonempty)
  intro piece member
  obtain ⟨part, _, rfl⟩ := List.mem_map.mp member
  exact part.bears_piece

/-- A glob pattern accepts the texts that it matches. -/
theorem accepts_lexerPattern_iff
    [PropertyParser]
    (nonempty : pattern.1 ≠ "")
    (text : List Char) :
    (lexerPattern pattern).Accepts (text.map Char.toNat) ↔ Globs pattern.1.toList text := by
  rw [Pattern.accepts_iff_of_parse (parse_lexerPattern nonempty)]
  constructor
  · intro reads
    have globs := GlobPart.globs_of_piecesMatch reads
    rwa [GlobPart.map_charInPlace_map_toNat] at globs
  · exact GlobPart.piecesMatch_of_globs

/-- A glob pattern accepts a longer word just when it matches a longer text. -/
theorem exists_accepts_lexerPattern_iff
    [PropertyParser]
    (nonempty : pattern.1 ≠ "")
    (text : List Char) :
    (∃ more, (lexerPattern pattern).Accepts (text.map Char.toNat ++ more)) ↔
      ∃ more, Globs pattern.1.toList (text ++ more) := by
  constructor
  · -- The rest of the word may have surrogates, which no text has: characters replace them.
    rintro ⟨more, accepts⟩
    rw [Pattern.accepts_iff_of_parse (parse_lexerPattern nonempty)] at accepts
    have globs := GlobPart.globs_of_piecesMatch accepts
    rw [List.map_append, GlobPart.map_charInPlace_map_toNat] at globs
    exact ⟨_, globs⟩
  · rintro ⟨more, globs⟩
    have accepts := (accepts_lexerPattern_iff nonempty (text ++ more)).mpr globs
    rw [List.map_append] at accepts
    exact ⟨_, accepts⟩

/-- A glob pattern without a star has a priority higher by one. -/
theorem totalPriority_lexerPattern
    [PropertyParser]
    (nonempty : pattern.1 ≠ "")
    [Decidable (HasStar pattern.1.toList)] :
    (lexerPattern pattern).totalPriority = if HasStar pattern.1.toList then 0 else 1 := by
  rw [Pattern.totalPriority_of_parse (parse_lexerPattern nonempty)]
  have plain :
      ((GlobPart.ofChars pattern.1.toList).map GlobPart.piece).all Piece.isPlain = true ↔
        ¬ HasStar pattern.1.toList :=
    GlobPart.all_isPlain_iff
  split <;> split <;> simp_all [lexerPattern]

/-- One glob pattern has at most the priority of another one if a star in that is one in this. -/
theorem totalPriority_le_iff
    [PropertyParser]
    {other : String × τ}
    (nonempty : pattern.1 ≠ "")
    (otherNonempty : other.1 ≠ "") :
    (lexerPattern other).totalPriority ≤ (lexerPattern pattern).totalPriority ↔
      (HasStar pattern.1.toList → HasStar other.1.toList) := by
  classical
  rw [totalPriority_lexerPattern nonempty, totalPriority_lexerPattern otherNonempty]
  split <;> split <;> simp_all

/--
A pattern is preferred for a text that it matches if it has no star, or if all patterns that
match the text have one.
-/
structure Preferred
    (patterns : List (String × τ))
    (text : List Char)
    (pattern : String × τ) : Prop where
  member : pattern ∈ patterns
  globs : Globs pattern.1.toList text
  starless :
    HasStar pattern.1.toList →
      ∀ other ∈ patterns, Globs other.1.toList text → HasStar other.1.toList

/-- The leading patterns are those that are preferred. -/
theorem mem_leadingTokens_iff
    [PropertyParser]
    {patterns : List (String × τ)}
    (nonempty : ∀ pattern ∈ patterns, pattern.1 ≠ "")
    {text : List Char}
    {token : τ} :
    token ∈ Pattern.leadingTokens (patterns.map lexerPattern) (text.map Char.toNat) ↔
      ∃ pattern, Preferred patterns text pattern ∧ pattern.2 = token := by
  constructor
  · rintro ⟨_, ⟨member, accepts, highest⟩, rfl⟩
    obtain ⟨pattern, present, rfl⟩ := List.mem_map.mp member
    refine ⟨pattern, ⟨present, (accepts_lexerPattern_iff (nonempty _ present) text).mp accepts, ?_⟩,
      rfl⟩
    intro star other otherPresent otherGlobs
    apply (totalPriority_le_iff (nonempty _ present) (nonempty _ otherPresent)).mp _ star
    exact highest _ (List.mem_map_of_mem otherPresent)
      ((accepts_lexerPattern_iff (nonempty _ otherPresent) text).mpr otherGlobs)
  · rintro ⟨pattern, ⟨present, globs, starless⟩, rfl⟩
    refine ⟨lexerPattern pattern, ⟨List.mem_map_of_mem present,
      (accepts_lexerPattern_iff (nonempty _ present) text).mpr globs, ?_⟩, rfl⟩
    intro other member accepts
    obtain ⟨other, otherPresent, rfl⟩ := List.mem_map.mp member
    apply (totalPriority_le_iff (nonempty _ present) (nonempty _ otherPresent)).mpr
    intro star
    exact starless star other otherPresent
      ((accepts_lexerPattern_iff (nonempty _ otherPresent) text).mp accepts)

end Glob

namespace LexerBuilder

/-- Add glob patterns in the given order, unless one of them is refused. -/
def addGlobs
    [PropertyParser]
    (builder : LexerBuilder τ) :
    List (String × τ) →
    Except TextError (LexerBuilder τ)
  | [] =>
      .ok builder
  | (pattern, token) :: rest =>
      match builder.addGlob pattern token with
      | (.error error, _) =>
          .error error
      | (.ok (), next) =>
          next.addGlobs rest

/-- Adding glob patterns that are not empty is adding their expressions. -/
theorem addGlobs_eq
    [PropertyParser]
    (builder : LexerBuilder τ)
    {patterns : List (String × τ)}
    (nonempty : ∀ pattern ∈ patterns, pattern.1 ≠ "") :
    builder.addGlobs patterns = builder.addAll (patterns.map Glob.lexerPattern) := by
  induction patterns generalizing builder with
  | nil =>
      rfl
  | cons pattern rest inductionHypothesis =>
      obtain ⟨present, restPresent⟩ := List.forall_mem_cons.mp nonempty
      have adds :
          builder.add (Glob.lexerPattern pattern).text (Glob.lexerPattern pattern).token
              (Glob.lexerPattern pattern).options (Glob.lexerPattern pattern).priority =
            builder.addGlob pattern.1 pattern.2 := by
        have isPresent : pattern.1.isEmpty = false := by
          simpa using present
        simp [addGlob, Glob.toExpression, isPresent, Glob.lexerPattern]
      rw [addGlobs, List.map_cons, addAll_cons_of_add _ adds]
      rcases builder.addGlob pattern.1 pattern.2 with ⟨error | ⟨⟩, next⟩
      · rfl
      · exact inductionHypothesis next restPresent

/-- Glob patterns that are not empty are all added. -/
theorem exists_addGlobs
    [PropertyParser]
    (builder : LexerBuilder τ)
    {patterns : List (String × τ)}
    (nonempty : ∀ pattern ∈ patterns, pattern.1 ≠ "") :
    ∃ next, builder.addGlobs patterns = .ok next := by
  rw [addGlobs_eq builder nonempty]
  apply exists_addAll
  · exact List.forall_mem_map.mpr fun pattern present =>
      ⟨_, Glob.parse_lexerPattern (nonempty pattern present)⟩
  · exact List.forall_mem_map.mpr fun pattern _ => Glob.plain_lexerPattern pattern

end LexerBuilder

/-- What a matcher of glob patterns answers to the last character of a text. -/
structure GlobAnswers
    (patterns : List (String × τ))
    (text : List Char)
    (answer : Status × Matcher τ) : Prop where
  accepted_iff :
    answer.1 = .accepted ↔ ∃ pattern ∈ patterns, Globs pattern.1.toList text
  failed_iff :
    answer.1 = .failed ↔ ¬ ∃ pattern ∈ patterns, ∃ more, Globs pattern.1.toList (text ++ more)
  possible_iff :
    answer.1 = .possible ↔
      (¬ ∃ pattern ∈ patterns, Globs pattern.1.toList text) ∧
        ∃ pattern ∈ patterns, ∃ more, Globs pattern.1.toList (text ++ more)
  /-- Patterns without a star that match have the token that is reported. -/
  starless :
    ∀ pattern ∈ patterns,
      Globs pattern.1.toList text → ¬ HasStar pattern.1.toList →
        answer.2.matched? = some pattern.2
  /-- If there are none, the patterns with a star that match have it. -/
  starred :
    (∀ pattern ∈ patterns, Globs pattern.1.toList text → HasStar pattern.1.toList) →
      ∀ pattern ∈ patterns,
        Globs pattern.1.toList text → answer.2.matched? = some pattern.2
  unmatched :
    (¬ ∃ pattern ∈ patterns, Globs pattern.1.toList text) → answer.2.matched? = none

/-- A matcher that answers for the expressions of glob patterns answers for the patterns. -/
theorem GlobAnswers.of_answered
    [PropertyParser]
    {patterns : List (String × τ)}
    (nonempty : ∀ pattern ∈ patterns, pattern.1 ≠ "")
    {text : List Char}
    {answer : Status × Matcher τ}
    (answered :
      LexerBuilder.Answered (patterns.map Glob.lexerPattern) (text.map Char.toNat) answer) :
    GlobAnswers patterns text answer := by
  have accepted : answer.1 = .accepted ↔ ∃ pattern ∈ patterns, Globs pattern.1.toList text := by
    rw [answered.accepted_iff]
    simp only [List.mem_map, exists_exists_and_eq_and]
    exact exists_congr fun pattern => and_congr_right fun present =>
      Glob.accepts_lexerPattern_iff (nonempty pattern present) text
  have failed :
      answer.1 = .failed ↔
        ¬ ∃ pattern ∈ patterns, ∃ more, Globs pattern.1.toList (text ++ more) := by
    rw [answered.failed_iff, List.forall_mem_map]
    constructor
    · rintro refuses ⟨pattern, present, globs⟩
      obtain ⟨more, accepts⟩ :=
        (Glob.exists_accepts_lexerPattern_iff (nonempty pattern present) text).mpr globs
      exact refuses pattern present more accepts
    · intro none pattern present more accepts
      exact none ⟨pattern, present,
        (Glob.exists_accepts_lexerPattern_iff (nonempty pattern present) text).mp
          ⟨more, accepts⟩⟩
  have matched :
      ∀ pattern, Glob.Preferred patterns text pattern → answer.2.matched? = some pattern.2 := by
    intro pattern preferred
    rw [answered.matched_iff, Glob.mem_leadingTokens_iff nonempty]
    exact ⟨pattern, preferred, rfl⟩
  refine
    { accepted_iff := accepted
      failed_iff := failed
      possible_iff := ?_
      starless := fun pattern present globs noStar =>
        matched pattern ⟨present, globs, fun star => (noStar star).elim⟩
      starred := fun allStarred pattern present globs =>
        matched pattern ⟨present, globs, fun _ => allStarred⟩
      unmatched := fun none => ?_ }
  · have alive :
        (∃ pattern ∈ patterns, ∃ more, Globs pattern.1.toList (text ++ more)) ↔
          answer.1 ≠ .failed := by
      rw [ne_eq, failed, not_not]
    rw [← accepted, alive]
    cases answer.1 <;> simp
  · rw [Option.eq_none_iff_forall_ne_some]
    intro token stored
    rw [answered.matched_iff, Glob.mem_leadingTokens_iff nonempty] at stored
    obtain ⟨pattern, preferred, _⟩ := stored
    exact none ⟨pattern, preferred.member, preferred.globs⟩

/--
Glob patterns that are not empty are all added.  If they have a matcher, it answers to every
text as the patterns match the text and the texts that begin with it, when it is new as well
as when it has been cleared.
-/
theorem Matcher.globAnswers
    [PropertyParser]
    [DecidableEq τ]
    (patterns : List (String × τ))
    (nonempty : ∀ pattern ∈ patterns, pattern.1 ≠ "") :
    ∃ builder,
      LexerBuilder.empty.addGlobs patterns = .ok builder ∧
        ∀ matcher fresh : Matcher τ,
          builder.matcher = .ok matcher →
            (fresh = matcher ∨ ∃ earlier, fresh = (matcher.after earlier).clear) →
              ∀ (text : List Char) (last : Char),
                GlobAnswers patterns (text ++ [last]) ((fresh.after text).feed last) := by
  obtain ⟨builder, added⟩ := LexerBuilder.empty.exists_addGlobs nonempty
  refine ⟨builder, added, ?_⟩
  intro matcher fresh built isFresh text last
  rw [LexerBuilder.addGlobs_eq _ nonempty] at added
  have plain : ∀ pattern ∈ patterns.map Glob.lexerPattern, pattern.Plain :=
    List.forall_mem_map.mpr fun pattern _ => Glob.plain_lexerPattern pattern
  have boundaryFree : ∀ pattern ∈ patterns.map Glob.lexerPattern, pattern.BoundaryFree :=
    List.forall_mem_map.mpr fun pattern present =>
      Glob.boundaryFree_lexerPattern (nonempty pattern present)
  exact .of_answered nonempty
    (LexerBuilder.answered_of_built added plain boundaryFree built isFresh text last)

/-- A mark and a star that match the same text, and a star that is escaped. -/
def markAndStar : List (String × Nat) :=
  [("a*", 1), ("a?", 2), ("\\*", 3)]

/-- A cleared matcher prefers the mark to the star. -/
theorem Matcher.globAnswers_markAndStar :
    ∃ answer : Status × Matcher Nat,
      GlobAnswers markAndStar ['a', 'b'] answer ∧
        answer.1 = .accepted ∧ answer.2.matched? = some 2 := by
  obtain ⟨builder, added, answers⟩ := globAnswers markAndStar (by decide)
  have evaluated :
      ((LexerBuilder.empty.addGlobs markAndStar).toOption.bind fun builder =>
          builder.matcher.toOption).isSome = true := by
    decide +kernel
  rw [added, Except.toOption, Option.bind_some] at evaluated
  obtain ⟨matcher, built⟩ := Option.isSome_iff_exists.mp evaluated
  have answered :=
    answers matcher (matcher.after "*".toList).clear (ok_of_toOption built)
      (Or.inr ⟨_, rfl⟩) ['a'] 'b'
  have mark : Globs ['a', '?'] ['a', 'b'] :=
    .ordinary (by decide) (.mark 'b' .nil)
  have starless : ¬ HasStar ['a', '?'] := by
    rintro (_ | _ | ⟨_, _ | _ | ⟨_, ⟨⟩⟩⟩)
  refine ⟨_, answered, ?_, ?_⟩
  · exact answered.accepted_iff.mpr ⟨("a?", 2), by decide, mark⟩
  · exact answered.starless ("a?", 2) (by decide) mark starless

end LexicalAutomata
