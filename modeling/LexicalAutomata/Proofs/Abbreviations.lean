import LexicalAutomata.Proofs.Expression.Pieces
import LexicalAutomata.Proofs.Expression.Words
import LexicalAutomata.Proofs.Lexer.Following

namespace LexicalAutomata

/-!
# Abbreviations of names

Which texts abbreviate a name is said of their characters alone.  A whole name is found in
front of all longer names, any other text if the names that it abbreviates have one token
only, and names are ambiguous just when one text is a whole name with different tokens.
-/

variable {τ : Type}

/-- A character stands for a character of a name: for itself, or for its case counterpart. -/
def StandsForChar
    (caseInsensitive : Bool)
    (nameChar char : Char) :
    Prop :=
  char = nameChar ∨ (caseInsensitive = true ∧ Unicode.caseCounterpart? nameChar = some char)

instance
    (caseInsensitive : Bool)
    (nameChar char : Char) :
    Decidable (StandsForChar caseInsensitive nameChar char) :=
  inferInstanceAs (Decidable (_ ∨ _))

/-- A text matches a name up to a length: so many characters stand for those of the name. -/
structure MatchesUpTo
    (caseInsensitive : Bool)
    (name : List Char)
    (length : Nat)
    (text : List Char) : Prop where
  length_eq : text.length = length
  le : length ≤ name.length
  stands :
    ∀ (index : Nat) (nameChar char : Char),
      name[index]? = some nameChar → text[index]? = some char →
        StandsForChar caseInsensitive nameChar char

/-- A text matches a whole name. -/
def MatchesWhole
    (caseInsensitive : Bool)
    (name text : List Char) :
    Prop :=
  MatchesUpTo caseInsensitive name name.length text

/-- A text matches the beginning of a name. -/
def MatchesStart
    (caseInsensitive : Bool)
    (name text : List Char) :
    Prop :=
  ∃ length, MatchesUpTo caseInsensitive name length text

section Matches

variable {caseInsensitive : Bool} {name text : List Char}

/-- A text matches a name up to a length when it stands for so many characters in order. -/
theorem matchesUpTo_iff
    {length : Nat} :
    MatchesUpTo caseInsensitive name length text ↔
      length ≤ name.length ∧
        List.Forall₂ (StandsForChar caseInsensitive) (name.take length) text := by
  have taken : (name.take length).length = min length name.length := List.length_take
  rw [List.forall₂_iff_get]
  constructor
  · rintro ⟨sameLength, le, stands⟩
    refine ⟨le, by omega, fun index inName inText => ?_⟩
    apply stands index
    · rw [List.get_eq_getElem, List.getElem_take, List.getElem?_eq_getElem]
    · rw [List.get_eq_getElem, List.getElem?_eq_getElem]
  · rintro ⟨le, sameLength, stands⟩
    refine ⟨by omega, le, fun index nameChar char inName inText => ?_⟩
    obtain ⟨nameBound, rfl⟩ := List.getElem?_eq_some_iff.mp inName
    obtain ⟨textBound, rfl⟩ := List.getElem?_eq_some_iff.mp inText
    have here := stands index (by omega) textBound
    rwa [List.get_eq_getElem, List.getElem_take, List.get_eq_getElem] at here

/-- A text matches a whole name when its characters stand for those of the name in order. -/
theorem matchesWhole_iff :
    MatchesWhole caseInsensitive name text ↔
      List.Forall₂ (StandsForChar caseInsensitive) name text := by
  rw [MatchesWhole, matchesUpTo_iff, List.take_length]
  exact and_iff_right (Nat.le_refl _)

/-- A text matches the beginning of a name when it matches as much of it as the text has. -/
theorem matchesStart_iff_length :
    MatchesStart caseInsensitive name text ↔
      text.length ≤ name.length ∧
        List.Forall₂ (StandsForChar caseInsensitive) (name.take text.length) text := by
  rw [← matchesUpTo_iff]
  constructor
  · rintro ⟨length, matchesUpTo⟩
    rwa [matchesUpTo.length_eq]
  · intro matchesUpTo
    exact ⟨text.length, matchesUpTo⟩

/-- A text matches the beginning of a name when it is the beginning of what matches all of it. -/
theorem matchesStart_iff :
    MatchesStart caseInsensitive name text ↔
      ∃ more, List.Forall₂ (StandsForChar caseInsensitive) name (text ++ more) := by
  rw [matchesStart_iff_length]
  constructor
  · rintro ⟨_, front⟩
    have behind :
        List.Forall₂ (StandsForChar caseInsensitive) (name.drop text.length)
          (name.drop text.length) :=
      List.forall₂_same.mpr fun _ _ => Or.inl rfl
    refine ⟨name.drop text.length, ?_⟩
    have whole :
        List.Forall₂ (StandsForChar caseInsensitive)
          (name.take text.length ++ name.drop text.length) (text ++ name.drop text.length) :=
      List.rel_append front behind
    rwa [List.take_append_drop] at whole
  · rintro ⟨more, whole⟩
    have le : text.length ≤ name.length := by
      rw [whole.length_eq, List.length_append]
      exact Nat.le_add_right _ _
    exact ⟨le, List.forall₂_take_append name text more whole⟩

instance : Decidable (MatchesWhole caseInsensitive name text) :=
  decidable_of_iff _ matchesWhole_iff.symm

instance : Decidable (MatchesStart caseInsensitive name text) :=
  decidable_of_iff _ matchesStart_iff_length.symm

end Matches

namespace Abbreviations

/-- A name as a pattern of a lexer. -/
def lexerPattern
    (caseInsensitive : Bool)
    (name : String × τ) :
    Pattern τ where
  text := escape name.1
  token := name.2
  options := { caseInsensitive }
  priority := 0

variable {caseInsensitive : Bool} {name : String × τ}

/-- The expression of a name is the branch of its characters. -/
theorem parse_lexerPattern
    [PropertyParser]
    (nonempty : name.1 ≠ "") :
    Expression.parse (lexerPattern caseInsensitive name).text
        (lexerPattern caseInsensitive name).options =
      .ok [name.1.toList.map fun char =>
        ⟨.label (Cursor.literalLabel caseInsensitive char), .once⟩] :=
  Expression.parse_escape nonempty _

/-- A name asks for neither an ender nor immediate acceptance. -/
theorem plain_lexerPattern
    (caseInsensitive : Bool)
    (name : String × τ) :
    (lexerPattern caseInsensitive name).Plain :=
  ⟨rfl, rfl⟩

/-- A name waits for no boundary. -/
theorem boundaryFree_lexerPattern
    [PropertyParser]
    (nonempty : name.1 ≠ "") :
    (lexerPattern caseInsensitive name).BoundaryFree := by
  apply Pattern.boundaryFree_of_parse (parse_lexerPattern nonempty)
  intro piece member
  obtain ⟨char, _, rfl⟩ := List.mem_map.mp member
  rfl

/-- All names have the same priority. -/
theorem totalPriority_lexerPattern
    [PropertyParser]
    (nonempty : name.1 ≠ "") :
    (lexerPattern caseInsensitive name).totalPriority = 1 := by
  rw [Pattern.totalPriority_of_parse (parse_lexerPattern nonempty), if_pos]
  · rfl
  · simp [Piece.isPlain]

/-- The label of a character of a name has the characters that stand for it. -/
theorem mem_literalLabel_iff
    {char : Char}
    {codePoint : Nat} :
    codePoint ∈ (Cursor.literalLabel caseInsensitive char).points ↔
      ∃ other : Char,
        codePoint = other.toNat ∧ StandsForChar caseInsensitive char other := by
  rw [Cursor.mem_literalLabel_iff]
  constructor
  · rintro (rfl | ⟨folds, counterpart, found, rfl⟩)
    · exact ⟨char, rfl, Or.inl rfl⟩
    · exact ⟨counterpart, rfl, Or.inr ⟨folds, found⟩⟩
  · rintro ⟨other, rfl, rfl | ⟨folds, found⟩⟩
    · exact Or.inl rfl
    · exact Or.inr ⟨folds, other, found, rfl⟩

/-- A name accepts a word when the code points stand for its characters in order. -/
theorem accepts_lexerPattern_iff
    [PropertyParser]
    (nonempty : name.1 ≠ "")
    (word : List Nat) :
    (lexerPattern caseInsensitive name).Accepts word ↔
      ∃ text : List Char,
        word = text.map Char.toNat ∧
          List.Forall₂ (StandsForChar caseInsensitive) name.1.toList text := by
  rw [Pattern.accepts_iff_of_parse (parse_lexerPattern nonempty)]
  generalize name.1.toList = chars
  induction chars generalizing word with
  | nil =>
      simp [PiecesMatch]
  | cons char rest inductionHypothesis =>
      rw [List.map_cons, PiecesMatch]
      simp only [Piece.matches_once_iff, mem_literalLabel_iff, inductionHypothesis]
      constructor
      · rintro ⟨_, ⟨_, ⟨other, rfl, stands⟩, rfl⟩, text, rfl, others⟩
        exact ⟨other :: text, rfl, .cons stands others⟩
      · rintro ⟨_, rfl, whole⟩
        obtain ⟨other, text, stands, others, rfl⟩ := List.forall₂_cons_left_iff.mp whole
        exact ⟨_, ⟨_, ⟨other, rfl, stands⟩, rfl⟩, text, rfl, others⟩

/-- Texts with the same code points are equal. -/
theorem map_toNat_inj
    {first second : List Char} :
    first.map Char.toNat = second.map Char.toNat ↔ first = second :=
  List.map_inj_right fun _ _ => Char.toNat_inj.mp

/-- A name accepts the texts that match all of it. -/
theorem accepts_text_iff
    [PropertyParser]
    (nonempty : name.1 ≠ "")
    (text : List Char) :
    (lexerPattern caseInsensitive name).Accepts (text.map Char.toNat) ↔
      MatchesWhole caseInsensitive name.1.toList text := by
  rw [accepts_lexerPattern_iff nonempty, matchesWhole_iff]
  constructor
  · rintro ⟨other, same, whole⟩
    rwa [map_toNat_inj.mp same]
  · intro whole
    exact ⟨text, rfl, whole⟩

/-- A name accepts some longer word just when the text matches the beginning of the name. -/
theorem exists_accepts_iff
    [PropertyParser]
    (nonempty : name.1 ≠ "")
    (text : List Char) :
    (∃ more, (lexerPattern caseInsensitive name).Accepts (text.map Char.toNat ++ more)) ↔
      MatchesStart caseInsensitive name.1.toList text := by
  rw [matchesStart_iff]
  constructor
  · rintro ⟨more, accepts⟩
    obtain ⟨whole, split, stands⟩ := (accepts_lexerPattern_iff nonempty _).mp accepts
    obtain ⟨front, behind, rfl, sameFront, _⟩ := List.append_eq_map_iff.mp split
    rw [map_toNat_inj] at sameFront
    rw [sameFront] at stands
    exact ⟨behind, stands⟩
  · rintro ⟨more, whole⟩
    refine ⟨more.map Char.toNat, (accepts_lexerPattern_iff nonempty _).mpr ⟨text ++ more, ?_, whole⟩⟩
    rw [List.map_append]

section Names

variable {names : List (String × τ)}

/-- As all names have the same priority, all that accept a word are leading. -/
theorem mem_leadingTokens_iff
    [PropertyParser]
    (nonempty : ∀ name ∈ names, name.1 ≠ "")
    {word : List Nat}
    {token : τ} :
    token ∈ Pattern.leadingTokens (names.map (lexerPattern caseInsensitive)) word ↔
      ∃ name ∈ names, (lexerPattern caseInsensitive name).Accepts word ∧ name.2 = token := by
  constructor
  · rintro ⟨_, ⟨member, accepts, _⟩, rfl⟩
    obtain ⟨name, present, rfl⟩ := List.mem_map.mp member
    exact ⟨name, present, accepts, rfl⟩
  · rintro ⟨name, present, accepts, rfl⟩
    refine ⟨_, ⟨List.mem_map_of_mem present, accepts, ?_⟩, rfl⟩
    intro _ member _
    obtain ⟨other, otherPresent, rfl⟩ := List.mem_map.mp member
    rw [totalPriority_lexerPattern (nonempty _ present),
      totalPriority_lexerPattern (nonempty _ otherPresent)]
    exact Int32.le_refl _

/-- Adding names is adding their expressions. -/
theorem addNames_eq
    [PropertyParser]
    (caseInsensitive : Bool)
    (builder : LexerBuilder τ)
    (names : List (String × τ)) :
    addNames caseInsensitive builder names =
      builder.addAll (names.map (lexerPattern caseInsensitive)) := by
  induction names generalizing builder with
  | nil =>
      rfl
  | cons name rest inductionHypothesis =>
      have adds :
          builder.add (lexerPattern caseInsensitive name).text
              (lexerPattern caseInsensitive name).token
              (lexerPattern caseInsensitive name).options
              (lexerPattern caseInsensitive name).priority =
            builder.add (escape name.1) name.2 { caseInsensitive } := by
        simp only [lexerPattern]
      rw [addNames, List.map_cons, LexerBuilder.addAll_cons_of_add _ adds]
      rcases builder.add (escape name.1) name.2 { caseInsensitive } with ⟨error | ⟨⟩, next⟩
      · rfl
      · exact inductionHypothesis next

/-- The patterns of names are what following a text asks for. -/
theorem exists_added
    [PropertyParser]
    (caseInsensitive : Bool)
    (nonempty : ∀ name ∈ names, name.1 ≠ "") :
    ∃ builder,
      LexerBuilder.empty.addAll (names.map (lexerPattern caseInsensitive)) = .ok builder ∧
        (∀ pattern ∈ names.map (lexerPattern caseInsensitive), pattern.Plain) ∧
          ∀ pattern ∈ names.map (lexerPattern caseInsensitive), pattern.BoundaryFree := by
  have parsed :
      ∀ pattern ∈ names.map (lexerPattern caseInsensitive),
        ∃ expression, Expression.parse pattern.text pattern.options = .ok expression :=
    List.forall_mem_map.mpr fun name present => ⟨_, parse_lexerPattern (nonempty name present)⟩
  have plain : ∀ pattern ∈ names.map (lexerPattern caseInsensitive), pattern.Plain :=
    List.forall_mem_map.mpr fun name _ => plain_lexerPattern caseInsensitive name
  have boundaryFree :
      ∀ pattern ∈ names.map (lexerPattern caseInsensitive), pattern.BoundaryFree :=
    List.forall_mem_map.mpr fun name present => boundaryFree_lexerPattern (nonempty name present)
  obtain ⟨builder, added⟩ := LexerBuilder.empty.exists_addAll parsed plain
  exact ⟨builder, added, plain, boundaryFree⟩

/-- Leading tokens differ for some word just when a text matches whole names with them. -/
theorem exists_nontrivial_iff
    [PropertyParser]
    (nonempty : ∀ name ∈ names, name.1 ≠ "") :
    (∃ word,
        (Pattern.leadingTokens (names.map (lexerPattern caseInsensitive)) word).Nontrivial) ↔
      ∃ text : List Char,
        ∃ first ∈ names, ∃ second ∈ names,
          MatchesWhole caseInsensitive first.1.toList text ∧
            MatchesWhole caseInsensitive second.1.toList text ∧ first.2 ≠ second.2 := by
  constructor
  · rintro ⟨word, _, firstLeads, _, secondLeads, differ⟩
    obtain ⟨first, firstPresent, firstAccepts, rfl⟩ :=
      (mem_leadingTokens_iff nonempty).mp firstLeads
    obtain ⟨second, secondPresent, secondAccepts, rfl⟩ :=
      (mem_leadingTokens_iff nonempty).mp secondLeads
    obtain ⟨text, rfl, _⟩ :=
      (accepts_lexerPattern_iff (nonempty _ firstPresent) word).mp firstAccepts
    exact ⟨text, first, firstPresent, second, secondPresent,
      (accepts_text_iff (nonempty _ firstPresent) text).mp firstAccepts,
      (accepts_text_iff (nonempty _ secondPresent) text).mp secondAccepts, differ⟩
  · rintro ⟨text, first, firstPresent, second, secondPresent, firstWhole, secondWhole, differ⟩
    have leads :
        ∀ name ∈ names,
          MatchesWhole caseInsensitive name.1.toList text →
            name.2 ∈ Pattern.leadingTokens (names.map (lexerPattern caseInsensitive))
              (text.map Char.toNat) :=
      fun name member whole => (mem_leadingTokens_iff nonempty).mpr
        ⟨name, member, (accepts_text_iff (nonempty _ member) text).mpr whole, rfl⟩
    exact ⟨_, _, leads first firstPresent firstWhole, _, leads second secondPresent secondWhole,
      differ⟩

/-- The tokens of the names whose beginning a text matches. -/
def startedTokens
    (caseInsensitive : Bool)
    (names : List (String × τ))
    (text : List Char) :
    Set τ :=
  { token |
    ∃ name ∈ names, MatchesStart caseInsensitive name.1.toList text ∧ name.2 = token }

/-- A token is the only one of the started names when one has it and they all do. -/
theorem startedTokens_eq_singleton_iff
    {text : List Char}
    {token : τ} :
    startedTokens caseInsensitive names text = {token} ↔
      (∃ name ∈ names, MatchesStart caseInsensitive name.1.toList text ∧ name.2 = token) ∧
        ∀ name ∈ names, MatchesStart caseInsensitive name.1.toList text → name.2 = token := by
  rw [Set.eq_singleton_iff_unique_mem]
  refine and_congr_right fun _ => ⟨?_, ?_⟩
  · intro unique name member starts
    exact unique name.2 ⟨name, member, starts, rfl⟩
  · rintro same _ ⟨name, member, starts, rfl⟩
    exact same name member starts

variable [DecidableEq τ]

/-- What is found for a text that leads to a state. -/
theorem find?_of_walk
    {abbreviations : Abbreviations τ}
    {text : String}
    {state : Nat}
    (arrives :
      walk abbreviations.automaton abbreviations.automaton.start text.toList = some state)
    {token : τ} :
    abbreviations.find? text = some token ↔
      abbreviations.automaton.token? state = some token ∨
        (abbreviations.automaton.token? state = none ∧
          tokensBelow abbreviations.automaton state = {token}) := by
  simp only [find?, arrives]
  split
  · rename_i stored
    simp [stored]
  · rename_i silent
    rw [uniqueBelow?_eq_some_iff]
    simp [silent]

/-- What is found for a text that leads nowhere. -/
theorem find?_of_stuck
    {abbreviations : Abbreviations τ}
    {text : String}
    (stuck : walk abbreviations.automaton abbreviations.automaton.start text.toList = none) :
    abbreviations.find? text = none := by
  simp only [find?, stuck]

/-- The expressions of the names are a builder whose automaton the abbreviations have. -/
theorem ofNames_eq
    [PropertyParser]
    {builder : LexerBuilder τ}
    (added : LexerBuilder.empty.addAll (names.map (lexerPattern caseInsensitive)) = .ok builder) :
    ofNames names caseInsensitive = builder.automaton.map Abbreviations.mk := by
  simp only [ofNames, addNames_eq, added]

/-- Names have abbreviations, or they are ambiguous as some text matches two of them. -/
theorem ofNames_cases
    [PropertyParser]
    (caseInsensitive : Bool)
    (present : names ≠ [])
    (nonempty : ∀ name ∈ names, name.1 ≠ "") :
    (∃ abbreviations,
        ofNames names caseInsensitive = .ok abbreviations ∧
          ¬ ∃ word,
            (Pattern.leadingTokens (names.map (lexerPattern caseInsensitive)) word).Nontrivial) ∨
      ∃ ambiguity,
        ofNames names caseInsensitive = .error (.ambiguous ambiguity) ∧
          ∃ word,
            (Pattern.leadingTokens (names.map (lexerPattern caseInsensitive)) word).Nontrivial := by
  obtain ⟨builder, added, plain, boundaryFree⟩ := exists_added caseInsensitive nonempty
  have somePattern : names.map (lexerPattern caseInsensitive) ≠ [] := by
    simpa using present
  rw [ofNames_eq added]
  rcases LexerBuilder.automaton_cases somePattern added plain boundaryFree with
    ⟨automaton, built, alike⟩ | ⟨ambiguity, word, failed, differ⟩
  · refine Or.inl ⟨⟨automaton⟩, by rw [built]; rfl, ?_⟩
    rintro ⟨word, differ⟩
    exact Set.not_nontrivial_iff.mpr (alike word) differ
  · exact Or.inr ⟨ambiguity, by rw [failed]; rfl, word, differ⟩

section Found

variable {abbreviations : Abbreviations τ}

/-- Abbreviations have the automaton that the patterns of their names have. -/
theorem exists_builder
    [PropertyParser]
    (nonempty : ∀ name ∈ names, name.1 ≠ "")
    (built : ofNames names caseInsensitive = .ok abbreviations) :
    ∃ builder,
      LexerBuilder.empty.addAll (names.map (lexerPattern caseInsensitive)) = .ok builder ∧
        (∀ pattern ∈ names.map (lexerPattern caseInsensitive), pattern.Plain) ∧
          (∀ pattern ∈ names.map (lexerPattern caseInsensitive), pattern.BoundaryFree) ∧
            builder.automaton = .ok abbreviations.automaton := by
  obtain ⟨builder, added, plain, boundaryFree⟩ := exists_added caseInsensitive nonempty
  rw [ofNames_eq added] at built
  obtain ⟨automaton, automatonBuilt, rfl⟩ := exists_of_map_eq_ok built
  exact ⟨builder, added, plain, boundaryFree, automatonBuilt⟩

/-- The walk over a text succeeds just when the text matches the beginning of some name. -/
theorem exists_walk_iff
    [PropertyParser]
    (present : names ≠ [])
    (nonempty : ∀ name ∈ names, name.1 ≠ "")
    (built : ofNames names caseInsensitive = .ok abbreviations)
    (text : List Char) :
    (walk abbreviations.automaton abbreviations.automaton.start text).isSome = true ↔
      ∃ name ∈ names, MatchesStart caseInsensitive name.1.toList text := by
  obtain ⟨builder, added, plain, boundaryFree, automatonBuilt⟩ := exists_builder nonempty built
  rcases eq_or_ne text [] with rfl | notEmpty
  · -- The start state is there even if pruning leaves nothing else.
    obtain ⟨name, rest, rfl⟩ := List.exists_cons_of_ne_nil present
    refine iff_of_true rfl ⟨name, List.mem_cons_self, 0, rfl, Nat.zero_le _, ?_⟩
    intro index nameChar char _ inText
    simp at inText
  · rw [LexerBuilder.walk_isSome_iff added plain boundaryFree automatonBuilt notEmpty]
    constructor
    · rintro ⟨_, member, accepts⟩
      obtain ⟨name, namePresent, rfl⟩ := List.mem_map.mp member
      exact ⟨name, namePresent, (exists_accepts_iff (nonempty _ namePresent) text).mp accepts⟩
    · rintro ⟨name, namePresent, starts⟩
      exact ⟨_, List.mem_map_of_mem namePresent,
        (exists_accepts_iff (nonempty _ namePresent) text).mpr starts⟩

/-- The walk arrives at a token just when the text matches a whole name with the token. -/
theorem token?_of_walk_iff
    [PropertyParser]
    (nonempty : ∀ name ∈ names, name.1 ≠ "")
    (built : ofNames names caseInsensitive = .ok abbreviations)
    {text : List Char}
    {state : Nat}
    (arrives : walk abbreviations.automaton abbreviations.automaton.start text = some state)
    (token : τ) :
    abbreviations.automaton.token? state = some token ↔
      ∃ name ∈ names, MatchesWhole caseInsensitive name.1.toList text ∧ name.2 = token := by
  obtain ⟨builder, added, plain, boundaryFree, automatonBuilt⟩ := exists_builder nonempty built
  have leads :
      (walk abbreviations.automaton abbreviations.automaton.start text).bind
          abbreviations.automaton.token? = some token ↔
        token ∈ Pattern.leadingTokens (names.map (lexerPattern caseInsensitive))
          (text.map Char.toNat) :=
    LexerBuilder.bind_walk_token?_eq_some_iff added plain boundaryFree automatonBuilt
  rw [arrives, Option.bind_some, mem_leadingTokens_iff nonempty] at leads
  rw [leads]
  refine exists_congr fun name => and_congr_right fun member => and_congr_left fun _ => ?_
  exact accepts_text_iff (nonempty _ member) text

/-- The tokens below the state are those of the names whose beginning the text matches. -/
theorem mem_tokensBelow_iff
    [PropertyParser]
    (nonempty : ∀ name ∈ names, name.1 ≠ "")
    (built : ofNames names caseInsensitive = .ok abbreviations)
    {text : List Char}
    {state : Nat}
    (arrives : walk abbreviations.automaton abbreviations.automaton.start text = some state)
    (token : τ) :
    token ∈ tokensBelow abbreviations.automaton state ↔
      token ∈ startedTokens caseInsensitive names text := by
  obtain ⟨builder, added, plain, boundaryFree, automatonBuilt⟩ := exists_builder nonempty built
  rw [LexerBuilder.mem_tokensBelow_walk_iff added plain boundaryFree automatonBuilt arrives]
  simp only [mem_leadingTokens_iff nonempty]
  constructor
  · rintro ⟨more, name, member, accepts, same⟩
    exact ⟨name, member, (exists_accepts_iff (nonempty _ member) text).mp ⟨more, accepts⟩, same⟩
  · rintro ⟨name, member, starts, same⟩
    obtain ⟨more, accepts⟩ := (exists_accepts_iff (nonempty _ member) text).mpr starts
    exact ⟨more, name, member, accepts, same⟩

/-- What is found for a text is said of the characters of the names alone. -/
theorem find?_eq_some_iff
    [PropertyParser]
    (present : names ≠ [])
    (nonempty : ∀ name ∈ names, name.1 ≠ "")
    (built : ofNames names caseInsensitive = .ok abbreviations)
    (text : String)
    (token : τ) :
    abbreviations.find? text = some token ↔
      (∃ name ∈ names,
          MatchesWhole caseInsensitive name.1.toList text.toList ∧ name.2 = token) ∨
        (¬ ∃ name ∈ names, MatchesWhole caseInsensitive name.1.toList text.toList) ∧
          startedTokens caseInsensitive names text.toList = {token} := by
  cases arrives : walk abbreviations.automaton abbreviations.automaton.start text.toList with
  | none =>
      have noneStarts :
          ¬ ∃ name ∈ names, MatchesStart caseInsensitive name.1.toList text.toList := by
        rw [← exists_walk_iff present nonempty built, arrives]
        exact Bool.false_ne_true
      rw [find?_of_stuck arrives]
      refine iff_of_false (Option.some_ne_none token).symm ?_
      rintro (⟨name, member, whole, _⟩ | ⟨_, same⟩)
      · exact noneStarts ⟨name, member, _, whole⟩
      · obtain ⟨name, member, starts, _⟩ : token ∈ startedTokens caseInsensitive names text.toList :=
          same ▸ Set.mem_singleton token
        exact noneStarts ⟨name, member, starts⟩
  | some state =>
      have wholeName := token?_of_walk_iff nonempty built arrives
      have noWholeName :
          abbreviations.automaton.token? state = none ↔
            ¬ ∃ name ∈ names, MatchesWhole caseInsensitive name.1.toList text.toList := by
        rw [Option.eq_none_iff_forall_ne_some]
        simp only [ne_eq, wholeName]
        constructor
        · rintro noToken ⟨name, member, whole⟩
          exact noToken name.2 ⟨name, member, whole, rfl⟩
        · rintro noName _ ⟨name, member, whole, _⟩
          exact noName ⟨name, member, whole⟩
      have below :
          tokensBelow abbreviations.automaton state =
            startedTokens caseInsensitive names text.toList :=
        Set.ext (mem_tokensBelow_iff nonempty built arrives)
      rw [find?_of_walk arrives, wholeName, noWholeName, below]

end Found

/--
For names that are not empty, the abbreviations find a token for a text just when the text
matches a whole name with the token, or else when the names whose beginning it matches have
this token only.  They are refused just when some text matches whole names with different
tokens, and for no other reason.
-/
theorem find?_iff_and_ambiguous_iff
    [PropertyParser]
    (names : List (String × τ))
    (caseInsensitive : Bool)
    (present : names ≠ [])
    (nonempty : ∀ name ∈ names, name.1 ≠ "") :
    (∀ abbreviations,
      ofNames names caseInsensitive = .ok abbreviations →
        ∀ (text : String) (token : τ),
          abbreviations.find? text = some token ↔
            (∃ name ∈ names,
                MatchesWhole caseInsensitive name.1.toList text.toList ∧ name.2 = token) ∨
              (¬ ∃ name ∈ names, MatchesWhole caseInsensitive name.1.toList text.toList) ∧
                startedTokens caseInsensitive names text.toList = {token}) ∧
      ((∃ ambiguity, ofNames names caseInsensitive = .error (.ambiguous ambiguity)) ↔
        ∃ text : List Char,
          ∃ first ∈ names, ∃ second ∈ names,
            MatchesWhole caseInsensitive first.1.toList text ∧
              MatchesWhole caseInsensitive second.1.toList text ∧ first.2 ≠ second.2) ∧
        ((∃ abbreviations, ofNames names caseInsensitive = .ok abbreviations) ∨
          ∃ ambiguity, ofNames names caseInsensitive = .error (.ambiguous ambiguity)) := by
  refine ⟨fun _ built => find?_eq_some_iff present nonempty built, ?_, ?_⟩
  · rw [← exists_nontrivial_iff nonempty]
    rcases ofNames_cases caseInsensitive present nonempty with
      ⟨abbreviations, built, alike⟩ | ⟨ambiguity, failed, differ⟩
    · refine iff_of_false ?_ alike
      rintro ⟨ambiguity, failed⟩
      rw [built] at failed
      contradiction
    · exact iff_of_true ⟨ambiguity, failed⟩ differ
  · rcases ofNames_cases caseInsensitive present nonempty with
      ⟨abbreviations, built, _⟩ | ⟨ambiguity, failed, _⟩
    · exact Or.inl ⟨abbreviations, built⟩
    · exact Or.inr ⟨ambiguity, failed⟩

/-- These names begin alike, and one of them is the beginning of the others. -/
def commandNames : List (String × Nat) :=
  [("st", 1), ("stop", 2), ("sta", 3)]

/-- A whole name is found in either case, a beginning as long as one name has it. -/
theorem find?_commandNames :
    ∃ abbreviations,
      ofNames commandNames true = .ok abbreviations ∧
        abbreviations.find? "ST" = some 1 ∧
          abbreviations.find? "sTo" = some 2 ∧ ∀ token, abbreviations.find? "s" ≠ some token := by
  have evaluated : (ofNames commandNames true).toOption.isSome = true := by
    decide +kernel
  obtain ⟨abbreviations, built⟩ := Option.isSome_iff_exists.mp evaluated
  have found_iff :=
    (find?_iff_and_ambiguous_iff commandNames true (by decide) (by decide)).1 abbreviations
      (ok_of_toOption built)
  refine ⟨abbreviations, ok_of_toOption built, ?_, ?_, ?_⟩
  · exact (found_iff "ST" 1).mpr (Or.inl (by decide +kernel))
  · refine (found_iff "sTo" 2).mpr (Or.inr ⟨by decide +kernel, ?_⟩)
    exact startedTokens_eq_singleton_iff.mpr (by decide +kernel)
  · intro token
    rw [ne_eq, found_iff, startedTokens_eq_singleton_iff]
    have noWholeName :
        ¬ ∃ name ∈ commandNames, MatchesWhole true name.1.toList "s".toList := by
      decide +kernel
    rintro (⟨name, member, whole, _⟩ | ⟨_, _, same⟩)
    · exact noWholeName ⟨name, member, whole⟩
    · have first := same ("st", 1) (by decide) (by decide +kernel)
      have second := same ("stop", 2) (by decide) (by decide +kernel)
      omega

end Names

end Abbreviations

end LexicalAutomata
