import LexicalAutomata.Proofs.Automaton.Following
import LexicalAutomata.Proofs.Lexer.Ambiguity
import LexicalAutomata.Proofs.Matcher
import Mathlib.Data.Set.Finite.Lemmas

namespace LexicalAutomata

/-!
# Following a text through patterns

Patterns without boundaries, enders and immediate acceptance have an automaton exactly when
no word is accepted by leading patterns with different tokens.  It follows a text as long
as some pattern accepts a longer word, and it arrives at the token of the leading patterns.
A matcher that is fed with the text reports nothing else.
-/

variable {τ : Type}

section Unites

variable {graph : Graph τ} {start : Nat} {entries : List (Fragment × Pattern τ)}

/-- There is a terminal behind a word when some pattern accepts the word. -/
theorem Graph.Unites.hasTerminal_behind_iff
    [PropertyParser]
    (unites : graph.Unites start entries)
    (word : List Nat) :
    graph.HasTerminal (graph.behind {start} word) ↔
      ∃ pattern ∈ entries.map Prod.snd, pattern.Accepts word := by
  constructor
  · rintro ⟨terminal, member, isSome⟩
    obtain ⟨entry, entryMember, rfl⟩ := unites.exists_entry isSome
    exact ⟨entry.2, List.mem_map_of_mem entryMember,
      (unites.last_mem_behind_iff entryMember word).mp member⟩
  · rintro ⟨pattern, member, accepts⟩
    obtain ⟨entry, entryMember, rfl⟩ := List.mem_map.mp member
    refine ⟨entry.1.last, (unites.last_mem_behind_iff entryMember word).mpr accepts, ?_⟩
    rw [unites.token_last entryMember]
    rfl

end Unites

/-- Where a word is accepted at all, some pattern leads. -/
theorem Pattern.exists_leading
    [PropertyParser]
    {patterns : List (Pattern τ)}
    {word : List Nat}
    (accepted : ∃ pattern ∈ patterns, pattern.Accepts word) :
    ∃ pattern, Pattern.Leading patterns word pattern := by
  have finite : {pattern | pattern ∈ patterns ∧ pattern.Accepts word}.Finite :=
    (List.finite_toSet patterns).subset fun _ accepting => accepting.1
  obtain ⟨top, ⟨member, accepts⟩, highest⟩ :=
    Set.exists_max_image _ (fun pattern => pattern.totalPriority.toInt) finite accepted
  exact ⟨top, member, accepts, fun other otherMember otherAccepts =>
    Int32.le_iff_toInt_le.mpr (highest other ⟨otherMember, otherAccepts⟩)⟩

/-- The leading tokens of a word are there just when some pattern accepts it. -/
theorem Pattern.leadingTokens_nonempty_iff
    [PropertyParser]
    {patterns : List (Pattern τ)}
    {word : List Nat} :
    (Pattern.leadingTokens patterns word).Nonempty ↔
      ∃ pattern ∈ patterns, pattern.Accepts word := by
  constructor
  · rintro ⟨_, pattern, leading, _⟩
    exact ⟨pattern, leading.member, leading.accepts⟩
  · intro accepted
    obtain ⟨pattern, leading⟩ := exists_leading accepted
    exact ⟨pattern.token, pattern, leading, rfl⟩

namespace LexerBuilder

/-- A pattern that can be read and asks for no ender is added. -/
theorem exists_add
    [PropertyParser]
    (builder : LexerBuilder τ)
    {pattern : Pattern τ}
    {expression : Expression}
    (parsed : Expression.parse pattern.text pattern.options = .ok expression)
    (noEnder : pattern.options.fixedEnder = false) :
    ∃ next,
      builder.add pattern.text pattern.token pattern.options pattern.priority =
        (.ok (), next) := by
  obtain ⟨fragment, later, built, _⟩ :=
    gains_prioritized parsed (by simp [noEnder]) builder.graph
  exact ⟨_, by simp only [add, StateT.run, built]; rfl⟩

/-- What adding the first of some patterns is known to do, adding them all begins with. -/
theorem addAll_cons_of_add
    [PropertyParser]
    {builder : LexerBuilder τ}
    {pattern : Pattern τ}
    (rest : List (Pattern τ))
    {added : Except TextError Unit × LexerBuilder τ} :
    builder.add pattern.text pattern.token pattern.options pattern.priority = added →
      builder.addAll (pattern :: rest) =
        match added with
        | (.error error, _) => .error error
        | (.ok (), next) => next.addAll rest := by
  intro adds
  rw [addAll]
  rcases added with ⟨error | ⟨⟩, next⟩ <;> simp only [adds]

/-- Patterns that can be read and ask for no ender are all added. -/
theorem exists_addAll
    [PropertyParser]
    (builder : LexerBuilder τ)
    {patterns : List (Pattern τ)}
    (parsed :
      ∀ pattern ∈ patterns,
        ∃ expression, Expression.parse pattern.text pattern.options = .ok expression)
    (plain : ∀ pattern ∈ patterns, pattern.Plain) :
    ∃ next, builder.addAll patterns = .ok next := by
  induction patterns generalizing builder with
  | nil =>
      exact ⟨builder, rfl⟩
  | cons pattern rest inductionHypothesis =>
      obtain ⟨⟨expression, headParsed⟩, restParsed⟩ := List.forall_mem_cons.mp parsed
      obtain ⟨headPlain, restPlain⟩ := List.forall_mem_cons.mp plain
      obtain ⟨middle, added⟩ := exists_add builder headParsed headPlain.1
      obtain ⟨next, addedRest⟩ := inductionHypothesis middle restParsed restPlain
      exact ⟨next, addAll_cons_eq_ok_iff.mpr ⟨middle, added, addedRest⟩⟩

section Added

variable {builder : LexerBuilder τ} {patterns : List (Pattern τ)}

/-- The graph that joins patterns unites them, and runs neither stop in it nor wait. -/
theorem exists_unites
    [PropertyParser]
    (added : empty.addAll patterns = .ok builder)
    (plain : ∀ pattern ∈ patterns, pattern.Plain)
    (boundaryFree : ∀ pattern ∈ patterns, pattern.BoundaryFree) :
    ∃ entries,
      builder.joined.2.Unites builder.joined.1.first entries ∧
        entries.map Prod.snd = patterns ∧
          builder.fragments = entries.map Prod.fst ∧
            builder.joined.2.BoundaryFree ∧
              ∀ id, (builder.joined.2.node id).immediate = false := by
  have free := boundaryFree_joined added boundaryFree
  obtain ⟨entries, collects, rfl⟩ := collects_empty.addAll plain added
  rw [List.nil_append] at collects
  have unites := collects.unites_joined
  exact ⟨entries, unites, rfl, collects.fragments, free,
    (Graph.Joins.mk unites collects.allPlain).plain.patient⟩

variable [DecidableEq τ]

/--
Some patterns have an automaton, or they are ambiguous; the latter just when some word is
accepted by leading patterns with different tokens.
-/
theorem automaton_cases
    [PropertyParser]
    (nonempty : patterns ≠ [])
    (added : empty.addAll patterns = .ok builder)
    (plain : ∀ pattern ∈ patterns, pattern.Plain)
    (boundaryFree : ∀ pattern ∈ patterns, pattern.BoundaryFree) :
    (∃ automaton,
        builder.automaton = .ok automaton ∧
          ∀ word, (Pattern.leadingTokens patterns word).Subsingleton) ∨
      ∃ ambiguity word,
        builder.automaton = .error (.ambiguous ambiguity) ∧
          (Pattern.leadingTokens patterns word).Nontrivial := by
  obtain ⟨entries, unites, rfl, fragments, free, patient⟩ :=
    exists_unites added plain boundaryFree
  have notEmpty : ¬ builder.isEmpty = true := by
    simpa [isEmpty, fragments] using nonempty
  rw [automaton_eq, if_neg notEmpty]
  cases constructed : Automaton.ofGraph builder.joined.2 builder.joined.1.first with
  | ok automaton =>
      refine Or.inl ⟨automaton, rfl, ?_⟩
      intro word first firstLeads second secondLeads
      obtain ⟨top, isTop, stored⟩ := (unites.mem_leadingTokens_iff word first).mp firstLeads
      obtain ⟨other, otherTop, otherStored⟩ :=
        (unites.mem_leadingTokens_iff word second).mp secondLeads
      have same :=
        Graph.agrees_behind_of_built patient constructed word top other isTop otherTop
      rw [stored, otherStored] at same
      exact Option.some.inj same
  | error ambiguity =>
      obtain ⟨word, _, nodup, several, mem_iff⟩ :=
        Graph.exists_word_of_ambiguous free constructed
      refine Or.inr ⟨ambiguity, word, rfl, ?_⟩
      have leads :
          ∀ token ∈ ambiguity.tokens,
            token ∈ Pattern.leadingTokens (entries.map Prod.snd) word :=
        fun token member => (unites.mem_leadingTokens_iff word token).mpr ((mem_iff token).mp member)
      have first : 0 < ambiguity.tokens.length := by omega
      have second : 1 < ambiguity.tokens.length := by omega
      refine ⟨_, leads _ (List.getElem_mem first), _, leads _ (List.getElem_mem second), ?_⟩
      intro same
      have := (List.Nodup.getElem_inj_iff nodup).mp same
      contradiction

variable {automaton : Automaton τ} {text : List Char}

/-- The walk over a text that is not empty succeeds while some pattern accepts a longer word. -/
theorem walk_isSome_iff
    [PropertyParser]
    (added : empty.addAll patterns = .ok builder)
    (plain : ∀ pattern ∈ patterns, pattern.Plain)
    (boundaryFree : ∀ pattern ∈ patterns, pattern.BoundaryFree)
    (built : builder.automaton = .ok automaton)
    (nonempty : text ≠ []) :
    (Abbreviations.walk automaton automaton.start text).isSome = true ↔
      ∃ pattern ∈ patterns, ∃ more, pattern.Accepts (text.map Char.toNat ++ more) := by
  obtain ⟨entries, unites, rfl, _, free, patient⟩ := exists_unites added plain boundaryFree
  rw [Graph.walk_isSome_iff (ofGraph_joined built) free patient nonempty]
  simp only [unites.hasTerminal_behind_iff]
  constructor
  · rintro ⟨more, pattern, member, accepts⟩
    exact ⟨pattern, member, more, accepts⟩
  · rintro ⟨pattern, member, more, accepts⟩
    exact ⟨more, pattern, member, accepts⟩

/-- The walk arrives at the token of the leading patterns. -/
theorem bind_walk_token?_eq_some_iff
    [PropertyParser]
    (added : empty.addAll patterns = .ok builder)
    (plain : ∀ pattern ∈ patterns, pattern.Plain)
    (boundaryFree : ∀ pattern ∈ patterns, pattern.BoundaryFree)
    (built : builder.automaton = .ok automaton)
    {token : τ} :
    (Abbreviations.walk automaton automaton.start text).bind automaton.token? = some token ↔
      token ∈ Pattern.leadingTokens patterns (text.map Char.toNat) := by
  obtain ⟨entries, unites, rfl, _, free, patient⟩ := exists_unites added plain boundaryFree
  rw [Graph.bind_walk_token?_eq_some_iff (ofGraph_joined built) free patient,
    unites.mem_leadingTokens_iff]

/-- The tokens below the state where the walk arrives are leading for longer words. -/
theorem mem_tokensBelow_walk_iff
    [PropertyParser]
    (added : empty.addAll patterns = .ok builder)
    (plain : ∀ pattern ∈ patterns, pattern.Plain)
    (boundaryFree : ∀ pattern ∈ patterns, pattern.BoundaryFree)
    (built : builder.automaton = .ok automaton)
    {id : Nat}
    (arrives : Abbreviations.walk automaton automaton.start text = some id)
    {token : τ} :
    token ∈ Abbreviations.tokensBelow automaton id ↔
      ∃ more, token ∈ Pattern.leadingTokens patterns (text.map Char.toNat ++ more) := by
  obtain ⟨entries, unites, rfl, _, free, patient⟩ := exists_unites added plain boundaryFree
  rw [Graph.mem_tokensBelow_walk_iff (ofGraph_joined built) free patient arrives]
  simp only [unites.mem_leadingTokens_iff]

/-- Without boundaries in the patterns, no state waits for one. -/
theorem ignores_of_boundaryFree
    [PropertyParser]
    (added : empty.addAll patterns = .ok builder)
    (boundaryFree : ∀ pattern ∈ patterns, pattern.BoundaryFree)
    (built : builder.automaton = .ok automaton)
    (boundary : Boundary) :
    automaton.Ignores boundary := by
  have bears := (bears_empty.addAll boundaryFree added).joined.1
  apply Automaton.ignores_of_ofGraph (ofGraph_joined built)
  intro node edge member
  have fits := bears node edge member
  cases edge with
  | silent _ =>
      exact fits
  | labelled label _ =>
      have none : label.boundaries = .empty := fits.1
      refine ⟨?_, fits.2⟩
      show boundary ∉ label.boundaries
      rw [none]
      exact BoundarySet.not_mem_empty boundary

end Added

end LexerBuilder

namespace Matcher

variable {automaton : Automaton τ}

/-- A state that waits for nothing is settled as it is. -/
theorem settle_eq_self
    (ignores : ∀ boundary, automaton.Ignores boundary)
    (id : Nat)
    (here : Surroundings) :
    automaton.settle id here = id := by
  rw [Automaton.settle, if_pos]
  exact BoundarySet.isEmpty_iff.mpr fun boundary => ignores boundary id

/-- Where no state waits for a boundary, a matcher walks. -/
theorem state_after
    (ignores : ∀ boundary, automaton.Ignores boundary)
    (text : List Char) :
    ((ofAutomaton automaton).after text).state =
      Abbreviations.walk automaton automaton.start text := by
  induction text using List.reverseRecOn with
  | nil =>
      rfl
  | append_singleton text last inductionHypothesis =>
      rw [after_concat, Automaton.walk_concat, ← inductionHypothesis, feed]
      cases stood : ((ofAutomaton automaton).after text).state with
      | none =>
          simpa using stood
      | some id =>
          have same : ((ofAutomaton automaton).after text).automaton = automaton :=
            automaton_after ..
          simp only [same, settle_eq_self ignores, Option.bind_some]
          cases automaton.next? id last with
          | none =>
              rfl
          | some next =>
              dsimp only
              split <;> rfl

/-- A matcher that has failed has nothing to report. -/
theorem accepting_after_of_failed
    (ignores : ∀ boundary, automaton.Ignores boundary)
    {text : List Char}
    (failed : ((ofAutomaton automaton).after text).state = none) :
    ((ofAutomaton automaton).after text).accepting = none := by
  cases stands_after (ignores .lastLineEnd) text with
  | reading state _ _ =>
      rw [failed] at state
      contradiction
  | failed _ accepting _ =>
      exact accepting

/-- Where no state waits for a boundary, the state behind a character decides the answer. -/
theorem feed_of_next
    {matcher : Matcher τ}
    (ignores : ∀ boundary, matcher.automaton.Ignores boundary)
    (silent : matcher.state = none → matcher.accepting = none)
    (last : Char) :
    let arrived := matcher.state.bind fun state => matcher.automaton.next? state last
    ((matcher.feed last).1 = .failed ↔ arrived = none) ∧
      ((matcher.feed last).1 = .accepted ↔
        (arrived.bind matcher.automaton.token?).isSome = true) ∧
        (matcher.feed last).2.matched? = arrived.bind matcher.automaton.token? := by
  obtain ⟨automaton, state, before, accepting⟩ := matcher
  have settled := settle_eq_self ignores
  cases state with
  | none =>
      cases silent rfl
      simp [feed, matched?]
  | some id =>
      cases moves : automaton.next? id last with
      | none =>
          simp [feed, settled, moves, matched?]
      | some next =>
          cases found : automaton.acceptance next <;>
            simp [feed, settled, moves, found, matched?, Automaton.token?]

/-- The answer to the last character of a text is what the walk over the text arrives at. -/
theorem feed_of_walk
    (ignores : ∀ boundary, automaton.Ignores boundary)
    (text : List Char)
    (last : Char) :
    let arrived := Abbreviations.walk automaton automaton.start (text ++ [last])
    let answer := ((ofAutomaton automaton).after text).feed last
    (answer.1 = .failed ↔ arrived = none) ∧
      (answer.1 = .accepted ↔ (arrived.bind automaton.token?).isSome = true) ∧
        answer.2.matched? = arrived.bind automaton.token? := by
  have same : ((ofAutomaton automaton).after text).automaton = automaton :=
    automaton_after ..
  have answered :=
    feed_of_next (by rw [same]; exact ignores) (accepting_after_of_failed ignores) last
  rw [same, state_after ignores, ← Automaton.walk_concat] at answered
  exact answered

end Matcher

namespace LexerBuilder

variable [DecidableEq τ] {builder : LexerBuilder τ} {patterns : List (Pattern τ)}

/-- What a matcher of patterns answers to the last character of a text. -/
structure Answered
    [PropertyParser]
    (patterns : List (Pattern τ))
    (word : List Nat)
    (answer : Status × Matcher τ) : Prop where
  failed_iff :
    answer.1 = .failed ↔ ∀ pattern ∈ patterns, ∀ more, ¬ pattern.Accepts (word ++ more)
  accepted_iff :
    answer.1 = .accepted ↔ ∃ pattern ∈ patterns, pattern.Accepts word
  matched_iff (token : τ) :
    answer.2.matched? = some token ↔ token ∈ Pattern.leadingTokens patterns word

/-- A matcher answers as its patterns accept, when it is new as well as when it has been cleared. -/
theorem answered_of_built
    [PropertyParser]
    {matcher fresh : Matcher τ}
    (added : empty.addAll patterns = .ok builder)
    (plain : ∀ pattern ∈ patterns, pattern.Plain)
    (boundaryFree : ∀ pattern ∈ patterns, pattern.BoundaryFree)
    (built : builder.matcher = .ok matcher)
    (isFresh : fresh = matcher ∨ ∃ earlier, fresh = (matcher.after earlier).clear)
    (text : List Char)
    (last : Char) :
    Answered patterns ((text ++ [last]).map Char.toNat) ((fresh.after text).feed last) := by
  obtain ⟨automaton, automatonBuilt, rfl⟩ := exists_of_map_eq_ok built
  have isNew : fresh = Matcher.ofAutomaton automaton := by
    rcases isFresh with same | ⟨earlier, same⟩
    · exact same
    · rw [same, Matcher.clear_after]
  subst isNew
  have arrives :
      ∀ token,
        (Abbreviations.walk automaton automaton.start (text ++ [last])).bind automaton.token? =
            some token ↔
          token ∈ Pattern.leadingTokens patterns ((text ++ [last]).map Char.toNat) :=
    fun _ => bind_walk_token?_eq_some_iff added plain boundaryFree automatonBuilt
  obtain ⟨failed, accepted, matched⟩ :=
    Matcher.feed_of_walk (ignores_of_boundaryFree added boundaryFree automatonBuilt) text last
  refine ⟨?_, ?_, ?_⟩
  · rw [failed, ← Option.not_isSome_iff_eq_none,
      walk_isSome_iff added plain boundaryFree automatonBuilt (by simp)]
    simp only [not_exists, not_and]
  · rw [accepted, ← Pattern.leadingTokens_nonempty_iff, Option.isSome_iff_exists]
    simp only [arrives]
    rfl
  · intro token
    rw [matched, arrives]

end LexerBuilder

end LexicalAutomata
