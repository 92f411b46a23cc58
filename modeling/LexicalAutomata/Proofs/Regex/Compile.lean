import LexicalAutomata.Proofs.Automaton.Longest
import LexicalAutomata.Proofs.Graph.Patterns
import LexicalAutomata.Regex.Basic
import LexicalAutomata.Unicode.Property

namespace LexicalAutomata

/-!
# Compiled expressions match what their trees match

An expression that can be read can be compiled, and what is found at a place is the
longest text there that the tree of the expression matches.
-/

section Gains

variable {τ : Type} {searchStart : Nat} {later : Graph τ} {fragment : Fragment}
  {crosses : Place → Place → Prop} {mark : Node τ} {token : τ} {priority : Int32}

/-- The marks of the only pattern in a graph. -/
theorem Graph.Gains.bare_eq
    (gains : Graph.empty.Gains (Label.Crosses searchStart) later fragment crosses mark)
    (id : Nat) :
    (later.node id).bare = if id = fragment.last then mark else {} := by
  split
  · rename_i same
    rw [same]
    exact gains.marked
  · rename_i different
    rw [gains.others id different, Graph.node_of_size_le (Nat.zero_le _)]
    rfl

theorem Graph.Gains.plain
    (gains :
      Graph.empty.Gains (Label.Crosses searchStart) later fragment crosses
        (patternMark token priority)) :
    later.Plain := by
  constructor
  · intro id
    have same := congrArg Node.immediate (gains.bare_eq id)
    split at same <;> exact same
  · intro id
    have same := congrArg Node.enderLength (gains.bare_eq id)
    split at same <;> exact same

/-- The exit of the only pattern in a graph is its only terminal node. -/
theorem Graph.Gains.isSome_token_iff
    (gains : Graph.empty.Gains (Label.Crosses searchStart) later fragment crosses mark)
    (terminal : mark.token.isSome = true)
    (id : Nat) :
    (later.node id).token.isSome = true ↔ id = fragment.last := by
  have same := congrArg Node.token (gains.bare_eq id)
  have token : (later.node id).bare.token = (later.node id).token := rfl
  rw [← token, same]
  split
  · rename_i last
    exact iff_of_true terminal last
  · rename_i notLast
    exact iff_of_false (by simp) notLast

/-- Behind some characters there is a terminal when the pattern is crossed by reading them. -/
theorem Graph.Gains.hasTerminal_reached_iff
    (gains : Graph.empty.Gains (Label.Crosses searchStart) later fragment crosses mark)
    (terminal : mark.token.isSome = true)
    (place : Place)
    (count : Nat) :
    later.HasTerminal (later.reached searchStart {fragment.first} place count) ↔
      crosses place (place.advance count) := by
  obtain ⟨_, _, offers⟩ := gains.offers
  rw [← offers.route_iff]
  constructor
  · rintro ⟨id, ⟨_, rfl, walk⟩, isTerminal⟩
    cases (gains.isSome_token_iff terminal id).mp isTerminal
    exact walk
  · intro walk
    exact ⟨fragment.last, ⟨_, rfl, walk⟩, (gains.isSome_token_iff terminal _).mpr rfl⟩

/-- What a pattern is crossed by reading is in front of a place further on. -/
theorem Graph.Gains.exists_advance
    {graph : Graph τ}
    (gains : graph.Gains (Label.Crosses searchStart) later fragment crosses mark)
    {source target : Place}
    (crossed : crosses source target) :
    ∃ count ≤ source.rest.length, target = source.advance count := by
  obtain ⟨_, _, offers⟩ := gains.offers
  exact Graph.Walk.exists_advance ((offers.route_iff _ _).mpr crossed)

end Gains

/-- All tokens are the same when there is only one token. -/
theorem Graph.exists_outcome_unit
    (graph : Graph Unit)
    (key : Key)
    (isClosure : graph.IsClosureKey key) :
    ∃ outcome, graph.outcome key.members = .ok outcome := by
  obtain ⟨holding, seeds, same⟩ := isClosure
  rw [same]
  apply (Graph.lists_closure holding seeds).exists_outcome ()
  intro top isTop
  obtain ⟨token, found⟩ := Option.isSome_iff_exists.mp isTop.terminal
  exact found

namespace Regex

/-- An expression that can be read can be compiled, unless it lacks an ender that is asked for. -/
theorem exists_compile_mark
    [PropertyParser]
    {text : String}
    {options : Options}
    {expression : Expression}
    (parsed : Expression.parse text options = .ok expression)
    (hasEnder : options.fixedEnder = true → expression.enderLength ≠ 0) :
    ∃ graph fragment automaton,
      Build.expression text () options Graph.empty = (.ok fragment, graph) ∧
        Regex.compile text options = .ok ⟨text, options, automaton⟩ ∧
          Automaton.ofGraph graph fragment.first = .ok automaton ∧
            ∀ searchStart,
              Graph.empty.Gains (Label.Crosses searchStart) graph fragment
                (expression.Matches searchStart) (expression.mark options ()) := by
  obtain ⟨fragment, graph, built, gains⟩ :=
    Build.gains_expression parsed hasEnder () Graph.empty
  obtain ⟨automaton, constructed⟩ :=
    Automaton.exists_ofGraph graph fragment.first graph.exists_outcome_unit
  refine ⟨graph, fragment, automaton, built, ?_, constructed,
    fun searchStart => gains (Label.Crosses searchStart)⟩
  simp only [compile, StateT.run, built, constructed]

/-- An expression that can be read can be compiled. -/
theorem exists_compile
    [PropertyParser]
    {text : String}
    {options : Options}
    {expression : Expression}
    (parsed : Expression.parse text options = .ok expression)
    (plain : options.fixedEnder = false)
    (patient : options.acceptImmediately = false) :
    ∃ graph fragment automaton,
      Regex.compile text options = .ok ⟨text, options, automaton⟩ ∧
        Automaton.ofGraph graph fragment.first = .ok automaton ∧
          ∀ searchStart,
            Graph.empty.Gains (Label.Crosses searchStart) graph fragment
              (expression.Matches searchStart)
              (patternMark () (if expression.isLiteral then 1 else 0)) := by
  obtain ⟨graph, fragment, automaton, _, compiled, constructed, gains⟩ :=
    exists_compile_mark parsed (by simp [plain])
  rw [expression.mark_of_plain plain patient] at gains
  exact ⟨graph, fragment, automaton, compiled, constructed, gains⟩

/-- The number of characters that are found is the greatest one that the expression matches. -/
structure FindsLongest
    (automaton : Automaton Unit)
    (expression : Expression)
    (searchStart : Nat)
    (place : Place) : Prop where
  some :
    ∀ found,
      automaton.longestAt place searchStart = some found →
        found.length ≤ place.rest.length ∧
          expression.Matches searchStart place (place.advance found.length) ∧
            ∀ stop,
              expression.Matches searchStart place stop →
                ∃ count ≤ found.length, stop = place.advance count
  none :
    automaton.longestAt place searchStart = none ↔
      ∀ stop, ¬ expression.Matches searchStart place stop

theorem findsLongest_of_gains
    {graph : Graph Unit}
    {fragment : Fragment}
    {automaton : Automaton Unit}
    {expression : Expression}
    {searchStart : Nat}
    {priority : Int32}
    (constructed : Automaton.ofGraph graph fragment.first = .ok automaton)
    (gains :
      Graph.empty.Gains (Label.Crosses searchStart) graph fragment (expression.Matches searchStart)
        (patternMark () priority))
    (place : Place) :
    FindsLongest automaton expression searchStart place := by
  rcases Automaton.isLongest_or_none constructed gains.plain place searchStart with
    ⟨found, acceptance, isFound, _, longest⟩ | ⟨isNone, silent⟩
  · have matched : expression.Matches searchStart place (place.advance found.length) :=
      (gains.hasTerminal_reached_iff rfl place found.length).mp longest.accepts.hasTerminal
    constructor
    · intro other isOther
      cases isFound.symm.trans isOther
      refine ⟨longest.le, matched, ?_⟩
      intro stop stopMatched
      obtain ⟨count, le, rfl⟩ := gains.exists_advance stopMatched
      refine ⟨count, longest.longest count le ?_, rfl⟩
      exact (gains.hasTerminal_reached_iff rfl place count).mpr stopMatched
    · refine iff_of_false (by simp [isFound]) ?_
      intro unmatched
      exact unmatched _ matched
  · constructor
    · intro other isOther
      cases isNone.symm.trans isOther
    · refine iff_of_true isNone ?_
      intro stop stopMatched
      obtain ⟨count, le, rfl⟩ := gains.exists_advance stopMatched
      exact silent count le ((gains.hasTerminal_reached_iff rfl place count).mpr stopMatched)

/--
Every expression that can be read is compiled.  What is found at a place ends at the
greatest offset up to which the expression matches, nothing is found when there is no such
offset, and a text is accepted as a whole when the expression matches all of it.
-/
theorem compile_matches
    [PropertyParser]
    {text : String}
    {options : Options}
    {expression : Expression}
    (parsed : Expression.parse text options = .ok expression)
    (plain : options.fixedEnder = false)
    (patient : options.acceptImmediately = false) :
    ∃ regex,
      Regex.compile text options = .ok regex ∧
        (∀ place searchStart found,
          regex.automaton.longestAt place searchStart = some found →
            IsGreatest
              { offset |
                ∃ stop, expression.Matches searchStart place stop ∧ stop.offset = offset }
              (found.endOffset place)) ∧
        (∀ place searchStart,
          regex.automaton.longestAt place searchStart = none ↔
            ∀ stop, ¬ expression.Matches searchStart place stop) ∧
        ∀ subject : String,
          regex.isMatch subject = true ↔
            ∃ stop, stop.rest = [] ∧ expression.Matches 0 (.start subject.toList) stop := by
  obtain ⟨graph, fragment, automaton, compiled, constructed, gains⟩ :=
    exists_compile parsed plain patient
  have finds := fun searchStart => findsLongest_of_gains constructed (gains searchStart)
  refine ⟨_, compiled, ?_, fun place searchStart => (finds searchStart place).none, ?_⟩
  · intro place searchStart found isFound
    obtain ⟨_, matched, longest⟩ := (finds searchStart place).some found isFound
    have ends : found.endOffset place = (place.advance found.length).offset :=
      (Place.offset_advance place found.length).symm
    rw [ends]
    refine ⟨⟨_, matched, rfl⟩, ?_⟩
    rintro _ ⟨stop, stopMatched, rfl⟩
    obtain ⟨count, le, rfl⟩ := longest stop stopMatched
    exact place.offset_advance_mono le
  · intro subject
    unfold Regex.isMatch
    cases isFound : automaton.longestAt (.start subject.toList) 0 with
    | none =>
        refine iff_of_false (by simp) ?_
        rintro ⟨stop, _, matched⟩
        exact (finds 0 _).none.mp isFound stop matched
    | some found =>
        obtain ⟨le, matched, longest⟩ := (finds 0 _).some found isFound
        simp only [Option.any_some, beq_iff_eq]
        constructor
        · intro whole
          refine ⟨_, ?_, matched⟩
          rw [Place.rest_advance, whole]
          exact List.drop_length
        · rintro ⟨stop, ended, stopMatched⟩
          obtain ⟨count, countLe, rfl⟩ := longest stop stopMatched
          rw [Place.rest_advance, List.drop_eq_nil_iff] at ended
          exact Nat.le_antisymm le (ended.trans countLe)

theorem matches_abb :
    ∃ expression,
      Expression.parse "a(b|\\bc)*" {} = .ok expression ∧
        ∃ stop, stop.rest = [] ∧ expression.Matches 0 (.start "abb".toList) stop := by
  have accepted :
      ((Regex.compile "a(b|\\bc)*").toOption.map fun regex => regex.isMatch "abb") =
        some true := by
    decide +kernel
  have read : (Expression.parse "a(b|\\bc)*" {}).toOption.isSome = true := by
    decide +kernel
  obtain ⟨expression, isExpression⟩ := Option.isSome_iff_exists.mp read
  have parsed := ok_of_toOption isExpression
  obtain ⟨regex, compiled, _, _, isMatch_iff⟩ := compile_matches parsed rfl rfl
  refine ⟨expression, parsed, (isMatch_iff "abb").mp ?_⟩
  rw [compiled] at accepted
  exact Option.some.inj accepted

end Regex

end LexicalAutomata
