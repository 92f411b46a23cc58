import LexicalAutomata.Proofs.Automaton.SameEdges
import LexicalAutomata.Proofs.Expression.Ender
import LexicalAutomata.Proofs.Regex.Compile

namespace LexicalAutomata

/-!
# Stopping at the first completion

An immediate exit ends a scan behind the least number of characters that the expression
matches, and an ender is given back from there.  The expression ends with its ender, so
there are always enough characters.
-/

/-- The same options without those that cut a match short. -/
def Options.plain
    (options : Options) :
    Options :=
  { options with fixedEnder := false, acceptImmediately := false }

/-- The same options with a match that ends in front of its first ender. -/
def Options.ended
    (options : Options) :
    Options :=
  { options with fixedEnder := true }

/-- The same options with a match that ends with its first completion. -/
def Options.hurried
    (options : Options) :
    Options :=
  { options with fixedEnder := false, acceptImmediately := true }

/-- An expression matches so many characters behind a place, and no fewer. -/
def Expression.MatchesFirst
    (expression : Expression)
    (searchStart : Nat)
    (place : Place)
    (length : Nat) :
    Prop :=
  IsLeast
    { count |
      count ≤ place.rest.length ∧ expression.Matches searchStart place (place.advance count) }
    length

section Immediate

variable {τ : Type} {graph : Graph τ} {fragment : Fragment}
  {searchStart : Nat} {crosses : Place → Place → Prop} {mark : Node τ}

/-- A scan stops wherever there is a terminal, when the only one is immediate. -/
theorem Graph.Gains.stops_of_hasTerminal
    (gains : Graph.empty.Gains (Label.Crosses searchStart) graph fragment crosses mark)
    (terminal : mark.token.isSome = true)
    (immediate : mark.immediate = true)
    {nodes : Set Nat}
    (hasTerminal : graph.HasTerminal nodes) :
    graph.Stops nodes := by
  obtain ⟨id, member, isTerminal⟩ := hasTerminal
  have isLast := (gains.isSome_token_iff terminal id).mp isTerminal
  refine ⟨id, ⟨member, isTerminal, ?_⟩, ?_⟩
  · intro other _ otherTerminal
    rw [(gains.isSome_token_iff terminal other).mp otherTerminal, isLast]
    exact Int32.le_refl _
  · have same := congrArg Node.immediate (gains.bare_eq id)
    rw [if_pos isLast, immediate] at same
    exact same

/-- The only terminal has the ender of its mark. -/
theorem Graph.Gains.enderLength_eq
    (gains : Graph.empty.Gains (Label.Crosses searchStart) graph fragment crosses mark)
    (terminal : mark.token.isSome = true)
    {id : Nat}
    (isTerminal : (graph.node id).token.isSome = true) :
    (graph.node id).enderLength = mark.enderLength := by
  have same := congrArg Node.enderLength (gains.bare_eq id)
  rw [if_pos ((gains.isSome_token_iff terminal id).mp isTerminal)] at same
  exact same

/-- What is found ends behind the first match, with the ender of the exit taken off. -/
theorem Graph.Gains.longestAt_of_immediate
    [DecidableEq τ]
    {automaton : Automaton τ}
    (gains : Graph.empty.Gains (Label.Crosses searchStart) graph fragment crosses mark)
    (terminal : mark.token.isSome = true)
    (immediate : mark.immediate = true)
    (constructed : Automaton.ofGraph graph fragment.first = .ok automaton)
    (place : Place) :
    (∃ count,
        IsLeast { count | count ≤ place.rest.length ∧ crosses place (place.advance count) } count ∧
          (automaton.longestAt place searchStart).map Found.length =
            some (count - mark.enderLength)) ∨
      (automaton.longestAt place searchStart = none ∧
        ∀ count ≤ place.rest.length, ¬ crosses place (place.advance count)) := by
  rcases Automaton.acceptsLast_or_none constructed place searchStart with
    ⟨found, acceptance, count, isFound, _, sameLength, acceptsLast⟩ | ⟨isNone, silent⟩
  · refine Or.inl ⟨count, ⟨⟨acceptsLast.le, ?_⟩, ?_⟩, ?_⟩
    · rw [← gains.hasTerminal_reached_iff terminal place count,
        ← Graph.hasTerminal_judged_iff acceptsLast.le]
      exact acceptsLast.accepts.hasTerminal
    · rintro shorter ⟨le, crossed⟩
      by_contra less
      apply acceptsLast.goesOn shorter (Nat.lt_of_not_le less)
      apply gains.stops_of_hasTerminal terminal immediate
      rw [Graph.hasTerminal_judged_iff le]
      exact (gains.hasTerminal_reached_iff terminal place shorter).mpr crossed
    · obtain ⟨top, isTop, same⟩ := acceptsLast.accepts.ender.1
      rw [isFound, Option.map_some, sameLength, ← same, gains.enderLength_eq terminal isTop.terminal]
  · refine Or.inr ⟨isNone, fun count le crossed => silent count le ?_⟩
    exact (gains.hasTerminal_reached_iff terminal place count).mpr crossed

end Immediate

/-- A match has at least as many characters as the ender of the expression. -/
theorem Expression.Closes.le_of_matches
    {expression : Expression}
    (ordered : BranchesOrdered expression)
    {closing : Nat}
    (closes : expression.Closes closing)
    {searchStart count : Nat}
    {place : Place}
    (le : count ≤ place.rest.length)
    (matched : expression.Matches searchStart place (place.advance count)) :
    closing ≤ count := by
  obtain ⟨front, pieces, rfl, rfl, single, _⟩ := closes
  obtain ⟨middle, before, behind⟩ :=
    piecesMatch_append_iff.mp (Expression.leads_singleton_iff.mp matched)
  have frontOrdered := (piecesOrdered_append.mp ordered.1).1
  have makes :
      Build.Makes (Label.Crosses searchStart)
        (buildPieces front none >>= Build.orEmpty : Build Unit Fragment)
        (PiecesMatch (Label.Crosses searchStart) front) :=
    (extends_buildPieces front frontOrdered).makes_orEmpty
  obtain ⟨skipped, _, rfl⟩ := (makes.gains Graph.empty).exists_advance before
  obtain ⟨enough, same⟩ := eq_advance_of_closing single behind
  have lengths := congrArg (fun place : Place => place.rest.length) same
  simp only [Place.rest_advance, List.length_drop] at enough lengths
  omega

namespace Regex

variable {text : String} {options : Options} {expression : Expression}

/-- A match ends behind the first completion, with an ender taken off. -/
theorem longestAt_eq_of_compile
    [PropertyParser]
    (parsed : Expression.parse text options = .ok expression)
    (immediate : (expression.mark options ()).immediate = true)
    {regex : Regex}
    (compiled : compile text options = .ok regex)
    (hasEnder : options.fixedEnder = true → expression.enderLength ≠ 0)
    (place : Place)
    (searchStart : Nat) :
    (∀ length,
        expression.MatchesFirst searchStart place length →
          (regex.automaton.longestAt place searchStart).map Found.length =
            some (length - (expression.mark options ()).enderLength)) ∧
      ((¬ ∃ length, expression.MatchesFirst searchStart place length) →
        regex.automaton.longestAt place searchStart = none) := by
  obtain ⟨graph, fragment, automaton, _, sameCompiled, constructed, gains⟩ :=
    exists_compile_mark parsed hasEnder
  cases compiled.symm.trans sameCompiled
  rcases (gains searchStart).longestAt_of_immediate rfl immediate constructed place with
    ⟨count, first, found⟩ | ⟨isNone, silent⟩
  · refine ⟨?_, fun none => (none ⟨count, first⟩).elim⟩
    intro length otherFirst
    rw [otherFirst.unique first]
    exact found
  · refine ⟨?_, fun _ => isNone⟩
    rintro length ⟨⟨le, matched⟩, _⟩
    exact (silent length le matched).elim

/-- An ender shortens the least length of an expression by as many characters. -/
theorem minLength_ended_eq
    [PropertyParser]
    (parsed : Expression.parse text options.plain = .ok expression)
    (hasEnder : expression.enderLength ≠ 0)
    {regex whole : Regex}
    (compiled : compile text options.ended = .ok regex)
    (wholeCompiled : compile text options.plain = .ok whole) :
    regex.automaton.minLength = whole.automaton.minLength - expression.enderLength := by
  obtain ⟨graph, fragment, automaton, built, sameCompiled, constructed, gains⟩ :=
    exists_compile_mark parsed (fun impossible => by contradiction)
  have otherParsed : Expression.parse text options.ended = .ok expression := parsed
  obtain ⟨other, otherFragment, twin, otherBuilt, otherCompiled, otherConstructed, otherGains⟩ :=
    exists_compile_mark otherParsed fun _ => hasEnder
  cases wholeCompiled.symm.trans sameCompiled
  cases compiled.symm.trans otherCompiled
  obtain ⟨rfl, same⟩ := Build.sameEdges_expression parsed built
  obtain ⟨rfl, otherSame⟩ := Build.sameEdges_expression otherParsed otherBuilt
  obtain ⟨unpruned, determined, rfl⟩ := exists_of_map_eq_ok constructed
  obtain ⟨otherUnpruned, otherDetermined, rfl⟩ := exists_of_map_eq_ok otherConstructed
  obtain ⟨keys, determinizes⟩ := Graph.determinizes_subsetAutomaton determined
  obtain ⟨otherKeys, twinDeterminizes⟩ := Graph.determinizes_subsetAutomaton otherDetermined
  have plainGains := gains 0
  rw [expression.mark_of_plain rfl rfl] at plainGains
  have plain := plainGains.plain
  have twins :
      Automaton.Twins graph other _ keys otherKeys unpruned otherUnpruned :=
    ⟨determinizes, twinDeterminizes, same.symm.trans otherSame, fun id =>
      Bool.eq_iff_iff.mpr (((gains 0).isSome_token_iff rfl id).trans
        ((otherGains 0).isSome_token_iff rfl id).symm), plain.patient⟩
  exact twins.minLength_prune_eq plain.endless
    fun id terminal => (otherGains 0).enderLength_eq rfl terminal

/-- An expression that lacks the ender that is asked for is refused. -/
theorem compile_missingEnder
    [PropertyParser]
    (parsed : Expression.parse text options = .ok expression)
    (ended : options.fixedEnder = true)
    (missing : expression.enderLength = 0) :
    compile text options = .error (.text ⟨.missingEnder, text.utf8ByteSize⟩) := by
  simp only [compile, StateT.run, Build.expression, parsed, bind, StateT.bind, ended, missing,
    ↓reduceIte]
  rfl

/-- A text that cannot be read is refused. -/
theorem compile_of_parse_error
    [PropertyParser]
    {error : TextError}
    (failed : Expression.parse text options = .error error) :
    compile text options = .error (.text error) := by
  simp only [compile, StateT.run, Build.expression, failed]
  rfl

/-- There is no ender when there are several branches, or when the only one has none. -/
theorem enderLength_eq_zero_iff
    [PropertyParser]
    (parsed : Expression.parse text options = .ok expression) :
    expression.enderLength = 0 ↔ 1 < expression.length ∨ expression.Closes 0 := by
  rw [Expression.closes_iff]
  match expression, Expression.ne_nil_of_parse parsed with
  | [branch], _ =>
      simp
  | first :: second :: rest, _ =>
      simp [Expression.enderLength]

/-- An ender is the ender of a single branch. -/
theorem closes_enderLength
    (hasEnder : expression.enderLength ≠ 0) :
    expression.Closes expression.enderLength := by
  rw [Expression.closes_iff]
  match expression with
  | [branch] =>
      exact ⟨rfl, rfl⟩
  | [] | _ :: _ :: _ =>
      exact (hasEnder rfl).elim

/-- What is compiled with an ender can be read, and has one. -/
theorem exists_of_compile_ended
    [PropertyParser]
    {regex : Regex}
    (compiled : compile text options.ended = .ok regex) :
    ∃ expression,
      Expression.parse text options.plain = .ok expression ∧ expression.enderLength ≠ 0 := by
  cases parsed : Expression.parse text options.ended with
  | error error =>
      rw [compile_of_parse_error parsed] at compiled
      contradiction
  | ok expression =>
      refine ⟨expression, parsed, fun missing => ?_⟩
      rw [compile_missingEnder parsed rfl missing] at compiled
      contradiction

/-- With an ender asked for, an expression is refused if it cannot be read or has none. -/
theorem compile_ended_eq_error_iff
    [PropertyParser] :
    (∃ error, compile text options.ended = .error error) ↔
      (∃ error, Expression.parse text options.plain = .error error) ∨
        ∃ expression,
          Expression.parse text options.plain = .ok expression ∧
            (1 < expression.length ∨ expression.Closes 0) := by
  cases parsed : Expression.parse text options.plain with
  | error error =>
      exact iff_of_true ⟨_, compile_of_parse_error parsed⟩ (Or.inl ⟨error, rfl⟩)
  | ok expression =>
      simp only [reduceCtorEq, exists_false, false_or, Except.ok.injEq, exists_eq_left']
      rw [← enderLength_eq_zero_iff parsed]
      constructor
      · rintro ⟨error, failed⟩
        by_contra hasEnder
        have endedParsed : Expression.parse text options.ended = .ok expression := parsed
        obtain ⟨_, _, _, _, compiled, _⟩ := exists_compile_mark endedParsed fun _ => hasEnder
        rw [compiled] at failed
        contradiction
      · exact fun missing => ⟨_, compile_missingEnder parsed rfl missing⟩

/--
With an ender asked for, what is found ends in front of the ender of the first completion,
and nothing is found when there is no completion.  The least length is smaller by the
ender.  Such an expression is refused when it cannot be read, has several branches or has
no ender, and only then.  When merely the first completion is asked for, what is found ends
with it.
-/
theorem compile_completion
    [PropertyParser]
    (text : String)
    (options : Options) :
    (∀ regex,
        compile text options.ended = .ok regex →
          ∃ expression whole closing,
            Expression.parse text options.plain = .ok expression ∧
              compile text options.plain = .ok whole ∧
                expression.Closes closing ∧
                  0 < closing ∧
                    (∀ place searchStart,
                      (∀ length,
                        expression.MatchesFirst searchStart place length →
                          closing ≤ length ∧
                            (regex.automaton.longestAt place searchStart).map Found.length =
                              some (length - closing)) ∧
                        ((¬ ∃ length, expression.MatchesFirst searchStart place length) →
                          regex.automaton.longestAt place searchStart = none)) ∧
                      regex.automaton.minLength = whole.automaton.minLength - closing) ∧
      (∀ expression,
        Expression.parse text options.plain = .ok expression →
          ∃ regex,
            compile text options.hurried = .ok regex ∧
              ∀ place searchStart,
                (∀ length,
                  expression.MatchesFirst searchStart place length →
                    (regex.automaton.longestAt place searchStart).map Found.length =
                      some length) ∧
                  ((¬ ∃ length, expression.MatchesFirst searchStart place length) →
                    regex.automaton.longestAt place searchStart = none)) ∧
        ((∃ error, compile text options.ended = .error error) ↔
          (∃ error, Expression.parse text options.plain = .error error) ∨
            ∃ expression,
              Expression.parse text options.plain = .ok expression ∧
                (1 < expression.length ∨ expression.Closes 0)) ∧
          ∀ error,
            compile text options.ended = .error error → ∃ fault, error = .text fault := by
  refine ⟨?_, ?_, compile_ended_eq_error_iff, ?_⟩
  · intro regex compiled
    obtain ⟨expression, parsed, hasEnder⟩ := exists_of_compile_ended compiled
    obtain ⟨_, _, automaton, _, wholeCompiled, _, _⟩ :=
      exists_compile_mark parsed (fun impossible => by contradiction)
    have closes := closes_enderLength hasEnder
    have endedParsed : Expression.parse text options.ended = .ok expression := parsed
    refine ⟨expression, _, _, parsed, wholeCompiled, closes, Nat.pos_of_ne_zero hasEnder, ?_,
      minLength_ended_eq parsed hasEnder compiled wholeCompiled⟩
    intro place searchStart
    obtain ⟨ends, isNone⟩ :=
      longestAt_eq_of_compile endedParsed rfl compiled (fun _ => hasEnder) place searchStart
    refine ⟨fun length first => ⟨?_, ends length first⟩, isNone⟩
    exact closes.le_of_matches (Expression.ordered_of_parse parsed) first.1.1 first.1.2
  · intro expression parsed
    have hurriedParsed : Expression.parse text options.hurried = .ok expression := parsed
    have noEnder : options.hurried.fixedEnder = true → expression.enderLength ≠ 0 :=
      fun impossible => by contradiction
    obtain ⟨_, _, automaton, _, compiled, _, _⟩ := exists_compile_mark hurriedParsed noEnder
    exact ⟨_, compiled, longestAt_eq_of_compile hurriedParsed rfl compiled noEnder⟩
  · intro error failed
    cases parsed : Expression.parse text options.ended with
    | error fault =>
        rw [compile_of_parse_error parsed] at failed
        exact ⟨fault, (Except.error.inj failed).symm⟩
    | ok expression =>
        by_cases missing : expression.enderLength = 0
        · rw [compile_missingEnder parsed rfl missing] at failed
          exact ⟨_, (Except.error.inj failed).symm⟩
        · obtain ⟨_, _, _, _, compiled, _⟩ := exists_compile_mark parsed fun _ => missing
          rw [compiled] at failed
          contradiction

theorem matchesFirst_blockComment :
    ∃ expression,
      Expression.parse "/\\*.*\\*/" {} = .ok expression ∧
        expression.Closes 2 ∧
          expression.MatchesFirst 0 (.start "/*-- */ */".toList) 7 := by
  have accepted :
      ((Regex.compile "/\\*.*\\*/" { fixedEnder := true }).toOption.map fun regex =>
        (regex.automaton.longestAt (.start "/*-- */ */".toList) 0).map Found.length) =
          some (some 5) := by
    decide +kernel
  have counted :
      ((Expression.parse "/\\*.*\\*/" {}).toOption.map Expression.enderLength) = some 2 := by
    decide +kernel
  obtain ⟨regex, isRegex, found⟩ := Option.map_eq_some_iff.mp accepted
  obtain ⟨expression, isRead, enderLength⟩ := Option.map_eq_some_iff.mp counted
  obtain ⟨_, _, closing, parsed, _, closes, _, ends, _⟩ :=
    (compile_completion "/\\*.*\\*/" {}).1 regex (ok_of_toOption isRegex)
  cases (ok_of_toOption isRead).symm.trans parsed
  obtain ⟨behind, none⟩ := ends (.start "/*-- */ */".toList) 0
  obtain ⟨length, first⟩ :
      ∃ length, expression.MatchesFirst 0 (.start "/*-- */ */".toList) length := by
    by_contra unmatched
    rw [none unmatched] at found
    contradiction
  obtain ⟨enough, ended⟩ := behind length first
  have sameClosing := (Expression.closes_iff.mp closes).2
  rw [enderLength] at sameClosing
  subst sameClosing
  rw [ended, Option.some_inj] at found
  have isSeven : length = 7 := by omega
  subst isSeven
  exact ⟨expression, parsed, closes, first⟩

end Regex

end LexicalAutomata
