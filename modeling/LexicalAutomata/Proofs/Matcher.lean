import LexicalAutomata.Matcher
import LexicalAutomata.Proofs.Automaton.Indifference
import LexicalAutomata.Proofs.Lexer.Blocks
import LexicalAutomata.Proofs.Regex.Match
import LexicalAutomata.Unicode.Property

namespace LexicalAutomata

/-!
# Matching character by character is scanning

A matcher sees one character of what comes next, and a scan sees all of it.  As long as no
pattern asks for the last line end, one character decides all other boundaries, so that both
go through the same states.  The matcher accepts a text exactly when a scan of it comes to
its end, and once it has failed, no scan of a longer text comes to the end of that.
-/

variable {τ : Type}

namespace Automaton

/--
Reading a text from its start leads a scan to a state, whatever comes behind the text.  What
the scan has found by then is shorter than the text.
-/
def Reads
    (automaton : Automaton τ)
    (text : List Char)
    (id : Nat) :
    Prop :=
  ∀ rest,
    ∃ found : Option Found,
      (∀ earlier ∈ found, earlier.length < text.length) ∧
        automaton.longestAt (.start (text ++ rest)) 0 =
          automaton.scanFrom 0 id text.length found text.getLast? (Text.byteLength text) rest

/-- Whatever comes behind a text, a scan finds less than the text. -/
def Refuses
    (automaton : Automaton τ)
    (text : List Char) :
    Prop :=
  ∀ rest found,
    automaton.longestAt (.start (text ++ rest)) 0 = some found → found.length < text.length

/-- What surrounds the end of a text when one character of what comes next is seen. -/
def surroundingsBetween
    (text : List Char)
    (char : Char) :
    Surroundings where
  before :=
    text.getLast?
  ahead :=
    [char]
  atInputStart :=
    text.getLast?.isNone
  atSearchStart :=
    text.getLast?.isNone

theorem reads_nil
    (automaton : Automaton τ) :
    automaton.Reads [] automaton.start :=
  fun _ => ⟨none, fun _ => (absurd · (Option.not_mem_none _)), rfl⟩

section Reads

variable {automaton : Automaton τ} {text : List Char} {id : Nat} {char : Char}

theorem Refuses.append
    (refuses : automaton.Refuses text)
    (more : List Char) :
    automaton.Refuses (text ++ more) := by
  intro rest found isFound
  rw [List.append_assoc] at isFound
  rw [List.length_append]
  exact Nat.lt_add_right _ (refuses (more ++ rest) found isFound)

/-- A scan settles behind a text as it does where only one character of the rest is seen. -/
theorem settle_behind
    (ignores : automaton.Ignores .lastLineEnd)
    (text : List Char)
    (id : Nat)
    (char : Char)
    (rest : List Char) :
    automaton.settle id
        ((Place.mk text.getLast? (Text.byteLength text) (char :: rest)).surroundings 0) =
      automaton.settle id (surroundingsBetween text char) := by
  have atStart : (Text.byteLength text == 0) = text.getLast?.isNone := by
    cases text with
    | nil =>
        rfl
    | cons first others =>
        have positive := first.utf8Size_pos
        rw [Text.byteLength_cons, List.getLast?_cons, Option.isNone_some, beq_eq_false_iff_ne]
        omega
  apply settle_congr
  intro boundary awaited
  cases boundary with
  | lastLineEnd =>
      exact (ignores id awaited).elim
  | _ =>
      simp [Surroundings.holds, Surroundings.atWordEdge, Place.surroundings,
        surroundingsBetween, atStart]

/-- Behind a character that is read, the scan goes on from the next state. -/
theorem Reads.next
    (reads : automaton.Reads text id)
    (ignores : automaton.Ignores .lastLineEnd)
    {next : Nat}
    (moves :
      automaton.next? (automaton.settle id (surroundingsBetween text char)) char = some next) :
    automaton.Reads (text ++ [char]) next := by
  intro rest
  obtain ⟨found, earlier, scanned⟩ := reads (char :: rest)
  refine ⟨automaton.foundAt (automaton.settle id (surroundingsBetween text char)) text.length found,
    fun best isBest => ?_, ?_⟩
  · have bound := length_foundAt_le (fun found member => Nat.le_of_lt (earlier found member))
      (Nat.le_refl _) (Option.mem_def.mp isBest)
    rw [List.length_append, List.length_singleton]
    exact Nat.lt_succ_of_le bound
  · rw [List.append_assoc, List.singleton_append, scanned, scanFrom]
    simp only [settle_behind ignores, moves, List.getLast?_append, List.getLast?_singleton,
      Option.some_or, List.length_append, List.length_singleton, Text.byteLength_append,
      Text.byteLength_cons, Text.byteLength_nil, Nat.add_zero]

/-- A scan that cannot read a character finds nothing behind it. -/
theorem Reads.refuses
    (reads : automaton.Reads text id)
    (ignores : automaton.Ignores .lastLineEnd)
    (stuck :
      automaton.next? (automaton.settle id (surroundingsBetween text char)) char = none) :
    automaton.Refuses (text ++ [char]) := by
  intro rest best isBest
  obtain ⟨found, earlier, scanned⟩ := reads (char :: rest)
  rw [List.append_assoc, List.singleton_append, scanned, scanFrom] at isBest
  simp only [settle_behind ignores, stuck] at isBest
  have bound := length_foundAt_le (fun found member => Nat.le_of_lt (earlier found member))
    (Nat.le_refl _) isBest
  rw [List.length_append, List.length_singleton]
  exact Nat.lt_succ_of_le bound

/-- At the end of its text a scan has found the whole of it just when it accepts there. -/
theorem Reads.longestAt_eq_some_iff
    {last : Char}
    (reads : automaton.Reads (text ++ [last]) id)
    (endless : automaton.Endless)
    {state : Nat} :
    automaton.longestAt (.start (text ++ [last])) 0 =
        some ⟨(text ++ [last]).length, state⟩ ↔
      state = automaton.settle id (Matcher.surroundingsBehind last) ∧
        (automaton.acceptance state).isSome = true := by
  obtain ⟨found, earlier, scanned⟩ := reads []
  have atEnd :
      (Place.mk (text ++ [last]).getLast? (Text.byteLength (text ++ [last])) []).surroundings 0 =
        Matcher.surroundingsBehind last := by
    have positive := last.utf8Size_pos
    have notAtStart : (Text.byteLength (text ++ [last]) == 0) = false := by
      rw [Text.byteLength_append, Text.byteLength_cons, beq_eq_false_iff_ne]
      omega
    simp only [Place.surroundings, notAtStart, List.getLast?_concat, List.take_nil,
      Matcher.surroundingsBehind]
  rw [List.append_nil, scanFrom, atEnd] at scanned
  rw [scanned, foundAt]
  cases accepted : automaton.acceptance (automaton.settle id (Matcher.surroundingsBehind last)) with
  | none =>
      constructor
      · intro isFound
        exact absurd (earlier _ isFound) (Nat.lt_irrefl _)
      · rintro ⟨rfl, isSome⟩
        rw [accepted] at isSome
        contradiction
  | some acceptance =>
      simp only [endless _ acceptance accepted, Nat.sub_zero, Option.some.injEq, Found.mk.injEq,
        true_and]
      constructor
      · rintro rfl
        exact ⟨rfl, by rw [accepted]; rfl⟩
      · rintro ⟨rfl, _⟩
        rfl

end Reads

end Automaton

namespace Matcher

/-- The matcher after some more characters. -/
def after
    (matcher : Matcher τ)
    (text : List Char) :
    Matcher τ :=
  text.foldl (fun matcher char => (matcher.feed char).2) matcher

theorem after_append
    (matcher : Matcher τ)
    (text more : List Char) :
    matcher.after (text ++ more) = (matcher.after text).after more :=
  List.foldl_append

theorem after_concat
    (matcher : Matcher τ)
    (text : List Char)
    (last : Char) :
    matcher.after (text ++ [last]) = ((matcher.after text).feed last).2 :=
  matcher.after_append text [last]

@[simp] theorem automaton_feed
    (matcher : Matcher τ)
    (char : Char) :
    (matcher.feed char).2.automaton = matcher.automaton := by
  unfold feed
  split
  · rfl
  · dsimp only
    split
    · rfl
    · split <;> rfl

@[simp] theorem automaton_after
    (matcher : Matcher τ)
    (text : List Char) :
    (matcher.after text).automaton = matcher.automaton := by
  induction text generalizing matcher with
  | nil =>
      rfl
  | cons char rest inductionHypothesis =>
      exact (inductionHypothesis (matcher.feed char).2).trans (matcher.automaton_feed char)

/-- A matcher that has failed answers that again, and stays as it is. -/
theorem feed_of_failed
    {matcher : Matcher τ}
    (failed : matcher.state = none)
    (char : Char) :
    matcher.feed char = (.failed, matcher) := by
  rw [feed, failed]

/-- Clearing makes the matcher of the automaton again. -/
theorem clear_after
    (automaton : Automaton τ)
    (text : List Char) :
    ((ofAutomaton automaton).after text).clear = ofAutomaton automaton := by
  simp [clear, ofAutomaton]

/-- Where a matcher is in a scan of the texts that begin with what it was fed. -/
inductive Stands
    (matcher : Matcher τ)
    (text : List Char) :
    Prop
  | reading {id : Nat} :
      matcher.state = some id →
      matcher.before = text.getLast? →
      matcher.automaton.Reads text id →
      Stands matcher text
  | failed :
      matcher.state = none →
      matcher.accepting = none →
      matcher.automaton.Refuses text →
      Stands matcher text

/-- The answers that a matcher gives to the last character of a text, and what they mean. -/
inductive Answers
    (text : List Char)
    (last : Char) :
    Status × Matcher τ → Prop
  | failed {matcher : Matcher τ} :
      matcher.state = none →
      matcher.accepting = none →
      matcher.automaton.Refuses (text ++ [last]) →
      Answers text last (.failed, matcher)
  | accepted {matcher : Matcher τ} {id : Nat} {acceptance : Acceptance τ} :
      matcher.state = some id →
      matcher.before = some last →
      matcher.automaton.Reads (text ++ [last]) id →
      matcher.automaton.acceptance
          (matcher.automaton.settle id (surroundingsBehind last)) = some acceptance →
      matcher.accepting = some (matcher.automaton.settle id (surroundingsBehind last)) →
      Answers text last (.accepted, matcher)
  | possible {matcher : Matcher τ} {id : Nat} :
      matcher.state = some id →
      matcher.before = some last →
      matcher.automaton.Reads (text ++ [last]) id →
      matcher.automaton.acceptance
          (matcher.automaton.settle id (surroundingsBehind last)) = none →
      Answers text last (.possible, matcher)

section Stands

variable {matcher : Matcher τ} {text : List Char} {last : Char}

/-- One more character is answered as the scan goes on. -/
theorem Stands.answers_feed
    (stands : matcher.Stands text)
    (ignores : matcher.automaton.Ignores .lastLineEnd)
    (last : Char) :
    Answers text last (matcher.feed last) := by
  cases stands with
  | failed state accepting refuses =>
      rw [feed_of_failed state]
      exact .failed state accepting (refuses.append [last])
  | @reading id state before reads =>
      have surroundings :
          matcher.surroundings last = Automaton.surroundingsBetween text last := by
        rw [Matcher.surroundings, before]
        rfl
      rw [feed, state]
      simp only [surroundings]
      split
      · rename_i stuck
        exact .failed rfl rfl (reads.refuses ignores stuck)
      · rename_i next moves
        have nextReads := reads.next ignores moves
        cases accepted : matcher.automaton.acceptance
            (matcher.automaton.settle next (surroundingsBehind last)) with
        | some acceptance =>
            exact .accepted rfl rfl nextReads accepted rfl
        | none =>
            exact .possible rfl rfl nextReads accepted

theorem Answers.stands
    {result : Status × Matcher τ}
    (answers : Answers text last result) :
    result.2.Stands (text ++ [last]) := by
  have lastOf : (text ++ [last]).getLast? = some last := List.getLast?_concat
  cases answers with
  | failed state accepting refuses =>
      exact .failed state accepting refuses
  | accepted state before reads =>
      exact .reading state (before.trans lastOf.symm) reads
  | possible state before reads =>
      exact .reading state (before.trans lastOf.symm) reads

/-- The answer is that the text is accepted just when a scan comes to its end. -/
theorem Answers.accepted_iff
    {result : Status × Matcher τ}
    (answers : Answers text last result)
    (endless : result.2.automaton.Endless) :
    result.1 = .accepted ↔
      ∃ state,
        result.2.automaton.longestAt (.start (text ++ [last])) 0 =
          some ⟨(text ++ [last]).length, state⟩ := by
  cases answers with
  | failed _ _ refuses =>
      simp only [reduceCtorEq, false_iff]
      rintro ⟨state, isFound⟩
      rw [← List.append_nil (text ++ [last])] at isFound
      exact absurd (refuses [] _ isFound) (Nat.not_lt.mpr (by simp))
  | accepted _ _ reads accepted =>
      simp only [true_iff]
      exact ⟨_, (reads.longestAt_eq_some_iff endless).mpr ⟨rfl, Option.isSome_of_mem accepted⟩⟩
  | possible _ _ reads silent =>
      simp only [reduceCtorEq, false_iff]
      rintro ⟨state, isFound⟩
      obtain ⟨rfl, isSome⟩ := (reads.longestAt_eq_some_iff endless).mp isFound
      rw [silent] at isSome
      contradiction

/-- The token of an accepted text is that of the state where the scan ends. -/
theorem Answers.matched
    {result : Status × Matcher τ}
    (answers : Answers text last result)
    (endless : result.2.automaton.Endless)
    {state : Nat}
    (isFound :
      result.2.automaton.longestAt (.start (text ++ [last])) 0 =
        some ⟨(text ++ [last]).length, state⟩) :
    ∃ token, result.2.automaton.token? state = some token ∧ result.2.matched? = some token := by
  have isAccepted := (answers.accepted_iff endless).mpr ⟨state, isFound⟩
  cases answers with
  | @accepted _ _ acceptance _ _ reads accepted accepting =>
      obtain ⟨rfl, _⟩ := (reads.longestAt_eq_some_iff endless).mp isFound
      refine ⟨acceptance.token, ?_, ?_⟩
      · rw [Automaton.token?, accepted]
        rfl
      · rw [matched?, accepting, Option.bind_some, Automaton.token?, accepted]
        rfl
  | failed =>
      contradiction
  | possible =>
      contradiction

/-- When the answer is that the matcher has failed, no scan comes to the end of a longer text. -/
theorem Answers.refuses
    {result : Status × Matcher τ}
    (answers : Answers text last result)
    (isFailed : result.1 = .failed) :
    result.2.state = none ∧
      result.2.matched? = none ∧ result.2.automaton.Refuses (text ++ [last]) := by
  cases answers with
  | failed state accepting refuses =>
      refine ⟨state, ?_, refuses⟩
      rw [matched?, accepting]
      rfl
  | accepted =>
      contradiction
  | possible =>
      contradiction

/-- A matcher that has just begun stands at the beginning, and keeps up with the scan. -/
theorem stands_after
    {automaton : Automaton τ}
    (ignores : automaton.Ignores .lastLineEnd)
    (text : List Char) :
    ((ofAutomaton automaton).after text).Stands text := by
  induction text using List.reverseRecOn with
  | nil =>
      exact .reading rfl rfl automaton.reads_nil
  | append_singleton text last inductionHypothesis =>
      rw [after_concat]
      refine (inductionHypothesis.answers_feed ?_ last).stands
      rw [automaton_after]
      exact ignores

/-- A matcher that has failed stays as it is. -/
theorem after_of_failed
    (failed : matcher.state = none)
    (more : List Char) :
    matcher.after more = matcher := by
  induction more with
  | nil =>
      rfl
  | cons char rest inductionHypothesis =>
      rw [after, List.foldl_cons, feed_of_failed failed]
      exact inductionHypothesis

end Stands

/--
What a matcher knows of a text after its last character is what a scan finds in the texts that
begin with it.
-/
structure AgreesOn
    (matcher : Matcher τ)
    (text : List Char)
    (last : Char) : Prop where
  accepted_iff :
    ((matcher.after text).feed last).1 = .accepted ↔
      ∃ state,
        matcher.automaton.longestAt (.start (text ++ [last])) 0 =
          some ⟨(text ++ [last]).length, state⟩
  matched (state : Nat) :
    matcher.automaton.longestAt (.start (text ++ [last])) 0 =
        some ⟨(text ++ [last]).length, state⟩ →
      ∃ token,
        matcher.automaton.token? state = some token ∧
          ((matcher.after text).feed last).2.matched? = some token
  failed :
    ((matcher.after text).feed last).1 = .failed →
      ∀ more found,
        matcher.automaton.longestAt (.start (text ++ [last] ++ more)) 0 = some found →
          found.length < (text ++ [last] ++ more).length
  staysFailed :
    ((matcher.after text).feed last).1 = .failed →
      ((matcher.after text).feed last).2.matched? = none ∧
        ∀ more next,
          ((matcher.after (text ++ [last] ++ more)).feed next).1 = .failed ∧
            ((matcher.after (text ++ [last] ++ more)).feed next).2.matched? = none

/-- The matcher of an automaton without enders agrees with the scan. -/
theorem agreesOn_ofAutomaton
    {automaton : Automaton τ}
    (ignores : automaton.Ignores .lastLineEnd)
    (endless : automaton.Endless)
    (text : List Char)
    (last : Char) :
    (ofAutomaton automaton).AgreesOn text last := by
  have sameAutomaton :
      (((ofAutomaton automaton).after text).feed last).2.automaton = automaton := by
    rw [automaton_feed, automaton_after]
    rfl
  have answers : Answers text last (((ofAutomaton automaton).after text).feed last) := by
    refine (stands_after ignores text).answers_feed ?_ last
    rw [automaton_after]
    exact ignores
  have stillEndless : (((ofAutomaton automaton).after text).feed last).2.automaton.Endless := by
    rw [sameAutomaton]
    exact endless
  refine
    { accepted_iff := ?_
      matched := fun state isFound => ?_
      failed := fun isFailed more found isFound => ?_
      staysFailed := fun isFailed => ?_ }
  · rw [answers.accepted_iff stillEndless, sameAutomaton]
    rfl
  · obtain ⟨token, stored, matched⟩ :=
      answers.matched stillEndless (by rw [sameAutomaton]; exact isFound)
    rw [sameAutomaton] at stored
    exact ⟨token, stored, matched⟩
  · obtain ⟨_, _, refuses⟩ := answers.refuses isFailed
    rw [sameAutomaton] at refuses
    rw [List.length_append]
    exact Nat.lt_add_right _ (refuses more found isFound)
  · obtain ⟨state, unmatched, _⟩ := answers.refuses isFailed
    refine ⟨unmatched, fun more next => ?_⟩
    rw [after_append, after_concat, after_of_failed state, feed_of_failed state]
    exact ⟨rfl, unmatched⟩

end Matcher

section Built

variable {patterns : List (Pattern τ)} {builder : LexerBuilder τ}

/-- Patterns without enders leave none in the graph. -/
theorem LexerBuilder.enderLength_joined
    [PropertyParser]
    (noEnder : ∀ pattern ∈ patterns, pattern.options.fixedEnder = false)
    (added : LexerBuilder.empty.addAll patterns = .ok builder)
    (id : Nat) :
    (builder.joined.2.node id).enderLength = 0 := by
  obtain ⟨entries, gathers, rfl⟩ := gathers_empty.addAll added
  rw [List.nil_append] at gathers
  rcases gathers.unites_joined.bare_cases id with ⟨entry, member, _, marked⟩ | bare
  · have stored : (builder.joined.2.node id).enderLength = entry.2.enderLength :=
      congrArg Node.enderLength marked
    have plain := noEnder entry.2 (List.mem_map_of_mem member)
    rw [stored, Pattern.enderLength]
    split
    · rfl
    · rw [plain]
      rfl
  · exact congrArg Node.enderLength bare

/--
A matcher of patterns that ask neither for the last line end nor for an ender agrees with the
scan on every text, when it is new as well as when it has been cleared.
-/
theorem Matcher.agreesOn_of_built
    [PropertyParser]
    [DecidableEq τ]
    {matcher fresh : Matcher τ}
    (noEnder : ∀ pattern ∈ patterns, pattern.options.fixedEnder = false)
    (noLastLineEnd : ∀ pattern ∈ patterns, pattern.Avoids .lastLineEnd)
    (added : LexerBuilder.empty.addAll patterns = .ok builder)
    (built : builder.matcher = .ok matcher)
    (isFresh : fresh = matcher ∨ ∃ earlier, fresh = (matcher.after earlier).clear)
    (text : List Char)
    (last : Char) :
    fresh.AgreesOn text last := by
  obtain ⟨automaton, automatonBuilt, rfl⟩ := exists_of_map_eq_ok built
  have isNew : fresh = ofAutomaton automaton := by
    rcases isFresh with same | ⟨earlier, same⟩
    · exact same
    · rw [same, clear_after]
  have constructed := LexerBuilder.ofGraph_joined automatonBuilt
  have bears := LexerBuilder.bears_empty.addAll noLastLineEnd added
  rw [isNew]
  exact agreesOn_ofAutomaton (Automaton.ignores_of_ofGraph constructed bears.joined.1)
    (Automaton.endless_of_ofGraph constructed
      (LexerBuilder.enderLength_joined noEnder added)) text last

end Built

namespace Matcher

/-- Words at the start of a line, and one of them at the end of a line with another token. -/
def linePatterns : List (Pattern Nat) :=
  [⟨"^[a-z]+\\b", 1, {}, 0⟩, ⟨"ab$", 2, {}, 1⟩]

theorem agreesOn_linePatterns :
    ∃ builder matcher,
      LexerBuilder.empty.addAll linePatterns = .ok builder ∧
        builder.matcher = .ok matcher ∧
          (matcher.after ['x', '-']).clear.AgreesOn ['a'] 'b' ∧
            (((matcher.after ['x', '-']).clear.after ['a']).feed 'b').2.matched? = some 2 := by
  have evaluated :
      ((LexerBuilder.empty.addAll linePatterns).toOption.bind fun builder =>
        builder.matcher.toOption.map fun matcher =>
          (((matcher.after ['x', '-']).clear.after ['a']).feed 'b').2.matched?) =
        some (some 2) := by
    decide +kernel
  obtain ⟨builder, isBuilder, evaluated⟩ := Option.bind_eq_some_iff.mp evaluated
  obtain ⟨matcher, isMatcher, matched⟩ := Option.map_eq_some_iff.mp evaluated
  have added := ok_of_toOption isBuilder
  have built := ok_of_toOption isMatcher
  exact ⟨builder, matcher, added, built,
    agreesOn_of_built (by decide +kernel) (by decide +kernel) added built
      (Or.inr ⟨['x', '-'], rfl⟩) ['a'] 'b', matched⟩

end Matcher

end LexicalAutomata
