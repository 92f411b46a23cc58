import LexicalAutomata.Proofs.Matcher

namespace LexicalAutomata.Matcher

/-!
# Feeding a matcher in pieces

A text is fed up to the character with which the matcher fails.  The rest of it would change
nothing, so the pieces of a text lead to the same matcher as all its characters.  A piece is
answered by what has been told of its last character.  A piece without characters is answered
as if the matcher were new, whatever has been told before.
-/

variable {τ : Type}

/-- What has been told last when some more characters have been fed; `status` is what had been
told before them. -/
def told
    (status : Status)
    (matcher : Matcher τ) :
    List Char →
    Status
  | [] =>
      status
  | char :: rest =>
      (matcher.feed char).2.told (matcher.feed char).1 rest

/-- Feed texts one after the other, with the answer to each. -/
def feedTexts
    (matcher : Matcher τ) :
    List String →
    List Status × Matcher τ
  | [] =>
      ([], matcher)
  | text :: rest =>
      let answer := matcher.feedText text
      let answers := answer.2.feedTexts rest
      (answer.1 :: answers.1, answers.2)

/--
The matchers that can be had from an automaton, with what has been told of the last character
since they were new or cleared, or else that a match is possible.
-/
inductive Reached
    (automaton : Automaton τ) :
    Status →
    Matcher τ →
    Prop where
  | fresh :
      Reached automaton .possible (ofAutomaton automaton)
  | char
      {status : Status}
      {matcher : Matcher τ}
      (char : Char) :
      Reached automaton status matcher →
      Reached automaton (matcher.feed char).1 (matcher.feed char).2
  | text
      {status : Status}
      {matcher : Matcher τ}
      (text : String) :
      Reached automaton status matcher →
      Reached automaton (matcher.feedFrom status text.toList).1 (matcher.feedText text).2
  | cleared
      {status : Status}
      {matcher : Matcher τ} :
      Reached automaton status matcher →
      Reached automaton .possible matcher.clear

/-- The answers to a character, with what is known behind it. -/
inductive Feeds
    (matcher : Matcher τ) :
    Status × Matcher τ →
    Prop where
  | stuck :
      matcher.state = none →
      Feeds matcher (.failed, matcher)
  | failed {next : Matcher τ} :
      next.state = none →
      next.accepting = none →
      Feeds matcher (.failed, next)
  | accepted {next : Matcher τ} {id accepting : Nat} :
      next.state = some id →
      next.accepting = some accepting →
      Feeds matcher (.accepted, next)
  | possible {next : Matcher τ} {id : Nat} :
      next.state = some id →
      next.accepting = none →
      Feeds matcher (.possible, next)

/-- The matcher knows what has been told of the last character. -/
structure Tells
    (matcher : Matcher τ)
    (status : Status) : Prop where
  failed : status = .failed ↔ matcher.state = none
  accepted : status = .accepted ↔ matcher.accepting.isSome = true

/--
A matcher that has failed stays as it is.  It answers every character that it has failed, and so
it answers every text with characters; only clearing makes it new.
-/
structure StaysFailed
    (automaton : Automaton τ)
    (matcher : Matcher τ) : Prop where
  unmatched : matcher.matched? = none
  char : ∀ next, matcher.feed next = (.failed, matcher)
  text :
    ∀ later : String,
      matcher.feedText later = (if later = "" then .possible else .failed, matcher)
  cleared : matcher.clear = ofAutomaton automaton

section Feeding

variable {matcher : Matcher τ} {status : Status}

theorem told_append
    (matcher : Matcher τ)
    (status : Status)
    (text more : List Char) :
    matcher.told status (text ++ more) =
      (matcher.after text).told (matcher.told status text) more := by
  induction text generalizing matcher status with
  | nil =>
      rfl
  | cons char rest inductionHypothesis =>
      exact inductionHypothesis (matcher.feed char).2 (matcher.feed char).1

/-- What had been told before is forgotten with the first character. -/
theorem told_of_ne_nil
    {text : List Char}
    (nonempty : text ≠ [])
    (other : Status) :
    matcher.told status text = matcher.told other text := by
  cases text with
  | nil =>
      contradiction
  | cons char rest =>
      rfl

theorem feeds_feed
    (matcher : Matcher τ)
    (char : Char) :
    matcher.Feeds (matcher.feed char) := by
  cases state : matcher.state with
  | none =>
      rw [feed_of_failed state]
      exact .stuck state
  | some id =>
      rw [feed, state]
      dsimp only
      split
      · exact .failed rfl rfl
      · split
        · exact .accepted rfl rfl
        · exact .possible rfl rfl

/-- A matcher fails with a character just when there is no state behind it. -/
theorem Feeds.failed_iff
    {result : Status × Matcher τ}
    (feeds : matcher.Feeds result) :
    result.1 = .failed ↔ result.2.state = none := by
  cases feeds with
  | stuck state =>
      exact iff_of_true rfl state
  | failed state _ =>
      exact iff_of_true rfl state
  | accepted state _ =>
      simp [state]
  | possible state _ =>
      simp [state]

/-- What a matcher that has failed tells of more characters. -/
theorem told_of_failed
    (failed : matcher.state = none)
    (text : List Char) :
    matcher.told .failed text = .failed := by
  induction text with
  | nil =>
      rfl
  | cons char rest inductionHypothesis =>
      rw [told, feed_of_failed failed]
      exact inductionHypothesis

/-- Feeding until the matcher fails comes to the same as feeding every character. -/
theorem feedFrom_eq
    (matcher : Matcher τ)
    (status : Status)
    (text : List Char) :
    matcher.feedFrom status text = (matcher.told status text, matcher.after text) := by
  induction text generalizing matcher status with
  | nil =>
      rfl
  | cons char rest inductionHypothesis =>
      have behind := inductionHypothesis (matcher.feed char).2 (matcher.feed char).1
      rw [feedFrom]
      split
      · -- The rest is not fed; it would change nothing and be answered by the same failure.
        rename_i next fed
        have feeds := matcher.feeds_feed char
        rw [fed] at feeds
        have failed : next.state = none := feeds.failed_iff.mp rfl
        rw [told, fed, told_of_failed failed, after, List.foldl_cons, fed]
        exact congrArg (Prod.mk _) (after_of_failed failed rest).symm
      · rename_i next _ fed
        have stepped : matcher.after (char :: rest) = next.after rest := by
          rw [after, List.foldl_cons, fed]
          rfl
        rw [fed] at behind
        rw [behind, stepped, told, fed]

/-- A piece is fed with all its characters. -/
theorem feedText_snd
    (matcher : Matcher τ)
    (text : String) :
    (matcher.feedText text).2 = matcher.after text.toList := by
  rw [feedText, feedFrom_eq]

/-- A piece without characters is answered as if the matcher were new. -/
theorem feedText_fst
    (matcher : Matcher τ)
    (status : Status)
    (text : String) :
    (matcher.feedText text).1 =
      if text = "" then .possible else matcher.told status text.toList := by
  rw [feedText, feedFrom_eq]
  split
  · rename_i isEmpty
    rw [isEmpty]
    rfl
  · rename_i nonempty
    have isFed : text.toList ≠ [] :=
      fun isNil => nonempty (String.toList_eq_nil_iff.mp isNil)
    exact told_of_ne_nil isFed status

/-- The pieces lead where all their characters lead. -/
theorem feedTexts_snd
    (matcher : Matcher τ)
    (pieces : List String) :
    (matcher.feedTexts pieces).2 = matcher.after (pieces.flatMap String.toList) := by
  induction pieces generalizing matcher with
  | nil =>
      rfl
  | cons piece rest inductionHypothesis =>
      rw [List.flatMap_cons, after_append, ← feedText_snd]
      exact inductionHypothesis (matcher.feedText piece).2

/-- What has been told of one more character is known behind it. -/
theorem Feeds.tells
    {result : Status × Matcher τ}
    (feeds : matcher.Feeds result)
    (tells : matcher.Tells status) :
    result.2.Tells result.1 := by
  refine ⟨feeds.failed_iff, ?_⟩
  cases feeds with
  | stuck state =>
      have unaccepted := tells.accepted
      rw [tells.failed.mpr state] at unaccepted
      exact unaccepted
  | failed _ accepting =>
      simp [accepting]
  | accepted _ accepting =>
      simp [accepting]
  | possible _ accepting =>
      simp [accepting]

theorem Tells.after
    (tells : matcher.Tells status)
    (text : List Char) :
    (matcher.after text).Tells (matcher.told status text) := by
  induction text generalizing matcher status with
  | nil =>
      exact tells
  | cons char rest inductionHypothesis =>
      exact inductionHypothesis ((matcher.feeds_feed char).tells tells)

theorem tells_ofAutomaton
    (automaton : Automaton τ) :
    (ofAutomaton automaton).Tells .possible :=
  ⟨iff_of_false (by simp) (by simp [ofAutomaton]), iff_of_false (by simp) (by simp [ofAutomaton])⟩

theorem Reached.tells
    {automaton : Automaton τ}
    (reached : Reached automaton status matcher) :
    matcher.Tells status := by
  induction reached with
  | fresh =>
      exact tells_ofAutomaton automaton
  | char char _ inductionHypothesis =>
      exact (feeds_feed _ char).tells inductionHypothesis
  | text text _ inductionHypothesis =>
      rw [feedText_snd, feedFrom_eq]
      exact inductionHypothesis.after text.toList
  | cleared _ _ =>
      exact tells_ofAutomaton _

theorem Reached.automaton_eq
    {automaton : Automaton τ}
    (reached : Reached automaton status matcher) :
    matcher.automaton = automaton := by
  induction reached with
  | fresh =>
      rfl
  | char char _ inductionHypothesis =>
      rw [automaton_feed, inductionHypothesis]
  | text text _ inductionHypothesis =>
      rw [feedText_snd, automaton_after, inductionHypothesis]
  | cleared _ inductionHypothesis =>
      exact inductionHypothesis

theorem Reached.after
    {automaton : Automaton τ}
    (reached : Reached automaton status matcher)
    (text : List Char) :
    Reached automaton (matcher.told status text) (matcher.after text) := by
  induction text generalizing matcher status with
  | nil =>
      exact reached
  | cons char rest inductionHypothesis =>
      exact inductionHypothesis (reached.char char)

theorem feedTexts_concat
    (matcher : Matcher τ)
    (pieces : List String)
    (last : String) :
    (matcher.feedTexts (pieces ++ [last])).1 =
      (matcher.feedTexts pieces).1 ++ [((matcher.feedTexts pieces).2.feedText last).1] := by
  induction pieces generalizing matcher with
  | nil =>
      rfl
  | cons piece rest inductionHypothesis =>
      exact congrArg ((matcher.feedText piece).1 :: ·)
        (inductionHypothesis (matcher.feedText piece).2)

/-- The last piece is answered by what has been told of the whole text, unless it is empty. -/
theorem getLast?_feedTexts
    (matcher : Matcher τ)
    (status : Status)
    (pieces : List String) :
    (matcher.feedTexts pieces).1.getLast? =
      pieces.getLast?.map fun last =>
        if last = "" then .possible
        else matcher.told status (pieces.flatMap String.toList) := by
  induction pieces using List.reverseRecOn with
  | nil =>
      rfl
  | append_singleton pieces last _ =>
      have wholly :
          matcher.told status ((pieces ++ [last]).flatMap String.toList) =
            (matcher.feedTexts pieces).2.told
              (matcher.told status (pieces.flatMap String.toList)) last.toList := by
        rw [feedTexts_snd, ← told_append, List.flatMap_append, List.flatMap_singleton]
      rw [feedTexts_concat, List.getLast?_concat, List.getLast?_concat, Option.map_some, wholly,
        feedText_fst]

theorem Reached.staysFailed
    {automaton : Automaton τ}
    (reached : Reached automaton .failed matcher) :
    StaysFailed automaton matcher := by
  have failed : matcher.state = none := reached.tells.failed.mp rfl
  have unaccepted : matcher.accepting = none := by
    rw [← Option.not_isSome_iff_eq_none, ← reached.tells.accepted]
    simp
  refine
    { unmatched := ?_
      char := feed_of_failed failed
      text := fun later => Prod.ext ?_ ?_
      cleared := ?_ }
  · rw [matched?, unaccepted]
    rfl
  · rw [matcher.feedText_fst .failed, told_of_failed failed]
  · rw [feedText_snd, after_of_failed failed]
  · rw [clear, ofAutomaton, reached.automaton_eq]

/--
From every state, the pieces of a text lead to the same matcher as its characters.  The last
piece is answered by what has been told of the last character, but that a match is possible if it
is empty.  Once it has been told that the matcher has failed, it stays so until it is cleared.
-/
theorem feedTexts_of_reached
    {automaton : Automaton τ}
    (reached : Reached automaton status matcher)
    (pieces : List String) :
    let text := pieces.flatMap String.toList
    let fed := matcher.feedTexts pieces
    fed.2 = matcher.after text ∧
      fed.1.getLast? =
        pieces.getLast?.map
          (fun last => if last = "" then .possible else matcher.told status text) ∧
      fed.2.Tells (matcher.told status text) ∧
      (matcher.told status text = .failed → StaysFailed automaton fed.2) := by
  intro text fed
  have together : fed.2 = matcher.after text := matcher.feedTexts_snd pieces
  have reachedBehind : Reached automaton (matcher.told status text) fed.2 := by
    rw [together]
    exact reached.after text
  refine ⟨together, matcher.getLast?_feedTexts status pieces, reachedBehind.tells, fun failed => ?_⟩
  rw [failed] at reachedBehind
  exact reachedBehind.staysFailed

end Feeding

/-- A word that ends at a word boundary. -/
def wordPattern : List (Pattern Nat) :=
  [⟨"ab*\\b", 1, {}, 0⟩]

theorem feedTexts_wordPattern :
    ∃ builder matcher,
      LexerBuilder.empty.addAll wordPattern = .ok builder ∧
        builder.matcher = .ok matcher ∧
          Reached matcher.automaton (matcher.feed 'a').1 (matcher.feed 'a').2 ∧
            ((matcher.feed 'a').2.feedTexts ["b", "", "-b"]).2 = (matcher.after "ab-b".toList) ∧
              ((matcher.feed 'a').2.feedTexts ["b", "", "-b"]).1.getLast? = some .failed ∧
                StaysFailed matcher.automaton
                  ((matcher.feed 'a').2.feedTexts ["b", "", "-b"]).2 := by
  have evaluated :
      ((LexerBuilder.empty.addAll wordPattern).toOption.bind fun builder =>
        builder.matcher.toOption.map fun matcher =>
          (matcher.feed 'a').2.told (matcher.feed 'a').1 "b-b".toList) = some .failed := by
    decide +kernel
  obtain ⟨builder, isBuilder, evaluated⟩ := Option.bind_eq_some_iff.mp evaluated
  obtain ⟨matcher, isMatcher, failed⟩ := Option.map_eq_some_iff.mp evaluated
  have built := ok_of_toOption isMatcher
  obtain ⟨automaton, _, rfl⟩ := exists_of_map_eq_ok built
  have begins : Reached automaton .possible (ofAutomaton automaton) :=
    .fresh
  have reached := begins.char 'a'
  obtain ⟨together, answered, _, staysFailed⟩ := feedTexts_of_reached reached ["b", "", "-b"]
  exact ⟨builder, _, ok_of_toOption isBuilder, built, reached, together,
    answered.trans (congrArg some failed), staysFailed failed⟩

/--
A piece without characters is answered by a possible match, both behind a match and behind a
failure.
-/
theorem feedTexts_emptyPiece :
    ∃ builder matcher,
      LexerBuilder.empty.addAll wordPattern = .ok builder ∧
        builder.matcher = .ok matcher ∧
          (matcher.feedTexts ["a", ""]).1 = [.accepted, .possible] ∧
            matcher.told .possible "a".toList = .accepted ∧
              (matcher.feedTexts ["b", ""]).1 = [.failed, .possible] ∧
                matcher.told .possible "b".toList = .failed := by
  have evaluated :
      ((LexerBuilder.empty.addAll wordPattern).toOption.bind fun builder =>
        builder.matcher.toOption.map fun matcher =>
          ((matcher.feedTexts ["a", ""]).1, matcher.told .possible "a".toList,
            (matcher.feedTexts ["b", ""]).1, matcher.told .possible "b".toList)) =
        some ([.accepted, .possible], .accepted, [.failed, .possible], .failed) := by
    decide +kernel
  obtain ⟨builder, isBuilder, evaluated⟩ := Option.bind_eq_some_iff.mp evaluated
  obtain ⟨matcher, isMatcher, answers⟩ := Option.map_eq_some_iff.mp evaluated
  simp only [Prod.mk.injEq] at answers
  exact ⟨builder, matcher, ok_of_toOption isBuilder, ok_of_toOption isMatcher, answers⟩

end LexicalAutomata.Matcher
