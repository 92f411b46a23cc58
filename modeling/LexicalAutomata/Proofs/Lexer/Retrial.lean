import LexicalAutomata.Lexer.Stream
import LexicalAutomata.Proofs.Lexer.Passes
import LexicalAutomata.Proofs.Lexer.Patterns
import LexicalAutomata.Proofs.Stream.Failing
import LexicalAutomata.Unicode.Property

namespace LexicalAutomata.Lexer

/-!
# A call for a token that fails may be made again

A call for the next token either finds out what the tape of the reader says, or it fails in
its look ahead.  When it fails it has read nothing, so a later call finds the token that the
first one would have found if the source had not failed.
-/

variable {τ : Type}

/-- What a call for a token gives for a tape, and what it leaves of the tape. -/
def tokenOf
    (lexer : Lexer τ)
    (tape : Tape) :
    Except (Error τ) (Option (τ × List Char)) × Tape :=
  match tape.future with
  | [] =>
      (.ok none, tape)
  | _ :: _ =>
      match lexer.tokenAt? tape.place with
      | none =>
          (.error (.text ⟨.noToken, tape.history.length⟩), tape)
      | some (token, length) =>
          (.ok (some (token, tape.future.take length)), (tape.advance length).clear)

/-- What the source of a reader is still to fail for has nothing to do with its tokens. -/
theorem tokenOf_failing
    (lexer : Lexer τ)
    (tape : Tape)
    (later : List String) :
    lexer.tokenOf (tape.failing later) =
      ((lexer.tokenOf tape).1, (lexer.tokenOf tape).2.failing later) := by
  have future : (tape.failing later).future = tape.future :=
    rfl
  have place : (tape.failing later).place = tape.place :=
    rfl
  rw [tokenOf, tokenOf, future, place]
  cases tape.future with
  | nil =>
      rfl
  | cons =>
      dsimp only
      cases lexer.tokenAt? tape.place <;> rfl

/-- The length of a token is that of the run that was found. -/
theorem exists_found_of_accepted?
    {lexer : Lexer τ}
    {found : Option Found}
    {token : τ}
    {length : Nat}
    (accepted : lexer.accepted? found = some (token, length)) :
    ∃ best, found = some best ∧ best.length = length := by
  unfold accepted? at accepted
  split at accepted
  · contradiction
  · split at accepted
    · contradiction
    · obtain ⟨_, _, same⟩ := Option.map_eq_some_iff.mp accepted
      exact ⟨_, rfl, congrArg Prod.snd same⟩

section Holds

variable {lexer : Lexer τ} {reader middle last : Reader} {tape : Tape} {char : Char}
  {rest : List Char}

/-- Where the scan has come to an end, the token that it has found is read. -/
theorem nextToken_of_longestIn
    (peeked : reader.peek 0 = (.ok (some char), middle))
    (scanned :
      lexer.automaton.longestIn middle middle.position =
        (.ok (lexer.automaton.longestAt tape.place tape.place.offset), last))
    (position : middle.position = tape.history.length)
    (ahead : tape.future = char :: rest)
    (holds : last.Holds tape) :
    ∃ next,
      lexer.nextToken reader = ((lexer.tokenOf tape).1, next) ∧
        next.Holds (lexer.tokenOf tape).2 := by
  have found :
      lexer.accepted? (lexer.automaton.longestAt tape.place tape.place.offset) =
        lexer.tokenAt? tape.place :=
    rfl
  cases isToken : lexer.tokenAt? tape.place with
  | none =>
      refine ⟨last, ?_, ?_⟩
      · simp only [nextToken, peeked, scanned, found, tokenOf, ahead, isToken]
        rw [position]
      · simp only [tokenOf, ahead, isToken]
        exact holds
  | some token =>
      obtain ⟨token, length⟩ := token
      obtain ⟨best, isBest, rfl⟩ := exists_found_of_accepted? isToken
      rw [isBest] at scanned found
      obtain ⟨next, took, nextHolds⟩ :=
        holds.takeUpTo_of_buffered (Reader.inside_of_longestIn scanned)
      refine ⟨next.clear, ?_, ?_⟩
      · simp only [nextToken, peeked, scanned, found, tokenOf, ahead, isToken, took]
      · simp only [tokenOf, ahead, isToken]
        exact nextHolds.clear

/-- A call for a token finds what the tape says, or it fails and leaves the tape. -/
theorem nextToken_of_holds
    (lexer : Lexer τ)
    (holds : reader.Holds tape) :
    (∃ next,
        lexer.nextToken reader = ((lexer.tokenOf tape).1, next) ∧
          next.Holds (lexer.tokenOf tape).2) ∨
      ∃ reason later next,
        tape.reasons = reason :: later ∧
          lexer.nextToken reader = (.error (.stream (.failed reason)), next) ∧
            next.Holds (tape.failing later) := by
  obtain ⟨middle, peeked, middleHolds⟩ | ⟨reason, later, middle, same, failed, middleHolds⟩ :=
    holds.answers (holds.expects.peek 0)
  · cases ahead : tape.future with
    | nil =>
        rw [ahead] at peeked
        refine Or.inl ⟨middle, ?_, ?_⟩
        · simp only [nextToken, peeked, tokenOf, ahead]
          rfl
        · simp only [tokenOf, ahead]
          exact middleHolds
    | cons char rest =>
        rw [ahead] at peeked
        have position : middle.position = tape.history.length :=
          middleHolds.shows.position
        have marks := tape.follows_place.marks
        rw [← position] at marks
        obtain ⟨last, scanned, lastHolds⟩ | ⟨reason, later, last, same, scanned, lastHolds⟩ :=
          middleHolds.longestIn lexer.automaton marks
        · exact Or.inl (nextToken_of_longestIn peeked scanned position ahead lastHolds)
        · refine Or.inr ⟨reason, later, last, same, ?_, lastHolds⟩
          simp only [nextToken, peeked, List.getElem?_cons_zero, scanned]
  · refine Or.inr ⟨reason, later, middle, same, ?_, middleHolds⟩
    simp only [nextToken, failed]

end Holds

/-- The readers that come of one by operations and by calls for tokens. -/
inductive Reaches
    (lexer : Lexer τ)
    (reader : Reader) :
    Reader →
    Prop
  | start :
      Reaches lexer reader reader
  | operation {next : Reader} (operation : Reader.Operation) :
      Reaches lexer reader next →
      Reaches lexer reader (next.perform operation).2
  | token {next : Reader} :
      Reaches lexer reader next →
      Reaches lexer reader (lexer.nextToken next).2

/-- The readers that come of one by calls for a token that fail because the source does. -/
inductive Retries
    (lexer : Lexer τ)
    (reader : Reader) :
    Reader →
    Prop
  | start :
      Retries lexer reader reader
  | again {next : Reader} {fault : StreamFault} :
      Retries lexer reader next →
      (lexer.nextToken next).1 = .error (.stream fault) →
      Retries lexer reader (lexer.nextToken next).2

section Reaches

variable {lexer : Lexer τ} {reader next : Reader} {tape : Tape}

/-- Whatever is done with a reader and a lexer, the reader holds a tape. -/
theorem Reaches.exists_holds
    (reached : lexer.Reaches reader next)
    (holds : reader.Holds tape) :
    ∃ later, next.Holds later := by
  induction reached with
  | start =>
      exact ⟨tape, holds⟩
  | operation operation _ inductionHypothesis =>
      obtain ⟨middle, middleHolds⟩ := inductionHypothesis
      obtain ⟨last, _, lastHolds⟩ := middleHolds.perform operation
      exact ⟨last, lastHolds⟩
  | token _ inductionHypothesis =>
      obtain ⟨middle, middleHolds⟩ := inductionHypothesis
      obtain ⟨last, found, lastHolds⟩ | ⟨reason, later, last, _, failed, lastHolds⟩ :=
        lexer.nextToken_of_holds middleHolds
      · rw [found]
        exact ⟨_, lastHolds⟩
      · rw [failed]
        exact ⟨_, lastHolds⟩

/-- The tape itself has no token for no other reason than that none is at its place. -/
theorem tokenOf_of_error
    {error : Error τ}
    (fails : (lexer.tokenOf tape).1 = .error error) :
    error = .text ⟨.noToken, tape.history.length⟩ ∧ (lexer.tokenOf tape).2 = tape := by
  unfold tokenOf at fails ⊢
  split
  · rename_i ended
    rw [ended] at fails
    contradiction
  · rename_i ahead
    rw [ahead] at fails
    dsimp only at fails
    split at fails
    · cases fails
      exact ⟨rfl, rfl⟩
    · contradiction

/-- A call that fails leaves the tape, but for the reasons why the source is to fail. -/
theorem holds_of_error
    (holds : reader.Holds tape)
    {error : Error τ}
    (fails : (lexer.nextToken reader).1 = .error error) :
    (∃ later, (lexer.nextToken reader).2.Holds (tape.failing later)) ∧
      (error = .text ⟨.noToken, reader.position⟩ ∨
        ∃ reason, .failure reason ∈ reader.source ∧ error = .stream (.failed reason)) := by
  obtain ⟨next, found, nextHolds⟩ | ⟨reason, later, next, same, failed, nextHolds⟩ :=
    lexer.nextToken_of_holds holds
  · rw [found] at fails ⊢
    obtain ⟨isText, stays⟩ := tokenOf_of_error fails
    rw [stays] at nextHolds
    exact ⟨⟨tape.reasons, nextHolds⟩, Or.inl (holds.shows.position ▸ isText)⟩
  · rw [failed] at fails ⊢
    cases fails
    exact ⟨⟨later, nextHolds⟩, Or.inr ⟨reason, holds.failure_mem (same ▸ List.mem_cons_self), rfl⟩⟩

/-- Calls that fail, one behind the other, leave the tape. -/
theorem Retries.exists_holds
    (retries : lexer.Retries reader next)
    (holds : reader.Holds tape) :
    ∃ later, next.Holds (tape.failing later) := by
  induction retries with
  | start =>
      exact ⟨tape.reasons, holds⟩
  | again _ fails inductionHypothesis =>
      obtain ⟨later, middleHolds⟩ := inductionHypothesis
      exact (holds_of_error middleHolds fails).1

end Reaches

/--
A call for a token that fails leaves the reader where it was: with the same position, previous
character, consumed characters and unread characters.  It fails because no token is at the
place of the reader, or because the source does.  After any number of calls that failed because
the source did, one more call fails for a failure that the source still has, or it gives what the
first call would have given if the source had not failed.
-/
theorem nextToken_retries
    (lexer : Lexer τ)
    {text : List Char}
    {source : Source}
    {reasons : List String}
    (relays : source.Relays (Utf8.encode text) reasons)
    {reader : Reader}
    (reached : lexer.Reaches (.ofSource source) reader) :
    (∀ error,
      (lexer.nextToken reader).1 = .error error →
        (lexer.nextToken reader).2.SameStream reader ∧
          (error = .text ⟨.noToken, reader.position⟩ ∨
            ∃ reason, .failure reason ∈ reader.source ∧ error = .stream (.failed reason))) ∧
      ∀ next,
        lexer.Retries reader next →
          next.SameStream reader ∧
            ((∃ reason,
                .failure reason ∈ next.source ∧
                  (lexer.nextToken next).1 = .error (.stream (.failed reason))) ∨
              (lexer.nextToken next).1 = (lexer.nextToken reader.steady).1 ∧
                (lexer.nextToken next).2.SameStream (lexer.nextToken reader.steady).2) := by
  obtain ⟨tape, holds⟩ := reached.exists_holds (Reader.holds_ofSource relays)
  have failing : reader.Holds (tape.failing tape.reasons) :=
    holds
  constructor
  · intro error fails
    obtain ⟨⟨later, nextHolds⟩, cause⟩ := holds_of_error holds fails
    exact ⟨nextHolds.sameStream failing, cause⟩
  · intro next retries
    obtain ⟨later, nextHolds⟩ := retries.exists_holds holds
    refine ⟨nextHolds.sameStream failing, ?_⟩
    obtain ⟨last, found, lastHolds⟩ | ⟨reason, others, last, same, failed, _⟩ :=
      lexer.nextToken_of_holds nextHolds
    · right
      obtain ⟨steadyLast, steadyFound, steadyHolds⟩ | ⟨_, _, _, impossible, _⟩ :=
        lexer.nextToken_of_holds holds.steady
      · rw [tokenOf_failing] at lastHolds steadyHolds
        rw [found, steadyFound, tokenOf_failing, tokenOf_failing]
        exact ⟨rfl, lastHolds.sameStream steadyHolds⟩
      · contradiction
    · left
      refine ⟨reason, nextHolds.failure_mem (same ▸ List.mem_cons_self), ?_⟩
      rw [failed]

/-- The fault of a stream that a result reports. -/
def streamFault?
    {α : Type} :
    Except (Error τ) α →
    Option StreamFault
  | .error (.stream fault) =>
      some fault
  | _ =>
      none

theorem eq_error_of_streamFault?
    {α : Type}
    {result : Except (Error τ) α}
    {fault : StreamFault}
    (reported : streamFault? result = some fault) :
    result = .error (.stream fault) := by
  unfold streamFault? at reported
  split at reported
  · cases reported
    rfl
  · contradiction

/-- A word, which is followed by a boundary, and a letter. -/
def guardedPatterns : List (Pattern Nat) :=
  [⟨"ab\\b", 0, {}, 0⟩, ⟨"a", 1, {}, 0⟩]

/-- A source that fails while the boundary behind the word looks ahead. -/
def boundaryFailure : Source :=
  [.chunk [0x61, 0x62, 0xC3], .failure "source failed", .interrupted, .chunk [0xA9]]

/-- The first call fails in its look ahead and reads nothing; the second one finds the letter,
as the first one would have done. -/
theorem nextToken_retries_boundaryFailure :
    boundaryFailure.Relays (Utf8.encode "abé".toList) ["source failed"] ∧
      ∃ builder lexer,
        LexerBuilder.empty.addAll guardedPatterns = .ok builder ∧
          builder.build = .ok lexer ∧
            let reader := Reader.ofSource boundaryFailure
            let next := (lexer.nextToken reader).2
            lexer.Reaches reader reader ∧
              (lexer.nextToken reader).1 = .error (.stream (.failed "source failed")) ∧
                next.SameStream reader ∧
                  (lexer.nextToken next).1 = .ok (some (1, ['a'])) ∧
                    (lexer.nextToken next).1 = (lexer.nextToken reader.steady).1 := by
  have relays : boundaryFailure.Relays (Utf8.encode "abé".toList) ["source failed"] :=
    .chunk (by decide) (.failure (.interrupted (.chunk (by decide) .ended)))
  refine ⟨relays, ?_⟩
  obtain ⟨builder, lexer, added, built, evaluated⟩ :=
    LexerBuilder.exists_built guardedPatterns
      (fun lexer =>
        let first := lexer.nextToken (.ofSource boundaryFailure)
        (streamFault? first.1, (lexer.nextToken first.2).1.toOption))
      (some (.failed "source failed"), some (some (1, ['a']))) (by decide +kernel)
  obtain ⟨first, second⟩ := Prod.mk.inj evaluated
  have fails := eq_error_of_streamFault? first
  have succeeds := ok_of_toOption second
  have reached : lexer.Reaches (.ofSource boundaryFailure) (.ofSource boundaryFailure) :=
    .start
  obtain ⟨stays, again⟩ := nextToken_retries lexer relays reached
  obtain ⟨_, ⟨_, _, failsAgain⟩ | ⟨same, _⟩⟩ := again _ (.again .start fails)
  · rw [succeeds] at failsAgain
    contradiction
  · exact ⟨builder, lexer, added, built, reached, fails, (stays _ fails).1, succeeds, same⟩

end LexicalAutomata.Lexer
