import LexicalAutomata.Lexer.Stream
import LexicalAutomata.Proofs.Lexer.Passes
import LexicalAutomata.Proofs.Lexer.Patterns
import LexicalAutomata.Proofs.Regex.Match
import LexicalAutomata.Proofs.Stream.Scan
import LexicalAutomata.Proofs.Stream.Tape
import LexicalAutomata.Unicode.Property

namespace LexicalAutomata

/-!
# The tokens of a stream are those of its text

A lexer that reads its tokens from a stream looks ahead from the reader and drops what it has
read, and still finds at every place what it finds in the text.  It ends where the text ends,
or at the character at which the text has no token.
-/

variable {τ : Type}

namespace Lexer

/--
The tokens that a lexer reads, one behind the other, until it has come to the end of the
stream or has met an error.
-/
inductive Reads
    (lexer : Lexer τ) :
    Reader →
    List (τ × List Char) →
    Except (Error τ) Unit →
    Reader →
    Prop
  | ended {reader next : Reader} :
      lexer.nextToken reader = (.ok none, next) →
      Reads lexer reader [] (.ok ()) next
  | failed {reader next : Reader} {error : Error τ} :
      lexer.nextToken reader = (.error error, next) →
      Reads lexer reader [] (.error error) next
  | token {reader next last : Reader} {token : τ × List Char} {others : List (τ × List Char)}
      {ending : Except (Error τ) Unit} :
      lexer.nextToken reader = (.ok (some token), next) →
      Reads lexer next others ending last →
      Reads lexer reader (token :: others) ending last

section IsAt

variable {lexer : Lexer τ} {reader : Reader} {text : List Char} {place stop : Place}
  {tokens : List (τ × List Char)}

/-- At the end of the text there is no next token. -/
theorem nextToken_of_end
    (lexer : Lexer τ)
    (isAt : reader.IsAt text place)
    (ended : place.rest = []) :
    ∃ next, lexer.nextToken reader = (.ok none, next) ∧ next.IsAt text place := by
  obtain ⟨next, peeked, grows, unread⟩ := isAt.unread.peek 0
  rw [ended] at peeked
  refine ⟨next, ?_, isAt.grows grows unread⟩
  simp only [nextToken, peeked]
  rfl

/-- In front of the end, a look ahead finds what the text has at the place of the reader. -/
theorem longestIn_of_rest
    (lexer : Lexer τ)
    (isAt : reader.IsAt text place)
    (ahead : place.rest ≠ []) :
    ∃ char middle next,
      reader.peek 0 = (.ok (some char), middle) ∧
        middle.position = reader.position ∧
          lexer.automaton.longestIn middle reader.position =
              (.ok (lexer.automaton.longestAt place place.offset), next) ∧
            next.IsAt text place := by
  obtain ⟨middle, peeked, grows, unread⟩ := isAt.unread.peek 0
  obtain ⟨char, rest, whole⟩ := List.exists_cons_of_ne_nil ahead
  have middleAt := isAt.grows grows unread
  obtain ⟨next, scanned, nextAt⟩ :=
    lexer.automaton.longestIn_of_isAt middleAt middleAt.follows
  rw [whole, List.getElem?_cons_zero] at peeked
  rw [grows.position_eq] at scanned
  exact ⟨char, middle, next, peeked, grows.position_eq, scanned, nextAt⟩

theorem nextToken_of_stuck
    (isAt : reader.IsAt text place)
    (ahead : place.rest ≠ [])
    (stuck : lexer.tokenAt? place = none) :
    ∃ next,
      lexer.nextToken reader = (.error (.text ⟨.noToken, reader.position⟩), next) ∧
        next.IsAt text place := by
  obtain ⟨char, middle, next, peeked, same, scanned, nextAt⟩ :=
    longestIn_of_rest lexer isAt ahead
  rw [tokenAt?] at stuck
  refine ⟨next, ?_, nextAt⟩
  simp only [nextToken, peeked, same, scanned, stuck]

/-- A token is read as it stands in the text. -/
theorem nextToken_of_token
    (isAt : reader.IsAt text place)
    {token : τ}
    {length : Nat}
    (found : lexer.tokenAt? place = some (token, length)) :
    ∃ next,
      lexer.nextToken reader = (.ok (some (token, place.rest.take length)), next) ∧
        next.IsAt text (place.advance length) := by
  have le := tokenAt?_length_le found
  have ahead : place.rest ≠ [] :=
    List.ne_nil_of_length_pos (Nat.lt_of_lt_of_le (tokenAt?_length_pos found) le)
  obtain ⟨char, middle, next, peeked, same, scanned, nextAt⟩ :=
    longestIn_of_rest lexer isAt ahead
  obtain ⟨behind, took, behindAt⟩ := nextAt.takeOnto #[] le
  rw [tokenAt?] at found
  refine ⟨behind.clear, ?_, behindAt.clear⟩
  simp only [nextToken, peeked, same, scanned, found, Reader.takeUpTo, took]
  rfl

/-- The tokens of the text are read up to its end. -/
theorem reads_of_end
    (passes : lexer.Passes place tokens stop)
    (isAt : reader.IsAt text place)
    (ended : stop.rest = []) :
    ∃ last, lexer.Reads reader tokens (.ok ()) last ∧ last.IsAt text stop := by
  induction passes generalizing reader with
  | nil =>
      obtain ⟨last, result, lastAt⟩ := nextToken_of_end lexer isAt ended
      exact ⟨last, .ended result, lastAt⟩
  | cons found _ inductionHypothesis =>
      obtain ⟨next, result, nextAt⟩ := nextToken_of_token isAt found
      obtain ⟨last, reads, lastAt⟩ := inductionHypothesis nextAt ended
      exact ⟨last, .token result reads, lastAt⟩

/-- The tokens of the text are read up to the place where it has no token. -/
theorem reads_of_stuck
    (passes : lexer.Passes place tokens stop)
    (isAt : reader.IsAt text place)
    (ahead : stop.rest ≠ [])
    (stuck : lexer.tokenAt? stop = none) :
    ∃ last,
      lexer.Reads reader tokens (.error (.text ⟨.noToken, last.position⟩)) last ∧
        last.IsAt text stop := by
  induction passes generalizing reader with
  | nil =>
      obtain ⟨last, result, lastAt⟩ := nextToken_of_stuck isAt ahead stuck
      have same : last.position = reader.position :=
        (lastAt.follows.offset_eq_iff isAt.follows).mp rfl
      rw [← same] at result
      exact ⟨last, .failed result, lastAt⟩
  | cons found _ inductionHypothesis =>
      obtain ⟨next, result, nextAt⟩ := nextToken_of_token isAt found
      obtain ⟨last, reads, lastAt⟩ := inductionHypothesis nextAt ahead stuck
      exact ⟨last, .token result reads, lastAt⟩

end IsAt

/-- The end of a match in bytes is behind its characters. -/
theorem endOffset_eq
    {automaton : Automaton τ}
    {text : List Char}
    {place : Place}
    {searchStart count : Nat}
    (follows : place.Follows text count)
    {found : Found}
    (isFound : automaton.longestAt place searchStart = some found) :
    found.endOffset place = Text.byteLength (text.take (count + found.length)) := by
  have bound := Automaton.length_scanFrom_le (by simp) isFound
  rw [Nat.zero_add] at bound
  rw [Found.endOffset, ← Place.offset_advance]
  exact (follows.advance found.length bound).offset_eq

/--
A lexer finds in a stream what it finds in its text.  After any operations that insert
nothing, a look ahead finds what the lexer finds at the same place of the text, and reads
nothing.  The tokens that are read one behind the other are those of the text, up to the end
of the text or to the place where it has no token.
-/
theorem stream_tokens_eq_text
    (lexer : Lexer τ)
    (text : String)
    {source : Source}
    (delivers : source.Delivers (Utf8.encode text.toList)) :
    (∀ operations : List Reader.Operation,
      (∀ operation ∈ operations, operation.Keeps) →
        let reader := (Reader.ofSource source).after operations
        let place := (Place.start text.toList).advance reader.position
        reader.position ≤ text.toList.length ∧
          ∀ searchStart : Nat,
            let found :=
              lexer.automaton.longestAt place (Place.offsetBehind text.toList searchStart)
            (∀ best ∈ found,
              best.endOffset place =
                Text.byteLength (text.toList.take (reader.position + best.length))) ∧
              ∃ next,
                lexer.automaton.longestIn reader searchStart = (.ok found, next) ∧
                  next.position = reader.position ∧ next.previous = reader.previous ∧
                    next.consumed = reader.consumed ∧
                      (next.readOnto #[]).1 = .ok place.rest) ∧
      ∃ tokens stop last,
        lexer.Passes (.start text.toList) tokens stop ∧
          stop.Follows text.toList last.position ∧
            (stop.rest = [] ∧
                lexer.tokenize text = .ok (tokens.map fun token => (token.1, .ofList token.2)) ∧
                  lexer.Reads (.ofSource source) tokens (.ok ()) last ∨
              stop.rest ≠ [] ∧
                lexer.tokenize text = .error ⟨.noToken, stop.offset⟩ ∧
                  lexer.Reads (.ofSource source) tokens
                    (.error (.text ⟨.noToken, last.position⟩)) last) := by
  constructor
  · intro operations keep reader place
    have isAt : reader.IsAt text.toList place := Reader.isAt_after delivers keep
    refine ⟨isAt.follows.le_length, ?_⟩
    intro searchStart found
    refine ⟨fun best isFound => endOffset_eq isAt.follows isFound, ?_⟩
    obtain ⟨next, scanned, grows, nextAt⟩ :=
      lexer.automaton.longestIn_of_marks isAt (Place.marks_offsetBehind _ searchStart)
    exact ⟨next, scanned, grows.position_eq, grows.previous_eq, grows.consumed_eq,
      nextAt.readOnto_eq⟩
  · have isAt := Reader.isAt_ofSource delivers
    obtain ⟨tokens, stop, passes, ⟨ended, same⟩ | ⟨ahead, stuck, same⟩⟩ :=
      lexer.passes_tokensFrom (.start text.toList)
    · obtain ⟨last, reads, lastAt⟩ := reads_of_end passes isAt ended
      refine ⟨tokens, stop, last, passes, lastAt.follows, Or.inl ⟨ended, ?_, reads⟩⟩
      rw [tokenize, same]
      rfl
    · obtain ⟨last, reads, lastAt⟩ := reads_of_stuck passes isAt ahead stuck
      refine ⟨tokens, stop, last, passes, lastAt.follows, Or.inr ⟨ahead, ?_, reads⟩⟩
      rw [tokenize, same]
      rfl

/-- Words, an accented letter at the edge of a word, and spaces. -/
def accentedPatterns : List (Pattern Nat) :=
  [⟨"[a-z]+", 0, {}, 0⟩, ⟨"\\bé", 1, {}, 0⟩, ⟨" ", 2, {}, 0⟩]

/-- The byte at which the text has no token is not the number of characters in front of it. -/
theorem stream_tokens_strayCharacter :
    let source := (Source.ofBytes 1 (Utf8.encode "a é?".toList)).interrupting
    ∃ builder lexer,
      LexerBuilder.empty.addAll accentedPatterns = .ok builder ∧
        builder.build = .ok lexer ∧
          lexer.tokenize "a é?" = .error ⟨.noToken, 4⟩ ∧
            ∃ tokens last,
              lexer.Reads (.ofSource source) tokens (.error (.text ⟨.noToken, 3⟩)) last := by
  intro source
  obtain ⟨builder, lexer, added, built, fails⟩ :=
    LexerBuilder.exists_built accentedPatterns (fun lexer => lexer.tokenize "a é?")
      (.error ⟨.noToken, 4⟩) (by decide +kernel)
  refine ⟨builder, lexer, added, built, fails, ?_⟩
  have delivers := (Source.delivers_ofBytes 0 (Utf8.encode "a é?".toList)).interrupting
  obtain ⟨_, tokens, stop, last, _, follows, ⟨_, same, _⟩ | ⟨_, same, reads⟩⟩ :=
    stream_tokens_eq_text lexer "a é?" delivers
  · rw [fails] at same
    contradiction
  · rw [fails] at same
    obtain ⟨_, stopOffset⟩ := TextError.mk.inj (Except.error.inj same)
    have third : ((Place.start "a é?".toList).advance 3).Follows "a é?".toList 3 :=
      ⟨rfl, by decide⟩
    have passed : last.position = 3 := (follows.offset_eq_iff third).mp stopOffset.symm
    rw [passed] at reads
    exact ⟨tokens, last, reads⟩

end Lexer

end LexicalAutomata
