import LexicalAutomata.Lexer.Basic
import LexicalAutomata.Proofs.Regex.Match
import LexicalAutomata.Proofs.Text.Place

namespace LexicalAutomata.Lexer

/-!
# Passing over tokens

A lexer passes over the tokens of a text one by one, until it comes to the end of the text or
to a place where there is no token.
-/

variable {τ : Type}

/-- A token is a part of the text behind the place where it is found. -/
theorem tokenAt?_length_le
    {lexer : Lexer τ}
    {place : Place}
    {token : τ}
    {length : Nat}
    (found : lexer.tokenAt? place = some (token, length)) :
    length ≤ place.rest.length := by
  unfold tokenAt? accepted? at found
  split at found
  · contradiction
  · rename_i best scanned
    split at found
    · contradiction
    · obtain ⟨_, _, same⟩ := Option.map_eq_some_iff.mp found
      cases same
      have bound := Automaton.length_scanFrom_le (by simp) scanned
      rwa [Nat.zero_add] at bound

/-- The tokens that a lexer finds from one place of a text to another, one behind the other. -/
inductive Passes
    (lexer : Lexer τ) :
    Place →
    List (τ × List Char) →
    Place →
    Prop
  | nil {place : Place} :
      Passes lexer place [] place
  | cons {place stop : Place} {token : τ} {length : Nat} {others : List (τ × List Char)} :
      lexer.tokenAt? place = some (token, length) →
      Passes lexer (place.advance length) others stop →
      Passes lexer place ((token, place.rest.take length) :: others) stop

/-- A text is divided into tokens up to its end, or up to a place where there is no token. -/
theorem passes_tokensFrom
    (lexer : Lexer τ)
    (place : Place) :
    ∃ tokens stop,
      lexer.Passes place tokens stop ∧
        (stop.rest = [] ∧ lexer.tokensFrom place = .ok tokens ∨
          stop.rest ≠ [] ∧ lexer.tokenAt? stop = none ∧
            lexer.tokensFrom place = .error ⟨.noToken, stop.offset⟩) := by
  fun_induction tokensFrom lexer place with
  | case1 place ended =>
      exact ⟨[], place, .nil, Or.inl ⟨List.isEmpty_iff.mp ended, rfl⟩⟩
  | case2 place notEnded isNone =>
      exact ⟨[], place, .nil, Or.inr ⟨by simpa using notEnded, isNone, rfl⟩⟩
  | case3 place notEnded token length isSome error failed inductionHypothesis =>
      obtain ⟨tokens, stop, passes, ⟨_, impossible⟩ | ⟨notAtEnd, stuck, same⟩⟩ :=
        inductionHypothesis
      · rw [failed] at impossible
        contradiction
      · rw [failed] at same
        exact ⟨_, stop, .cons isSome passes, Or.inr ⟨notAtEnd, stuck, same⟩⟩
  | case4 place notEnded token length isSome tokens rest inductionHypothesis =>
      obtain ⟨others, stop, passes, ⟨atEnd, same⟩ | ⟨_, _, impossible⟩⟩ := inductionHypothesis
      · rw [rest] at same
        cases same
        exact ⟨_, stop, .cons isSome passes, Or.inl ⟨atEnd, rfl⟩⟩
      · rw [rest] at impossible
        contradiction

/-- Tokens that are passed leave their text behind. -/
theorem Passes.offset_lt
    {lexer : Lexer τ}
    {place stop : Place}
    {tokens : List (τ × List Char)}
    (passes : lexer.Passes place tokens stop) :
    stop = place ∨ place.offset < stop.offset := by
  induction passes with
  | nil =>
      exact Or.inl rfl
  | @cons place _ _ length _ found _ inductionHypothesis =>
      have behind : place.offset < (place.advance length).offset := by
        have := place.offset_advance_lt (tokenAt?_length_pos found) (tokenAt?_length_le found)
        rwa [Place.advance_zero] at this
      right
      rcases inductionHypothesis with rfl | further
      · exact behind
      · exact Nat.lt_trans behind further

/-- A text that begins with a token is not refused at its beginning. -/
theorem tokenize_ne_error
    {lexer : Lexer τ}
    {text : String}
    (begins : (lexer.tokenAt? (.start text.toList)).isSome = true)
    (fault : Fault) :
    lexer.tokenize text ≠ .error ⟨fault, 0⟩ := by
  obtain ⟨tokens, stop, passes, ⟨_, same⟩ | ⟨_, stuck, same⟩⟩ :=
    lexer.passes_tokensFrom (.start text.toList)
  · rw [tokenize, same]
    intro impossible
    contradiction
  · rw [tokenize, same]
    intro refused
    obtain ⟨_, atBeginning⟩ := TextError.mk.inj (Except.error.inj refused)
    rcases passes.offset_lt with rfl | behind
    · rw [stuck] at begins
      contradiction
    · exact Nat.ne_of_gt behind atBeginning

end LexicalAutomata.Lexer
