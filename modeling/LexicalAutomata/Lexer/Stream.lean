import LexicalAutomata.Lexer.Basic
import LexicalAutomata.Stream.Scan

namespace LexicalAutomata.Lexer

/-!
# Tokens of a stream
-/

variable {τ : Type}

/-- Read one token and its text, unless the stream has come to its end. -/
def nextToken
    (lexer : Lexer τ)
    (reader : Reader) :
    Except (Error τ) (Option (τ × List Char)) × Reader :=
  match reader.peek 0 with
  | (.error fault, next) =>
      (.error (.stream fault), next)
  | (.ok none, next) =>
      (.ok none, next)
  | (.ok (some _), next) =>
      let position := next.position
      match lexer.automaton.longestIn next position with
      | (.error fault, last) =>
          (.error (.stream fault), last)
      | (.ok found, last) =>
          match lexer.accepted? found with
          | none =>
              (.error (.text ⟨.noToken, position⟩), last)
          | some (token, length) =>
              match last.takeUpTo length with
              | (.error fault, behind) =>
                  (.error (.stream fault), behind)
              | (.ok text, behind) =>
                  (.ok (some (token, text)), behind.clear)

end LexicalAutomata.Lexer
