import LexicalAutomata.Automaton.Acceptance
import LexicalAutomata.Fault
import LexicalAutomata.Stream.Fault
import LexicalAutomata.Text.Quoted

namespace LexicalAutomata

/-!
# Errors
-/

/-- Why something could not be compiled or matched. -/
inductive Error (τ : Type) where
  | text (error : TextError)
  | ambiguous (ambiguity : Ambiguity τ)
  | stream (fault : StreamFault)

variable {τ : Type}

/-- The tokens in conflict, each of them quoted. -/
def Ambiguity.message
    (ambiguity : Ambiguity τ)
    (tokenText : τ → String) :
    String :=
  let names := ambiguity.tokens.map fun token => Text.quoted (tokenText token)
  "ambiguous tokens [" ++ ", ".intercalate names ++ "] accepted at equal priority"

/-- An error in words, when tokens are written by `tokenText`. -/
def Error.message
    (error : Error τ)
    (tokenText : τ → String) :
    String :=
  match error with
  | .text error =>
      error.message
  | .ambiguous ambiguity =>
      ambiguity.message tokenText
  | .stream fault =>
      "I/O error: " ++ fault.message

end LexicalAutomata
