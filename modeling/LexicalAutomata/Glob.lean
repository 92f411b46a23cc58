import LexicalAutomata.Lexer.Builder
import LexicalAutomata.Regex.Escape

namespace LexicalAutomata

/-!
# Glob patterns

A question mark stands for one character, a star for any run of characters, and
a backslash takes the meaning from the next character.
-/

/-- A part of a glob pattern. -/
inductive GlobPart where
  | literal (char : Char)
  | anyChar
  | anyRun
  deriving Repr, DecidableEq

namespace GlobPart

/-- The parts of a pattern; a backslash at the end stands for itself. -/
def ofChars : List Char → List GlobPart
  | [] =>
      []
  | ['\\'] =>
      [.literal '\\']
  | '\\' :: char :: rest =>
      .literal char :: ofChars rest
  | '?' :: rest =>
      .anyChar :: ofChars rest
  | '*' :: rest =>
      .anyRun :: ofChars rest
  | char :: rest =>
      .literal char :: ofChars rest

/-- A part as an expression. -/
def expression : GlobPart → List Char
  | .literal char =>
      escapeChar char
  | .anyChar =>
      ['.']
  | .anyRun =>
      ['.', '*']

end GlobPart

namespace Glob

/-- A pattern as an expression. -/
def toExpression
    (pattern : String) :
    Except TextError String :=
  if pattern.isEmpty then
    .error ⟨.emptyGlob, 0⟩
  else
    .ok (.ofList ((GlobPart.ofChars pattern.toList).flatMap GlobPart.expression))

end Glob

/-- Add a glob pattern. -/
def LexerBuilder.addGlob
    [PropertyParser]
    {τ : Type}
    (builder : LexerBuilder τ)
    (pattern : String)
    (token : τ)
    (options : Options := {}) :
    Except TextError Unit × LexerBuilder τ :=
  match Glob.toExpression pattern with
  | .error error =>
      (.error error, builder)
  | .ok expression =>
      builder.add expression token options

end LexicalAutomata
