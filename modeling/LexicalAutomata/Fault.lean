import LexicalAutomata.Boundary.Basic

namespace LexicalAutomata

/-!
# Faults in a text

A fault is the reason why a text is refused: an expression that cannot be read,
or a subject that does not contain what was looked for.  A `TextError` says
where the fault was found.
-/

/-- Why a text is refused. -/
inductive Fault where
  | emptyExpression
  | emptyBranch
  | emptyGroup
  | unclosedGroup
  /-- A closing bracket without an opening one. -/
  | unbalanced (bracket : Char)
  | nestingTooDeep
  /-- A quantifier without anything to repeat. -/
  | danglingQuantifier (quantifier : Char)
  | unexpectedEnd
  | unexpected (wanted found : Char)
  | missingNumber
  | quantifierTooLarge
  | reversedQuantifier (minimum maximum : Nat)
  /-- A backslash with nothing behind it. -/
  | unfinishedEscape
  | unknownEscape (letter : Char)
  | missingHexDigits
  | malformedHex
  | hexTooLarge
  | malformedOctal
  | noSuchCharacter (codePoint : Nat)
  | unknownControl (letter : Char)
  | unclosedClassName
  | unknownClass (name : String)
  | unclosedClass
  | emptyClass
  | boundaryInClass (boundary : Boundary)
  | malformedSpanEnd
  | reversedSpan (first last : Char)
  /-- The expression does not close with single characters. -/
  | missingEnder
  | noExpressions
  | emptyGlob
  | noMatch (expression : String)
  | noToken
  deriving Repr, DecidableEq

namespace Fault

/-- A fault in words. -/
def message : Fault → String
  | emptyExpression =>
      "empty expression"
  | emptyBranch =>
      "empty branch"
  | emptyGroup =>
      "empty group"
  | unclosedGroup =>
      "unclosed '('"
  | unbalanced bracket =>
      s!"unbalanced '{bracket}'"
  | nestingTooDeep =>
      "nesting too deep"
  | danglingQuantifier quantifier =>
      s!"dangling quantifier '{quantifier}'"
  | unexpectedEnd =>
      "unexpected end of expression"
  | unexpected wanted found =>
      s!"expected '{wanted}', got '{found}'"
  | missingNumber =>
      "expected a number"
  | quantifierTooLarge =>
      "quantifier too large"
  | reversedQuantifier minimum maximum =>
      s!"quantifier maximum {maximum} is less than minimum {minimum}"
  | unfinishedEscape =>
      "'\\' at end of expression"
  | unknownEscape letter =>
      s!"invalid escape '\\{letter}'"
  | missingHexDigits =>
      "expected hex digits"
  | malformedHex =>
      "invalid hex escape"
  | hexTooLarge =>
      "hex escape out of range"
  | malformedOctal =>
      "invalid octal escape"
  | noSuchCharacter codePoint =>
      "invalid code point 0x" ++ .ofList (Nat.toDigits 16 codePoint)
  | unknownControl letter =>
      s!"invalid control character '\\c{letter}'"
  | unclosedClassName =>
      "unclosed '\x7b' in class name"
  | unknownClass name =>
      s!"unknown character class '{name}'"
  | unclosedClass =>
      "unclosed character class"
  | emptyClass =>
      "empty character class"
  | boundaryInClass boundary =>
      s!"boundary '{boundary.symbol}' not allowed in a class"
  | malformedSpanEnd =>
      "invalid range end"
  | reversedSpan first last =>
      s!"invalid range {first}-{last}"
  | missingEnder =>
      "fixed ender needs trailing single characters"
  | noExpressions =>
      "no expressions added"
  | emptyGlob =>
      "empty wildcard pattern"
  | noMatch expression =>
      s!"no match for '{expression}'"
  | noToken =>
      "no token matches"

end Fault

/-- A fault and the place in the text where it was found. -/
structure TextError where
  fault : Fault
  offset : Nat
  deriving Repr, DecidableEq

/-- A fault and its place in words. -/
def TextError.message
    (error : TextError) :
    String :=
  s!"{error.fault.message} at offset {error.offset}"

end LexicalAutomata
