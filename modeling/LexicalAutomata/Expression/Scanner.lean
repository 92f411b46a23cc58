import LexicalAutomata.Expression.Parser
import LexicalAutomata.Text.Slice

namespace LexicalAutomata

/-!
# Reading expressions in place

A scanner reads the text of an expression in place: it moves an index over the bytes, remembers
where the last character began, and counts what is open.  Groups and classes are read by
recursion.  A scan has no result if it takes a slice of the text that does not begin and end
between two characters, if it closes what is not open, or if a loop or a recursion takes more
steps than there are characters.
-/

/-- The state of a scanner. -/
structure Scanner where
  /-- The byte offset of what is to be read next. -/
  index : Nat
  /-- The byte offset of the character that was read last. -/
  lastIndex : Nat
  /-- The number of groups and classes that are open. -/
  depth : Nat
  /-- No alternative, no group and no quantifier has been read. -/
  literal : Bool

namespace Scanner

/-- In front of a text. -/
def start : Scanner :=
  ⟨0, 0, 0, true⟩

/-- Go on by some bytes. -/
def skip
    (scanner : Scanner)
    (size : Nat) :
    Scanner :=
  { scanner with index := scanner.index + size }

/-- Go on by the bytes of one character, or of a few that count as one. -/
def pass
    (scanner : Scanner)
    (size : Nat) :
    Scanner :=
  { scanner with index := scanner.index + size, lastIndex := scanner.index }

/-- With one more group or class open. -/
def deeper
    (scanner : Scanner) :
    Scanner :=
  { scanner with depth := scanner.depth + 1 }

/-- Skipped bytes move the index. -/
@[simp] theorem index_skip
    (scanner : Scanner)
    (size : Nat) :
    (scanner.skip size).index = scanner.index + size :=
  rfl

/-- A character that is passed is the last one. -/
@[simp] theorem lastIndex_pass
    (scanner : Scanner)
    (size : Nat) :
    (scanner.pass size).lastIndex = scanner.index :=
  rfl

end Scanner

/-- What a scanner does: it refuses the text, or gives a value and goes on. -/
abbrev Scan :=
  StateT Scanner (ExceptT TextError Option)

namespace Scan

section Primitives

variable {α : Type}

/-- Refuse the text at a byte offset. -/
def failAt
    (offset : Nat)
    (fault : Fault) :
    Scan α :=
  throw ⟨fault, offset⟩

/-- Refuse the text where its next character begins. -/
def failHere
    (fault : Fault) :
    Scan α := do
  failAt (← get).index fault

/-- Refuse the text where its last character began. -/
def failBehind
    (fault : Fault) :
    Scan α := do
  failAt (← get).lastIndex fault

/-- Go on with a value that may be missing. -/
def checked
    (value : Option α) :
    Scan α :=
  fun scanner => value.map fun found => .ok (found, scanner)

/-- Open one more group or class. -/
def nest : Scan Unit := do
  if nestingLimit ≤ (← get).depth then
    failBehind .nestingTooDeep
  else
    modify (·.deeper)

/-- Close a group or class. -/
def unnest : Scan Unit := do
  match (← get).depth with
  | 0 =>
      checked none
  | depth + 1 =>
      modify fun scanner => { scanner with depth }

/-- Note that the expression is not a plain sequence of labels. -/
def notLiteral : Scan Unit :=
  modify fun scanner => { scanner with literal := false }

variable (text : List Char)

/-- What is still to be read. -/
def rest : Scan (List Char) := do
  checked (Text.from? text (← get).index)

/-- The next character. -/
def peek : Scan (Option Char) := do
  return (← rest text).head?

/-- Read one character. -/
def next : Scan Char := do
  match ← peek text with
  | none =>
      failHere .unexpectedEnd
  | some char =>
      modify (·.pass char.utf8Size)
      return char

/-- Read one character, which must be `wanted`. -/
def require
    (wanted : Char) :
    Scan Unit := do
  let found ← next text
  if found = wanted then
    return ()
  else
    failBehind (.unexpected wanted found)

/-- Read some characters if they are next. -/
def bypass
    (chars : List Char) :
    Scan Bool := do
  if chars <+: (← rest text) then
    modify (·.pass (Text.byteLength chars))
    return true
  else
    return false

/-- The number of bytes up to the first character that lacks a property. -/
def sizeOfRun
    (property : Char → Bool) :
    Scan Nat := do
  let behind ← rest text
  return (Text.find? (fun char => !property char) behind).getD (Text.byteLength behind)

end Primitives

section Number

variable (text : List Char)

/-- Read a decimal number. -/
def readNumber : Scan Nat := do
  let start := (← get).index
  let size ← sizeOfRun text Char.isDigit
  if size = 0 then
    failAt start .missingNumber
  else
    modify (·.skip size)
    let digits ← checked (Text.slice? text start (← get).index)
    if Cursor.quantifierLimit < digitsValue 10 digits then
      failAt start .quantifierTooLarge
    else
      return digitsValue 10 digits

/-- Read the maximum of a quantifier, which is the minimum if there is no comma. -/
def readMaximum
    (minimum : Nat) :
    Scan Nat := do
  if ← bypass text [','] then
    if (← peek text) = some '\x7d' then
      return Cursor.quantifierLimit
    else
      readNumber text
  else
    return minimum

/-- Read the bounds in the braces of a quantifier. -/
def readBounds : Scan Quantifier := do
  let _ ← next text
  let opening := (← get).lastIndex
  let minimum ← readNumber text
  let maximum ← readMaximum text minimum
  require text '\x7d'
  if maximum < minimum then
    failAt opening (.reversedQuantifier minimum maximum)
  else
    return ⟨minimum, Cursor.maximumOf maximum⟩

/-- Read the quantifier behind an atom, where there may be none. -/
def readQuantifier : Scan Quantifier := do
  match ← peek text with
  | some '*' =>
      let _ ← next text
      return ⟨0, none⟩
  | some '+' =>
      let _ ← next text
      return ⟨1, none⟩
  | some '?' =>
      let _ ← next text
      return ⟨0, some 1⟩
  | some '\x7b' =>
      readBounds text
  | _ =>
      return .once

end Number

section Escape

variable (text : List Char)

/-- The character with a given code point; the escape that names it starts at `start`. -/
def charWith
    (start codePoint : Nat) :
    Scan Char :=
  match charOfCodePoint? codePoint with
  | none =>
      failAt start (.noSuchCharacter codePoint)
  | some char =>
      return char

/-- Read up to `left` more octal digits; give their value, and how many could still follow. -/
def readOctalDigits : (left value : Nat) → Scan (Nat × Nat)
  | 0, value =>
      return (value, 0)
  | left + 1, value => do
      match ← peek text with
      | none =>
          return (value, left + 1)
      | some char =>
          if isOctalDigit char ∧ ¬ (left = 0 ∧ 0x1F < value) then
            modify (·.skip 1)
            readOctalDigits left (value * 8 + digitValue char)
          else
            return (value, left + 1)

/-- Read the digits of an octal escape. -/
def readOctal
    (start : Nat) :
    Scan Char := do
  let (value, left) ← readOctalDigits text 3 0
  if left = 3 then
    failAt start .malformedOctal
  else
    charWith start value

/-- Read `size` hexadecimal digits. -/
def readHex
    (start size : Nat) :
    Scan Nat := do
  match Text.splitAt? (← rest text) size with
  | none =>
      failAt start .malformedHex
  | some (digits, _) =>
      if Text.byteLength digits = size ∧ digits.all isHexDigit then
        if Cursor.hexLimit < digitsValue 16 digits then
          failAt start .hexTooLarge
        else
          modify (·.skip size)
          return digitsValue 16 digits
      else
        failAt start .malformedHex

/-- Read a code point in hexadecimal digits up to a closing brace. -/
def readBracedHex
    (start : Nat) :
    Scan Nat := do
  let size ← sizeOfRun text isHexDigit
  if size = 0 then
    failHere .missingHexDigits
  else
    let codePoint ← readHex text start size
    require text '\x7d'
    return codePoint

/-- Read a code point in braces, or in two hexadecimal digits. -/
def readCodePoint
    (start : Nat) :
    Scan Nat := do
  if ← bypass text ['\x7b'] then
    readBracedHex text start
  else
    readHex text start 2

/-- Read the letter of a control character. -/
def readControl
    (start : Nat) :
    Scan Char := do
  let letter ← next text
  if 'A' ≤ letter ∧ letter ≤ '_' then
    charWith start (letter.toNat - 'A'.toNat + 1)
  else
    failBehind (.unknownControl letter)

/-- Read the name of a class up to a closing brace; the name starts at `start`. -/
def readBracedName
    (start : Nat) :
    Scan String := do
  let behind ← rest text
  match Text.find? (· == '\x7d') behind with
  | none =>
      failAt start .unclosedClassName
  | some size =>
      let name ← checked (Text.slice? behind 0 size)
      modify (·.skip (size + 1))
      return .ofList name

/-- Read the name of a class: one character, or everything between braces. -/
def readClassName : Scan String := do
  let start := (← get).index
  if ← bypass text ['\x7b'] then
    readBracedName text start
  else
    let char ← next text
    let first := (← get).lastIndex
    let name ← checked (Text.slice? text first (first + char.utf8Size))
    return .ofList name

variable [PropertyParser] (caseInsensitive : Bool)

/-- Read the name of a class and look the class up. -/
def readNamedClass : Scan CodePointSet := do
  let start := (← get).index
  let name ← readClassName text
  match NamedClass.named? name caseInsensitive with
  | none =>
      failAt start (.unknownClass name)
  | some points =>
      return points

/-- Read what follows a letter that needs something behind it. -/
def readLongEscape
    (start : Nat)
    (letter : Char) :
    Scan Escaped := do
  match letter with
  | '0' =>
      return .char (← readOctal text start)
  | 'x' =>
      return .char (← charWith start (← readCodePoint text start))
  | 'u' =>
      return .char (← charWith start (← readHex text start 4))
  | 'c' =>
      return .char (← readControl text start)
  | 'p' =>
      return .points (← readNamedClass text caseInsensitive)
  | 'P' =>
      return .points (← readNamedClass text caseInsensitive).compl
  | _ =>
      failAt start (.unknownEscape letter)

/-- Read an escape, the backslash of which is the last character. -/
def readEscape : Scan Escaped := do
  let start := (← get).lastIndex
  let letter ← tryCatch (next text) fun _ => failAt start .unfinishedEscape
  match Escaped.ofLetter? letter with
  | some escaped =>
      return escaped
  | none =>
      readLongEscape text caseInsensitive start letter

end Escape

section Class

variable (text : List Char) [PropertyParser] (caseInsensitive : Bool)

/-- Read the last character of a span, the dash of which is at `dash`. -/
def readSpanEnd
    (dash : Nat) :
    Scan Char := do
  match ← next text with
  | '\\' =>
      match ← readEscape text caseInsensitive with
      | .char last =>
          return last
      | _ =>
          failAt dash .malformedSpanEnd
  | '[' =>
      failAt dash .malformedSpanEnd
  | last =>
      return last

/-- Read what is behind the first character of an entry: maybe a dash and a last character. -/
def readSpan
    (first : Char) :
    Scan CodePointSet := do
  if Cursor.dashMakesSpan (← rest text) then
    let _ ← next text
    let dash := (← get).lastIndex
    let last ← readSpanEnd text caseInsensitive dash
    if last < first then
      failAt dash (.reversedSpan first last)
    else
      return Cursor.spanOf caseInsensitive first last
  else
    return Cursor.spanOf caseInsensitive first first

/-- Read the rest of an entry that begins with a backslash. -/
def readEscapedEntry : Scan CodePointSet := do
  match ← readEscape text caseInsensitive with
  | .char first =>
      readSpan text caseInsensitive first
  | .points points =>
      return points
  | .boundary boundary =>
      failBehind (.boundaryInClass boundary)

/--
Read the rest of an entry, the first character of which is the last one; `inside` reads the
rest of a class in brackets.
-/
def readEntry
    (inside : Scan CodePointSet)
    (char : Char) :
    Scan CodePointSet := do
  match char with
  | '[' =>
      inside
  | '.' =>
      return .full
  | '\\' =>
      readEscapedEntry text caseInsensitive
  | _ =>
      readSpan text caseInsensitive char

/-- Read entries up to the closing bracket or an ampersand pair. -/
def readOperand
    (inside : Scan CodePointSet)
    (opening : Nat) :
    (limit : Nat) →
    (points : CodePointSet) →
    (hasEntry : Bool) →
    Scan CodePointSet
  | 0, _, _ =>
      checked none
  | limit + 1, points, hasEntry => do
      match ← rest text with
      | [] =>
          failAt opening .unclosedClass
      | char :: behind =>
          if char = ']' ∨ ['&', '&'] <+: char :: behind then
            if hasEntry then
              return points
            else
              failHere .emptyClass
          else
            let char ← next text
            let entry ← readEntry text caseInsensitive inside char
            readOperand inside opening limit (points.union entry) true

/-- Read the operands behind the first one, and intersect them all. -/
def readOperands
    (inside : Scan CodePointSet)
    (opening : Nat) :
    (limit : Nat) →
    (met : CodePointSet) →
    Scan CodePointSet
  | 0, _ =>
      checked none
  | limit + 1, met => do
      if ← bypass text ['&', '&'] then
        let operand ← readOperand text caseInsensitive inside opening limit .empty false
        readOperands inside opening limit (met.inter operand)
      else
        return met

/-- Read a class, the bracket of which is the last character. -/
def readClass : (limit : Nat) → Scan CodePointSet
  | 0 =>
      checked none
  | limit + 1 => do
      let opening := (← get).lastIndex
      nest
      let negated ← bypass text ['^']
      let inside := readClass limit
      let first ← readOperand text caseInsensitive inside opening limit .empty false
      let points ← readOperands text caseInsensitive inside opening limit first
      if ← bypass text [']'] then
        unnest
        return if negated then points.compl else points
      else
        failAt opening .unclosedClass

end Class

section Expression

variable (text : List Char) [PropertyParser] (caseInsensitive : Bool)

/-- Read the rest of an atom that is not a group, the first character of which is the last one. -/
def readLabel
    (char : Char) :
    Scan Label := do
  match char with
  | '[' =>
      return .ofPoints (← readClass text caseInsensitive (text.length + 1))
  | '.' =>
      return .anyChar
  | '^' =>
      return .ofBoundary .lineStart
  | '$' =>
      return .ofBoundary .lineEnd
  | '\\' =>
      return Cursor.escapedLabel caseInsensitive (← readEscape text caseInsensitive)
  | _ =>
      if [']', '\x7d'].contains char then
        failBehind (.unbalanced char)
      else if ['*', '+', '?', '\x7b'].contains char then
        failBehind (.danglingQuantifier char)
      else
        return Cursor.literalLabel caseInsensitive char

/-- A group, the parenthesis of which is at `opening`, must have something inside. -/
def requireInside
    (opening : Nat) :
    Scan Unit := do
  match ← peek text with
  | some ')' =>
      failAt opening .emptyGroup
  | none =>
      failAt opening .unclosedGroup
  | some _ =>
      return ()

/-- Note what a piece says about the expression. -/
def notePiece
    (piece : Piece) :
    Scan Unit :=
  if piece.isPlain then
    return ()
  else
    notLiteral

/-- Read a group, or an atom that is none; `inside` reads what is in a group. -/
def readAtom
    (inside : Scan Expression) :
    Scan Atom := do
  let char ← next text
  if char = '(' then
    let opening := (← get).lastIndex
    nest
    requireInside text opening
    let branches ← inside
    if ← bypass text [')'] then
      unnest
      return .group branches
    else
      failAt opening .unclosedGroup
  else
    return .label (← readLabel text caseInsensitive char)

/-- Read an atom and its quantifier. -/
def readPiece
    (inside : Scan Expression) :
    Scan Piece := do
  let atom ← readAtom text caseInsensitive inside
  let quantifier ← readQuantifier text
  notePiece ⟨atom, quantifier⟩
  return ⟨atom, quantifier⟩

/-- Read the pieces of a branch behind those that have been read. -/
def readBranch
    (inside : Scan Expression) :
    (limit : Nat) →
    (pieces : Branch) →
    Scan Branch
  | 0, _ =>
      checked none
  | limit + 1, pieces => do
      let ahead ← peek text
      if ahead = none ∨ ahead = some '|' ∨ ahead = some ')' then
        if pieces.isEmpty then
          failHere .emptyBranch
        else
          return pieces
      else
        let piece ← readPiece text caseInsensitive inside
        readBranch inside limit (pieces ++ [piece])

/-- Read the branches behind those that have been read. -/
def readAlternatives
    (inside : Scan Expression) :
    (limit : Nat) →
    (branches : Expression) →
    Scan Expression
  | 0, _ =>
      checked none
  | limit + 1, branches => do
      if ← bypass text ['|'] then
        notLiteral
        let branch ← readBranch text caseInsensitive inside limit []
        readAlternatives inside limit (branches ++ [branch])
      else
        return branches

/-- Read branches separated by bars. -/
def readBranches : (limit : Nat) → Scan Expression
  | 0 =>
      checked none
  | limit + 1 => do
      let inside := readBranches limit
      let branch ← readBranch text caseInsensitive inside (limit + 1) []
      readAlternatives text caseInsensitive inside (limit + 1) [branch]

/-- Read a whole text; say also whether it is literal. -/
def readText : Scan (Expression × Bool) := do
  let expression ← readBranches text caseInsensitive (text.length + 1)
  if (← peek text).isSome then
    failHere (.unbalanced ')')
  else
    return (expression, (← get).literal)

end Expression

end Scan

namespace Expression

/-- The expression that a text stands for, read in place, and whether it is literal. -/
def scan
    [PropertyParser]
    (caseInsensitive : Bool)
    (text : List Char) :
    Option (Except TextError (Expression × Bool)) :=
  if text.isEmpty then
    some (.error ⟨.emptyExpression, 0⟩)
  else
    ((Scan.readText text caseInsensitive).run' .start).run

end Expression

end LexicalAutomata
