import LexicalAutomata.Expression.Number
import LexicalAutomata.NamedClass.Basic

namespace LexicalAutomata

/-!
# Escapes in expression text

A backslash and what follows it stand for a character, for a class of
characters, or for a boundary.
-/

/-- What an escape stands for. -/
inductive Escaped where
  | char (char : Char)
  | points (points : CodePointSet)
  | boundary (boundary : Boundary)

namespace Escaped

/-- The meaning of a letter that needs nothing behind it. -/
def ofLetter? : Char → Option Escaped
  | 't' =>
      some (.char '\t')
  | 'n' =>
      some (.char '\n')
  | 'r' =>
      some (.char '\r')
  | 'f' =>
      some (.char '\x0c')
  | 'a' =>
      some (.char '\x07')
  | 'e' =>
      some (.char '\x1b')
  | 'b' =>
      some (.boundary .wordEdge)
  | 'B' =>
      some (.boundary .noWordEdge)
  | 'A' =>
      some (.boundary .inputStart)
  | 'G' =>
      some (.boundary .searchStart)
  | 'Z' =>
      some (.boundary .lastLineEnd)
  | 'z' =>
      some (.boundary .inputEnd)
  | letter =>
      if NamedClass.punctuation.contains letter.toNat then
        some (.char letter)
      else
        (NamedClass.escape? letter).map .points

end Escaped

/-- The digits `0` to `7`. -/
def isOctalDigit
    (char : Char) :
    Bool :=
  '0' ≤ char && char ≤ '7'

/-- An octal digit is a digit. -/
theorem isDigit_of_isOctalDigit
    {char : Char}
    (octal : isOctalDigit char = true) :
    char.isDigit = true := by
  simp only [isOctalDigit, Bool.and_eq_true, decide_eq_true_eq] at octal
  obtain ⟨atLeast, atMost⟩ := octal
  have atMostNine : char ≤ '9' := Char.le_trans atMost (by decide)
  simpa [Char.isDigit] using ⟨atLeast, atMostNine⟩

/-- The decimal digits and the letters from `a` to `f` in either case. -/
def isHexDigit
    (char : Char) :
    Bool :=
  NamedClass.hexDigit.contains char.toNat

namespace Cursor

/-- The character with a given code point; the escape that names it starts at `opening`. -/
def charWith
    (opening : Cursor)
    (codePoint : Nat) :
    Except TextError Char :=
  match charOfCodePoint? codePoint with
  | none =>
      opening.fail (.noSuchCharacter codePoint)
  | some char =>
      .ok char

/-- Up to three octal digits whose value fits into a byte. -/
def octalDigits
    (cursor : Cursor) :
    List Char :=
  let digits := (cursor.run isOctalDigit).take 3
  if digitsValue 8 digits < 0x100 then
    digits
  else
    digits.take 2

/-- Read the digits of an octal escape. -/
def readOctal
    (opening cursor : Cursor) :
    Except TextError (Char × Cursor) :=
  if cursor.octalDigits.isEmpty then
    opening.fail .malformedOctal
  else
    opening.charWith (digitsValue 8 cursor.octalDigits) >>= fun char =>
      .ok (char, cursor.advance cursor.octalDigits.length)

theorem readOctal_le
    {opening cursor after : Cursor}
    {char : Char}
    (read : readOctal opening cursor = .ok (char, after)) :
    after.rest.length ≤ cursor.rest.length := by
  unfold readOctal at read
  split at read
  · contradiction
  · obtain ⟨value, _, second⟩ := bind_eq_ok_iff.mp read
    cases second
    simp

/-- The largest value of a hexadecimal escape. -/
def hexLimit : Nat :=
  0xFFFFFFFF

/-- Read `count` hexadecimal digits. -/
def readHex
    (opening : Cursor)
    (count : Nat)
    (cursor : Cursor) :
    Except TextError (Nat × Cursor) :=
  let digits := cursor.rest.take count
  if digits.length = count ∧ digits.all isHexDigit then
    if hexLimit < digitsValue 16 digits then
      opening.fail .hexTooLarge
    else
      .ok (digitsValue 16 digits, cursor.advance count)
  else
    opening.fail .malformedHex

theorem readHex_le
    {opening cursor after : Cursor}
    {count value : Nat}
    (read : readHex opening count cursor = .ok (value, after)) :
    after.rest.length ≤ cursor.rest.length := by
  unfold readHex at read
  dsimp only at read
  split at read
  · split at read
    · contradiction
    · cases read
      simp
  · contradiction

/-- Read a code point in hexadecimal digits up to a closing brace. -/
def readBracedHex
    (opening cursor : Cursor) :
    Except TextError (Nat × Cursor) :=
  let digits := cursor.run isHexDigit
  if digits.isEmpty then
    cursor.fail .missingHexDigits
  else
    readHex opening digits.length cursor >>= fun (codePoint, after) =>
      after.require '\x7d' >>= fun closed =>
        .ok (codePoint, closed)

theorem readBracedHex_le
    {opening cursor after : Cursor}
    {value : Nat}
    (read : readBracedHex opening cursor = .ok (value, after)) :
    after.rest.length ≤ cursor.rest.length := by
  unfold readBracedHex at read
  dsimp only at read
  split at read
  · contradiction
  · obtain ⟨⟨codePoint, next⟩, first, second⟩ := bind_eq_ok_iff.mp read
    obtain ⟨closed, third, fourth⟩ := bind_eq_ok_iff.mp second
    cases fourth
    exact Nat.le_trans (Nat.le_of_lt (require_shorter third)) (readHex_le first)

/-- Read a code point in braces, or in two hexadecimal digits. -/
def readCodePoint
    (opening cursor : Cursor) :
    Except TextError (Nat × Cursor) :=
  if cursor.peek? = some '\x7b' then
    readBracedHex opening (cursor.advance 1)
  else
    readHex opening 2 cursor

theorem readCodePoint_le
    {opening cursor after : Cursor}
    {value : Nat}
    (read : readCodePoint opening cursor = .ok (value, after)) :
    after.rest.length ≤ cursor.rest.length := by
  unfold readCodePoint at read
  split at read
  · have := readBracedHex_le read
    simp only [rest_advance, List.length_drop] at this
    omega
  · exact readHex_le read

/-- Read the letter of a control character. -/
def readControl
    (opening cursor : Cursor) :
    Except TextError (Char × Cursor) :=
  cursor.next >>= fun (letter, after) =>
    if 'A' ≤ letter ∧ letter ≤ '_' then
      opening.charWith (letter.toNat - 'A'.toNat + 1) >>= fun char =>
        .ok (char, after)
    else
      cursor.fail (.unknownControl letter)

theorem readControl_le
    {opening cursor after : Cursor}
    {char : Char}
    (read : readControl opening cursor = .ok (char, after)) :
    after.rest.length ≤ cursor.rest.length := by
  obtain ⟨⟨letter, next⟩, first, second⟩ := bind_eq_ok_iff.mp read
  dsimp only at second
  split at second
  · obtain ⟨control, _, third⟩ := bind_eq_ok_iff.mp second
    cases third
    exact Nat.le_of_lt (next_shorter first)
  · contradiction

/-- Read the name of a class: one character, or everything between braces. -/
def readClassName
    (cursor : Cursor) :
    Except TextError (String × Cursor) :=
  if cursor.peek? = some '\x7b' then
    let name := (cursor.advance 1).run (· != '\x7d')
    let behind := cursor.advance (1 + name.length)
    if behind.rest.isEmpty then
      cursor.fail .unclosedClassName
    else
      .ok (.ofList name, behind.advance 1)
  else
    cursor.next >>= fun (name, after) =>
      .ok (.singleton name, after)

theorem readClassName_le
    {cursor after : Cursor}
    {name : String}
    (read : cursor.readClassName = .ok (name, after)) :
    after.rest.length ≤ cursor.rest.length := by
  unfold readClassName at read
  dsimp only at read
  split at read
  · split at read
    · contradiction
    · cases read
      simp only [rest_advance, List.length_drop]
      omega
  · obtain ⟨⟨char, next⟩, first, second⟩ := bind_eq_ok_iff.mp read
    cases second
    exact Nat.le_of_lt (next_shorter first)

/-- Read the name of a class and look the class up. -/
def readNamedClass
    [PropertyParser]
    (caseInsensitive : Bool)
    (cursor : Cursor) :
    Except TextError (CodePointSet × Cursor) :=
  cursor.readClassName >>= fun (name, after) =>
    match NamedClass.named? name caseInsensitive with
    | none =>
        cursor.fail (.unknownClass name)
    | some points =>
        .ok (points, after)

theorem readNamedClass_le
    [PropertyParser]
    {caseInsensitive : Bool}
    {cursor after : Cursor}
    {points : CodePointSet}
    (read : cursor.readNamedClass caseInsensitive = .ok (points, after)) :
    after.rest.length ≤ cursor.rest.length := by
  obtain ⟨⟨name, next⟩, first, second⟩ := bind_eq_ok_iff.mp read
  dsimp only at second
  split at second
  · contradiction
  · cases second
    exact readClassName_le first

/-- Read what follows a letter that needs something behind it. -/
def readLongEscape
    [PropertyParser]
    (caseInsensitive : Bool)
    (opening : Cursor)
    (letter : Char)
    (cursor : Cursor) :
    Except TextError (Escaped × Cursor) :=
  match letter with
  | '0' =>
      readOctal opening cursor >>= fun (char, after) =>
        .ok (.char char, after)
  | 'x' =>
      readCodePoint opening cursor >>= fun (codePoint, after) =>
        opening.charWith codePoint >>= fun char =>
          .ok (.char char, after)
  | 'u' =>
      readHex opening 4 cursor >>= fun (codePoint, after) =>
        opening.charWith codePoint >>= fun char =>
          .ok (.char char, after)
  | 'c' =>
      readControl opening cursor >>= fun (char, after) =>
        .ok (.char char, after)
  | 'p' =>
      cursor.readNamedClass caseInsensitive >>= fun (points, after) =>
        .ok (.points points, after)
  | 'P' =>
      cursor.readNamedClass caseInsensitive >>= fun (points, after) =>
        .ok (.points points.compl, after)
  | _ =>
      opening.fail (.unknownEscape letter)

theorem readLongEscape_le
    [PropertyParser]
    {caseInsensitive : Bool}
    {opening cursor after : Cursor}
    {letter : Char}
    {escaped : Escaped}
    (read : readLongEscape caseInsensitive opening letter cursor = .ok (escaped, after)) :
    after.rest.length ≤ cursor.rest.length := by
  unfold readLongEscape at read
  split at read
  · obtain ⟨⟨char, next⟩, first, second⟩ := bind_eq_ok_iff.mp read
    cases second
    exact readOctal_le first
  · obtain ⟨⟨codePoint, next⟩, first, second⟩ := bind_eq_ok_iff.mp read
    obtain ⟨char, _, third⟩ := bind_eq_ok_iff.mp second
    cases third
    exact readCodePoint_le first
  · obtain ⟨⟨codePoint, next⟩, first, second⟩ := bind_eq_ok_iff.mp read
    obtain ⟨char, _, third⟩ := bind_eq_ok_iff.mp second
    cases third
    exact readHex_le first
  · obtain ⟨⟨char, next⟩, first, second⟩ := bind_eq_ok_iff.mp read
    cases second
    exact readControl_le first
  · obtain ⟨⟨points, next⟩, first, second⟩ := bind_eq_ok_iff.mp read
    cases second
    exact readNamedClass_le first
  · obtain ⟨⟨points, next⟩, first, second⟩ := bind_eq_ok_iff.mp read
    cases second
    exact readNamedClass_le first
  · contradiction

/-- Read the escape whose backslash is at `opening`. -/
def readEscape
    [PropertyParser]
    (caseInsensitive : Bool)
    (opening : Cursor) :
    Except TextError (Escaped × Cursor) :=
  match (opening.advance 1).peek? with
  | none =>
      opening.fail .unfinishedEscape
  | some letter =>
      match Escaped.ofLetter? letter with
      | some escaped =>
          .ok (escaped, opening.advance 2)
      | none =>
          readLongEscape caseInsensitive opening letter (opening.advance 2)

theorem readEscape_shorter
    [PropertyParser]
    {caseInsensitive : Bool}
    {opening after : Cursor}
    {escaped : Escaped}
    (read : readEscape caseInsensitive opening = .ok (escaped, after)) :
    after.rest.length < opening.rest.length := by
  unfold readEscape at read
  split at read
  · contradiction
  · rename_i letter present
    have longer : 1 < opening.rest.length := by
      simp only [peek?, rest_advance, List.head?_drop] at present
      exact (List.getElem?_eq_some_iff.mp present).1
    have atMost : after.rest.length ≤ (opening.advance 2).rest.length := by
      split at read
      · cases read
        exact Nat.le_refl _
      · exact readLongEscape_le read
    simp only [rest_advance, List.length_drop] at atMost
    omega

end Cursor

end LexicalAutomata
