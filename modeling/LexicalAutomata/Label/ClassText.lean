import LexicalAutomata.Label.Basic

namespace LexicalAutomata

/-!
# The class text of a label

A label is written as a bracketed class: its spans by their first and last code
points, then the symbols of its boundaries.
-/

namespace Label

/-- Visible ASCII characters without a meaning inside brackets stand for themselves. -/
def isPlainInClass
    (char : Char) :
    Bool :=
  0x21 ≤ char.toNat && char.toNat ≤ 0x7E &&
    !"[]\\-^&".toList.contains char

/-- A code point as a braced escape in hexadecimal digits. -/
def escapedCodePoint
    (codePoint : Nat) :
    List Char :=
  "\\x\x7b".toList ++ Nat.toDigits 16 codePoint ++ ['\x7d']

/-- A code point in class text. -/
def codePointText
    (codePoint : Nat) :
    List Char :=
  match charOfCodePoint? codePoint with
  | none =>
      escapedCodePoint codePoint
  | some char =>
      if isPlainInClass char then
        [char]
      else
        escapedCodePoint codePoint

/-- An interval in class text: one code point, or the first and the last one with a dash between. -/
def intervalText
    (interval : Interval) :
    List Char :=
  if interval.size ≤ 1 then
    codePointText interval.first
  else
    codePointText interval.first ++ '-' :: codePointText (interval.limit - 1)

/-- The characters of the class text. -/
def classChars
    (label : Label) :
    List Char :=
  '[' :: label.points.intervals.flatMap intervalText ++
    label.boundaries.toList.flatMap (fun boundary => boundary.symbol.toList) ++ [']']

/-- A label in the notation of a bracketed class. -/
def classText
    (label : Label) :
    String :=
  .ofList label.classChars

end Label

end LexicalAutomata
