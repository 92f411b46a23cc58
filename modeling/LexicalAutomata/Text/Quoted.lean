import LexicalAutomata.Unicode.Alphanumeric
import LexicalAutomata.Unicode.Category
import LexicalAutomata.Unicode.DefaultIgnorable
import LexicalAutomata.Unicode.GraphemeExtend

namespace LexicalAutomata.Text

/-!
# Quoted text

Text is quoted between double quotes.  What would not be visible by itself, or
would change the look of its neighbours, is written as an escape.
-/

/-- Whether a character extends the one in front of it. -/
def extendsGrapheme
    (char : Char) :
    Bool :=
  match Unicode.Category.ofChar char with
  | .nonspacingMark =>
      true
  | .enclosingMark =>
      true
  | _ =>
      Unicode.graphemeExtender.contains char.toNat

/--
Whether a character leaves a visible mark; of the blanks only the plain space counts.
The letters and numbers are tabulated for a later standard than the categories, so
some of them have no category.
-/
def isVisible
    (char : Char) :
    Bool :=
  match Unicode.Category.ofChar char with
  | .control | .format | .privateUse =>
      false
  | .unassigned =>
      Unicode.isAlphanumeric char
  | .lineSeparator | .paragraphSeparator =>
      false
  | .spaceSeparator =>
      char == ' '
  | _ =>
      !Unicode.defaultIgnorable.contains char.toNat

/-- A character as a braced escape in hexadecimal digits. -/
def escapedByNumber
    (char : Char) :
    List Char :=
  "\\u\x7b".toList ++ Nat.toDigits 16 char.toNat ++ ['\x7d']

/-- A character between double quotes. -/
def quotedChar
    (char : Char) :
    List Char :=
  match char with
  | '\x00' =>
      ['\\', '0']
  | '\t' =>
      ['\\', 't']
  | '\r' =>
      ['\\', 'r']
  | '\n' =>
      ['\\', 'n']
  | '\\' =>
      ['\\', '\\']
  | '"' =>
      ['\\', '"']
  | _ =>
      if isVisible char && !extendsGrapheme char then
        [char]
      else
        escapedByNumber char

/-- Text between double quotes. -/
def quote
    (text : List Char) :
    List Char :=
  '"' :: text.flatMap quotedChar ++ ['"']

/-- A string between double quotes. -/
def quoted
    (text : String) :
    String :=
  .ofList (quote text.toList)

end LexicalAutomata.Text
