import LexicalAutomata.CodePointSet.Basic

namespace LexicalAutomata.NamedClass

/-!
# Classes of ASCII characters
-/

/-- The characters from `first` to `last`. -/
def between
    (first last : Char) :
    CodePointSet :=
  .span first.toNat (last.toNat + 1)

def lowercaseLetter : CodePointSet :=
  between 'a' 'z'

def uppercaseLetter : CodePointSet :=
  between 'A' 'Z'

def letter : CodePointSet :=
  lowercaseLetter.union uppercaseLetter

def digit : CodePointSet :=
  between '0' '9'

def letterOrDigit : CodePointSet :=
  letter.union digit

/-- What an identifier is made of. -/
def wordChar : CodePointSet :=
  letterOrDigit.addChar '_'

def hexDigit : CodePointSet :=
  (digit.union (between 'a' 'f')).union (between 'A' 'F')

/-- The visible characters that are neither letters nor digits. -/
def punctuation : CodePointSet :=
  (between '!' '~').inter letterOrDigit.compl

def visible : CodePointSet :=
  letterOrDigit.union punctuation

def printable : CodePointSet :=
  visible.addChar ' '

def control : CodePointSet :=
  (CodePointSet.span 0 0x20).addChar '\x7f'

/-- A space or a horizontal tab. -/
def blank : CodePointSet :=
  .ofChars [' ', '\t']

/-- A space, a tab or a line end; the tabs and line ends are next to each other. -/
def space : CodePointSet :=
  (between '\t' '\r').addChar ' '

def ascii : CodePointSet :=
  .span 0 0x80

/-- The class with a given name, if it is one of the ASCII classes. -/
def ascii?
    (name : String) :
    Option CodePointSet :=
  match name with
  | "Lower" =>
      some lowercaseLetter
  | "Upper" =>
      some uppercaseLetter
  | "ASCII" =>
      some ascii
  | "Alpha" =>
      some letter
  | "Digit" =>
      some digit
  | "Alnum" =>
      some letterOrDigit
  | "Punct" =>
      some punctuation
  | "Graph" =>
      some visible
  | "Print" =>
      some printable
  | "Blank" =>
      some blank
  | "Cntrl" =>
      some control
  | "XDigit" =>
      some hexDigit
  | "Space" =>
      some space
  | _ =>
      none

end LexicalAutomata.NamedClass
