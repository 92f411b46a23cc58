import LexicalAutomata.NamedClass.Ascii
import LexicalAutomata.NamedClass.Property
import LexicalAutomata.Unicode.Block
import LexicalAutomata.Unicode.Case
import LexicalAutomata.Unicode.WhiteSpace

namespace LexicalAutomata.NamedClass

/-!
# Classes by name

A class of characters is named by an ASCII class, by a predicate of characters,
by a block after `In`, or by a category code with or without `Is` in front.
-/

/-- White space at which a line may be broken, and the four information separators. -/
def breakingSpace : CodePointSet :=
  (Unicode.whiteSpace.toSet.inter
      (CodePointSet.ofChars ['\u0085', '\u00A0', '\u2007', '\u202F']).compl).addSpan 0x1C 0x20

/-- The class with a given name, if it is a predicate of characters. -/
def predicate?
    [PropertyParser]
    (name : String) :
    Option CodePointSet :=
  match name with
  | "javaLowerCase" =>
      some Unicode.lowercase.toSet
  | "javaUpperCase" =>
      some Unicode.uppercase.toSet
  | "javaWhitespace" =>
      some breakingSpace
  | "javaMirrored" =>
      property? "Bidi_Mirrored"
  | _ =>
      none

/-- Block names are compared without case, blanks, underscores and hyphens. -/
def blockKey
    (name : List Char) :
    List Char :=
  (name.filter fun char => !([' ', '_', '-'].contains char)).flatMap Unicode.toLowercase

/-- The class of the block with a given name. -/
def block?
    (name : List Char) :
    Option CodePointSet :=
  (Unicode.blocks.find? fun block => blockKey block.name.toList == blockKey name).map
    fun block => .span block.first (block.last + 1)

/-- The class of a category or of a group of categories; the surrogates belong to the others. -/
def category?
    [PropertyParser]
    (code : String) :
    Option CodePointSet :=
  if code ∈ categoryCodes then
    if code = "Cs" then
      some surrogates
    else
      (property? code).map fun points =>
        if code = "C" then
          points.addSpan surrogateFirst surrogateLimit
        else
          points
  else
    none

/-- The class of a block or of a category, as the beginning of the name tells. -/
def ofUnicode?
    [PropertyParser]
    (name : String) :
    Option CodePointSet :=
  match name.toList with
  | 'I' :: 'n' :: block =>
      block? block
  | 'I' :: 's' :: code =>
      category? (.ofList code)
  | _ =>
      category? name

/-- Without regard to case, a class of capitals stands for the class of small letters. -/
def foldedName
    (name : String) :
    String :=
  match name with
  | "Upper" =>
      "Lower"
  | "javaUpperCase" =>
      "javaLowerCase"
  | "Lu" =>
      "Ll"
  | "IsLu" =>
      "Ll"
  | _ =>
      name

/-- The class with exactly the given name. -/
def byName?
    [PropertyParser]
    (name : String) :
    Option CodePointSet :=
  ascii? name <|> predicate? name <|> ofUnicode? name

/-- The class with the given name. -/
def named?
    [PropertyParser]
    (name : String)
    (caseInsensitive : Bool) :
    Option CodePointSet :=
  byName? (if caseInsensitive then foldedName name else name)

/-- The class that a letter stands for after a backslash; a capital stands for the complement. -/
def escape? : Char → Option CodePointSet
  | 'd' =>
      some digit
  | 's' =>
      some space
  | 'w' =>
      some wordChar
  | 'D' =>
      some digit.compl
  | 'S' =>
      some space.compl
  | 'W' =>
      some wordChar.compl
  | _ =>
      none

end LexicalAutomata.NamedClass
