import LexicalAutomata.Unicode.Category.Letter
import LexicalAutomata.Unicode.Category.Mark
import LexicalAutomata.Unicode.Category.Number
import LexicalAutomata.Unicode.Category.Punctuation
import LexicalAutomata.Unicode.Category.Symbol
import LexicalAutomata.Unicode.Category.Separator
import LexicalAutomata.Unicode.Category.Control

namespace LexicalAutomata.Unicode

/-!
# General categories

Every character belongs to one of twenty-nine categories, which are collected in
seven groups.  A character that no table lists is unassigned.  The surrogates are
no characters and belong to none of them.
-/

/-- The groups of categories, by the first letter of their codes. -/
inductive CategoryGroup where
  | letter
  | mark
  | number
  | punctuation
  | symbol
  | separator
  | other
  deriving Repr, DecidableEq

/-- The general categories. -/
inductive Category where
  | uppercaseLetter
  | lowercaseLetter
  | titlecaseLetter
  | modifierLetter
  | otherLetter
  | nonspacingMark
  | spacingMark
  | enclosingMark
  | decimalNumber
  | letterNumber
  | otherNumber
  | connectorPunctuation
  | dashPunctuation
  | openPunctuation
  | closePunctuation
  | initialPunctuation
  | finalPunctuation
  | otherPunctuation
  | mathSymbol
  | currencySymbol
  | modifierSymbol
  | otherSymbol
  | spaceSeparator
  | lineSeparator
  | paragraphSeparator
  | control
  | format
  | privateUse
  | unassigned
  deriving Repr, DecidableEq

namespace CategoryGroup

/-- The one-letter code of a group. -/
def code : CategoryGroup → String
  | .letter =>
      "L"
  | .mark =>
      "M"
  | .number =>
      "N"
  | .punctuation =>
      "P"
  | .symbol =>
      "S"
  | .separator =>
      "Z"
  | .other =>
      "C"

/-- Every group. -/
def all : List CategoryGroup :=
  [.letter, .mark, .number, .punctuation, .symbol, .separator, .other]

/-- The categories of a group. -/
def members : CategoryGroup → List Category
  | .letter =>
      [.uppercaseLetter, .lowercaseLetter, .titlecaseLetter, .modifierLetter, .otherLetter]
  | .mark =>
      [.nonspacingMark, .spacingMark, .enclosingMark]
  | .number =>
      [.decimalNumber, .letterNumber, .otherNumber]
  | .punctuation =>
      [.connectorPunctuation, .dashPunctuation, .openPunctuation, .closePunctuation,
        .initialPunctuation, .finalPunctuation, .otherPunctuation]
  | .symbol =>
      [.mathSymbol, .currencySymbol, .modifierSymbol, .otherSymbol]
  | .separator =>
      [.spaceSeparator, .lineSeparator, .paragraphSeparator]
  | .other =>
      [.control, .format, .privateUse, .unassigned]

end CategoryGroup

namespace Category

/-- The two-letter code of a category. -/
def code : Category → String
  | .uppercaseLetter =>
      "Lu"
  | .lowercaseLetter =>
      "Ll"
  | .titlecaseLetter =>
      "Lt"
  | .modifierLetter =>
      "Lm"
  | .otherLetter =>
      "Lo"
  | .nonspacingMark =>
      "Mn"
  | .spacingMark =>
      "Mc"
  | .enclosingMark =>
      "Me"
  | .decimalNumber =>
      "Nd"
  | .letterNumber =>
      "Nl"
  | .otherNumber =>
      "No"
  | .connectorPunctuation =>
      "Pc"
  | .dashPunctuation =>
      "Pd"
  | .openPunctuation =>
      "Ps"
  | .closePunctuation =>
      "Pe"
  | .initialPunctuation =>
      "Pi"
  | .finalPunctuation =>
      "Pf"
  | .otherPunctuation =>
      "Po"
  | .mathSymbol =>
      "Sm"
  | .currencySymbol =>
      "Sc"
  | .modifierSymbol =>
      "Sk"
  | .otherSymbol =>
      "So"
  | .spaceSeparator =>
      "Zs"
  | .lineSeparator =>
      "Zl"
  | .paragraphSeparator =>
      "Zp"
  | .control =>
      "Cc"
  | .format =>
      "Cf"
  | .privateUse =>
      "Co"
  | .unassigned =>
      "Cn"

/-- Every category. -/
def all : List Category :=
  CategoryGroup.all.flatMap CategoryGroup.members

/-- The table of a category; the unassigned characters have none. -/
def table? : Category → Option RunTable
  | .uppercaseLetter =>
      some Unicode.uppercaseLetter
  | .lowercaseLetter =>
      some Unicode.lowercaseLetter
  | .titlecaseLetter =>
      some Unicode.titlecaseLetter
  | .modifierLetter =>
      some Unicode.modifierLetter
  | .otherLetter =>
      some Unicode.otherLetter
  | .nonspacingMark =>
      some Unicode.nonspacingMark
  | .spacingMark =>
      some Unicode.spacingMark
  | .enclosingMark =>
      some Unicode.enclosingMark
  | .decimalNumber =>
      some Unicode.decimalNumber
  | .letterNumber =>
      some Unicode.letterNumber
  | .otherNumber =>
      some Unicode.otherNumber
  | .connectorPunctuation =>
      some Unicode.connectorPunctuation
  | .dashPunctuation =>
      some Unicode.dashPunctuation
  | .openPunctuation =>
      some Unicode.openPunctuation
  | .closePunctuation =>
      some Unicode.closePunctuation
  | .initialPunctuation =>
      some Unicode.initialPunctuation
  | .finalPunctuation =>
      some Unicode.finalPunctuation
  | .otherPunctuation =>
      some Unicode.otherPunctuation
  | .mathSymbol =>
      some Unicode.mathSymbol
  | .currencySymbol =>
      some Unicode.currencySymbol
  | .modifierSymbol =>
      some Unicode.modifierSymbol
  | .otherSymbol =>
      some Unicode.otherSymbol
  | .spaceSeparator =>
      some Unicode.spaceSeparator
  | .lineSeparator =>
      some Unicode.lineSeparator
  | .paragraphSeparator =>
      some Unicode.paragraphSeparator
  | .control =>
      some Unicode.control
  | .format =>
      some Unicode.format
  | .privateUse =>
      some Unicode.privateUse
  | .unassigned =>
      none

/-- The surrogates and everything that a table lists. -/
def assigned : CodePointSet :=
  (all.filterMap table?).foldl (fun set table => set.union table.toSet)
    (.span surrogateFirst surrogateLimit)

/-- The code points of a category. -/
def toSet : Category → CodePointSet
  | .unassigned =>
      assigned.compl
  | category =>
      (category.table?.map RunTable.toSet).getD .empty

/-- Whether a character belongs to a category that has a table. -/
def lists
    (category : Category)
    (char : Char) :
    Bool :=
  category.table?.any fun table => table.contains char.toNat

/-- The category of a character. -/
def ofChar
    (char : Char) :
    Category :=
  (all.find? fun category => category.lists char).getD .unassigned

end Category

/-- The code points of all categories of a group. -/
def CategoryGroup.toSet
    (group : CategoryGroup) :
    CodePointSet :=
  group.members.foldl (fun set category => set.union category.toSet) .empty

end LexicalAutomata.Unicode
