import LexicalAutomata.CodePointSet.Basic

namespace LexicalAutomata

/-!
# Properties of characters

Which characters belong to a general category, and which are mirrored, is settled by the
version of Unicode.  A parser for the syntax of single classes knows that, and the set of a
property is read off its answer.
-/

/-- What the syntax of a single class comes to. -/
inductive ClassSyntax where
  /-- The characters of some ranges, both ends of each range among them. -/
  | ranges (ranges : List (Char × Char))
  /-- The text of the only character. -/
  | literal (bytes : ByteArray)
  | other

namespace NamedClass

/-- The codes of the general categories and of their groups. -/
def categoryCodes : List String :=
  ["L", "Lu", "Ll", "Lt", "Lm", "Lo",
    "M", "Mn", "Mc", "Me",
    "N", "Nd", "Nl", "No",
    "P", "Pc", "Pd", "Ps", "Pe", "Pi", "Pf", "Po",
    "S", "Sm", "Sc", "Sk", "So",
    "Z", "Zs", "Zl", "Zp",
    "C", "Cc", "Cf", "Cs", "Co", "Cn"]

/-- The surrogates, which are code points but no characters. -/
def surrogates : CodePointSet :=
  .span surrogateFirst surrogateLimit

/-- The text that asks for a property. -/
def propertyPattern
    (name : String) :
    String :=
  "\\p\x7b" ++ name ++ "\x7d"

/-- The set that the syntax of a class stands for. -/
def pointsOf? : ClassSyntax → Option CodePointSet
  | .ranges ranges =>
      some (ranges.foldl (fun set range => set.addSpan range.1.toNat (range.2.toNat + 1)) .empty)
  | .literal bytes =>
      (String.fromUTF8? bytes).map fun text => .ofChars text.toList
  | .other =>
      none

end NamedClass

/-- A parser for the syntax of classes, which knows the properties of some version of Unicode. -/
class PropertyParser where
  /-- What the text of a class comes to, unless the parser refuses it. -/
  parse? : (pattern : String) → Option ClassSyntax
  /-- Every category has a set; the surrogates have none, since they are no characters. -/
  isSome_category :
    ∀ code ∈ NamedClass.categoryCodes,
      code ≠ "Cs" →
        ((parse? (NamedClass.propertyPattern code)).bind NamedClass.pointsOf?).isSome = true

namespace NamedClass

/-- The characters with a property, if the property is known. -/
def property?
    [PropertyParser]
    (name : String) :
    Option CodePointSet :=
  (PropertyParser.parse? (propertyPattern name)).bind pointsOf?

end NamedClass

end LexicalAutomata
