import LexicalAutomata.NamedClass.Property
import LexicalAutomata.Unicode.Category
import LexicalAutomata.Unicode.Mirrored

namespace LexicalAutomata.Unicode

/-!
# The properties in the tables

The tables answer for the categories and for the mirrored characters.
-/

/-- The characters with a property that is tabulated. -/
def tabulated?
    (name : String) :
    Option CodePointSet :=
  if name = "Bidi_Mirrored" then
    some mirrored.toSet
  else
    match CategoryGroup.all.find? fun group => group.code == name with
    | some group =>
        some group.toSet
    | none =>
        (Category.all.find? fun category => category.code == name).map Category.toSet

/-- The ranges of characters in a set without surrogates. -/
def rangesOf
    (set : CodePointSet) :
    List (Char × Char) :=
  set.intervals.map fun interval => (.ofNat interval.first, .ofNat (interval.limit - 1))

/-- Look up the property between the braces. -/
def parse?
    (pattern : String) :
    Option ClassSyntax :=
  match pattern.toList with
  | '\\' :: 'p' :: '\x7b' :: rest =>
      (tabulated? (.ofList rest.dropLast)).map fun set => .ranges (rangesOf set)
  | _ =>
      none

instance : PropertyParser where
  parse? :=
    parse?
  isSome_category := by
    decide +kernel

end LexicalAutomata.Unicode
