import LexicalAutomata.Automaton.Length
import LexicalAutomata.Automaton.Pruning
import LexicalAutomata.Error
import LexicalAutomata.Graph.OfExpression
import LexicalAutomata.Regex.Match

namespace LexicalAutomata

/-!
# Compiled expressions
-/

/-- An expression together with its automaton. -/
structure Regex where
  expression : String
  options : Options
  automaton : Automaton Unit

namespace Regex

/-- Compile an expression. -/
def compile
    [PropertyParser]
    (expression : String)
    (options : Options := {}) :
    Except (Error Unit) Regex :=
  let (added, graph) := (Build.expression expression () options).run Graph.empty
  match added with
  | .error error =>
      .error (.text error)
  | .ok fragment =>
      match Automaton.ofGraph graph fragment.first with
      | .error ambiguity =>
          .error (.ambiguous ambiguity)
      | .ok automaton =>
          .ok ⟨expression, options, automaton⟩

/-- The expression, its options and the size of its automaton. -/
def describe
    (regex : Regex) :
    String :=
  "Regex \x7b expression: " ++ Text.quoted regex.expression ++
    ", options: " ++ regex.options.describe ++
    ", states: " ++ toString regex.automaton.size ++ " \x7d"

/-- The longest beginning of a text that is accepted. -/
def lookingAt?
    (regex : Regex)
    (text : String) :
    Option String :=
  (regex.automaton.longestAt (.start text.toList) 0).map fun found =>
    .ofList (text.toList.take found.length)

/-- Whether a text is accepted as a whole. -/
def isMatch
    (regex : Regex)
    (text : String) :
    Bool :=
  (regex.automaton.longestAt (.start text.toList) 0).any fun found =>
    found.length == text.toList.length

/-- The first match at or behind a byte offset, where the search starts. -/
def searchAt?
    (regex : Regex)
    (text : String)
    (offset : Nat) :
    Option Match :=
  (Place.atOrAfter? text.toList offset).bind regex.automaton.search

/-- The first match in a text. -/
def search?
    (regex : Regex)
    (text : String) :
    Option Match :=
  regex.searchAt? text 0

/-- That nothing was found up to a given offset. -/
def noMatch
    (regex : Regex)
    (offset : Nat) :
    TextError :=
  ⟨.noMatch regex.expression, offset⟩

/-- The first match in a text, which must have one. -/
def find
    (regex : Regex)
    (text : String) :
    Except TextError String :=
  match regex.search? text with
  | none =>
      .error (regex.noMatch text.utf8ByteSize)
  | some found =>
      .ok (.ofList found.text)

/-- All matches of a text, and the text behind the last one. -/
def tile
    (regex : Regex)
    (text : List Char) :
    List Match × List Char :=
  regex.automaton.tile (.start text)

/-- All matches of a text, one behind the other. -/
def findAll
    (regex : Regex)
    (text : String) :
    List Match :=
  (regex.tile text.toList).1

/-- A text with `replacement` in the place of every match. -/
def replace
    (regex : Regex)
    (text replacement : String) :
    String :=
  let (occurrences, rest) := regex.tile text.toList
  .ofList
    (occurrences.flatMap (fun found => found.skipped ++ replacement.toList) ++ rest)

end Regex

end LexicalAutomata
