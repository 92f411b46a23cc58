import LexicalAutomata.Unicode.Case.Letterform
import LexicalAutomata.Unicode.Case.Mapping

namespace LexicalAutomata.Unicode

/-!
# Case

The case counterpart of a character is its form in the other case, provided
that it is in one of the cases and the other form is one different character.
-/

/-- Where a run of case mappings sends a code point. -/
def CaseRun.map?
    (entry : CaseRun)
    (codePoint : Nat) :
    Option Nat :=
  if entry.run.contains codePoint then
    some (Int.toNat (codePoint + entry.shift))
  else
    none

/-- Look a code point up among runs of case mappings. -/
def mapCase?
    (entries : Array CaseRun)
    (char : Char) :
    Option Char :=
  (searchRun (fun entry => (entry.run.first, entry.run.last)) entries char.toNat 0 entries.size)
    |>.bind (fun entry => entry.map? char.toNat)
    |>.bind charOfCodePoint?

/-- The upper-case form of a character, if that is one other character. -/
def uppercaseForm?
    (char : Char) :
    Option Char :=
  mapCase? uppercaseRuns char

/-- The lower-case form of a character, if that is one other character. -/
def lowercaseForm?
    (char : Char) :
    Option Char :=
  mapCase? lowercaseRuns char

/-- The capital I with a dot is the one character whose lower case takes two characters. -/
def dottedCapitalI : Char :=
  '\u0130'

/-- A character in lower case; a character without case is its own lower case. -/
def toLowercase
    (char : Char) :
    List Char :=
  if char = dottedCapitalI then
    ['i', '\u0307']
  else
    [(lowercaseForm? char).getD char]

/-- The case counterpart of a character. -/
def caseCounterpart?
    (char : Char) :
    Option Char :=
  if lowercase.contains char.toNat then
    uppercaseForm? char
  else if uppercase.contains char.toNat then
    lowercaseForm? char
  else
    none

end LexicalAutomata.Unicode
