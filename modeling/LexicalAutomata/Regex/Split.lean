import LexicalAutomata.Regex.Basic

namespace LexicalAutomata

/-!
# Splitting around matches

The matches separate fields.  A positive limit bounds the number of fields, and
what is left over goes into the last one.  Without a limit all fields are kept,
except that the limit zero drops the empty fields at the end.
-/

/-- Without the empty texts at the end. -/
def dropTrailingEmpty
    (fields : List (List Char)) :
    List (List Char) :=
  (fields.reverse.dropWhile List.isEmpty).reverse

/-- The fields around separators, where `ahead` is in front of each and `last` behind all. -/
def limitFields
    (ahead : List (List Char))
    (last : List Char)
    (limit : Int) :
    List (List Char) :=
  if limit = 0 ∧ ahead ≠ [] then
    dropTrailingEmpty (ahead ++ [last])
  else
    ahead ++ [last]

/-- How many separators may be used under a limit, if there is a bound. -/
def separatorLimit
    (limit : Int) :
    Option Nat :=
  if 0 < limit then
    some (limit.toNat - 1)
  else
    none

/-- The matches that are used as separators under a limit. -/
def separators
    (occurrences : List Match)
    (limit : Int) :
    List Match :=
  match separatorLimit limit with
  | none =>
      occurrences
  | some count =>
      occurrences.take count

/-- The text behind the last of some matches. -/
def textBehind
    (text : List Char)
    (occurrences : List Match) :
    List Char :=
  match occurrences.getLast? with
  | none =>
      text
  | some last =>
      last.after.rest

namespace Regex

/-- The fields around the matches of a text. -/
def splitChars
    (regex : Regex)
    (text : List Char)
    (limit : Int) :
    List (List Char) :=
  let used := separators (regex.tile text).1 limit
  limitFields (used.map Match.skipped) (textBehind text used) limit

/-- The fields around the matches of a text. -/
def split
    (regex : Regex)
    (text : String)
    (limit : Int) :
    List String :=
  (regex.splitChars text.toList limit).map .ofList

end Regex

end LexicalAutomata
