import LexicalAutomata.CodePointSet.Basic
import LexicalAutomata.Unicode.Case

namespace LexicalAutomata.CodePointSet

/-!
# Adding characters in both cases
-/

/-- Add the case counterpart of a character, if it has one. -/
def addCounterpart
    (set : CodePointSet)
    (char : Char) :
    CodePointSet :=
  match Unicode.caseCounterpart? char with
  | none =>
      set
  | some counterpart =>
      set.addChar counterpart

@[simp] theorem mem_addCounterpart
    {set : CodePointSet}
    {char : Char}
    {codePoint : Nat} :
    codePoint ∈ set.addCounterpart char ↔
      (∃ counterpart, Unicode.caseCounterpart? char = some counterpart ∧
        codePoint = counterpart.toNat) ∨ codePoint ∈ set := by
  unfold addCounterpart
  split <;> simp_all

/-- Add a character in both of its cases. -/
def addCharFolded
    (set : CodePointSet)
    (char : Char) :
    CodePointSet :=
  (set.addChar char).addCounterpart char

/-- Add the case counterpart of the character with a given code point. -/
def addCounterpartAt
    (set : CodePointSet)
    (codePoint : Nat) :
    CodePointSet :=
  match charOfCodePoint? codePoint with
  | none =>
      set
  | some char =>
      set.addCounterpart char

/-- Add a span and the case counterparts of all of its characters. -/
def addSpanFolded
    (set : CodePointSet)
    (first limit : Nat) :
    CodePointSet :=
  (List.range' first (min limit codePointLimit - first)).foldl addCounterpartAt
    (set.addSpan first limit)

end LexicalAutomata.CodePointSet
