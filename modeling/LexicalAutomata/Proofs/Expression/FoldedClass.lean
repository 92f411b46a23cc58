import LexicalAutomata.Proofs.CodePointSet.Canonical
import LexicalAutomata.Proofs.Expression.Folding
import Mathlib.Data.Option.Basic

namespace LexicalAutomata

/-!
# Classes in brackets without regard to case

A class is read entry by entry with regard to case and without, and the two ways of reading
stay side by side: the same classes are open, and what has been read of them differs in the
sets only.  Unions and intersections keep one set within the other; a complement would not.
-/

/-- Open classes are alike but for their sets, which have more if the text can be folded. -/
structure ClassFrame.WidensIn
    (text : List Char)
    (frame wider : ClassFrame) : Prop where
  opening : frame.opening = wider.opening
  negated : frame.negated = wider.negated
  notNegated : Foldable text → frame.negated = false
  met : Option.Rel (CodePointSet.WidensIn text) frame.met wider.met
  current : frame.current.WidensIn text wider.current
  hasEntry : frame.hasEntry = wider.hasEntry

namespace ClassFrame.WidensIn

variable {text : List Char} {frame wider : ClassFrame} {entry widerEntry : CodePointSet}

/-- Before its first entry, an open class is alike to itself unless it is negated. -/
theorem of_negated
    {opening : Nat}
    {negated : Bool}
    (notNegated : Foldable text → negated = false) :
    WidensIn text ⟨opening, negated, none, .empty, false⟩
      ⟨opening, negated, none, .empty, false⟩ where
  opening := rfl
  negated := rfl
  notNegated := notNegated
  met := .none
  current _ _ member := member
  hasEntry := rfl

/-- A wider entry keeps a class wider. -/
theorem add
    (widens : frame.WidensIn text wider)
    (entryWidens : entry.WidensIn text widerEntry) :
    (frame.add entry).WidensIn text (wider.add widerEntry) where
  opening := widens.opening
  negated := widens.negated
  notNegated := widens.notNegated
  met := widens.met
  current foldable codePoint member :=
    CodePointSet.mem_union.mpr
      ((CodePointSet.mem_union.mp member).imp (widens.current foldable codePoint)
        (entryWidens foldable codePoint))
  hasEntry := rfl

/-- The operands of a wider class meet in a wider set. -/
theorem meet
    (widens : frame.WidensIn text wider) :
    frame.meet.WidensIn text wider.meet := by
  intro foldable codePoint member
  have met := widens.met
  unfold ClassFrame.meet at member ⊢
  cases frameMet : frame.met with
  | none =>
      rw [frameMet] at met member
      cases widerMet : wider.met with
      | none =>
          exact widens.current foldable codePoint member
      | some points =>
          rw [widerMet] at met
          cases met
  | some points =>
      rw [frameMet] at met member
      cases widerMet : wider.met with
      | none =>
          rw [widerMet] at met
          cases met
      | some widerPoints =>
          rw [widerMet] at met
          cases met with
          | some metWidens =>
              rw [CodePointSet.mem_inter] at member ⊢
              exact member.imp (metWidens foldable codePoint) (widens.current foldable codePoint)

/-- A wider class stays wider when an operand is begun. -/
theorem nextOperand
    (widens : frame.WidensIn text wider) :
    frame.nextOperand.WidensIn text wider.nextOperand where
  opening := widens.opening
  negated := widens.negated
  notNegated := widens.notNegated
  met := .some widens.meet
  current _ _ member := member
  hasEntry := rfl

/-- A wider class without a complement is a wider set. -/
theorem close
    (widens : frame.WidensIn text wider) :
    frame.close.WidensIn text wider.close := by
  intro foldable
  have plain := widens.notNegated foldable
  rw [ClassFrame.close, ClassFrame.close, ← widens.negated, plain]
  exact widens.meet foldable

end ClassFrame.WidensIn

/-- Classes have been read up to the same place, alike but for their sets. -/
inductive ClassProgress.WidensIn
    (text : List Char) :
    ClassProgress →
    ClassProgress →
    Prop where
  | inside
      {frame wider : ClassFrame}
      {outer widerOuter : List ClassFrame} :
      frame.WidensIn text wider →
      List.Forall₂ (ClassFrame.WidensIn text) outer widerOuter →
      WidensIn text (.inside frame outer) (.inside wider widerOuter)
  | complete
      {points wider : CodePointSet} :
      points.WidensIn text wider →
      WidensIn text (.complete points) (.complete wider)

namespace Cursor

variable {cursor after : Cursor} {whole : List Char} {groups : Nat}

/-- The last character of a span is read in the same way. -/
theorem parallel_readSpanEnd
    [PropertyParser]
    (inside : cursor.rest <:+ whole) :
    Parallel Eq (readSpanEnd false cursor) (readSpanEnd true cursor) := by
  have behindDash := (cursor.suffix_advance 1).trans inside
  unfold readSpanEnd
  dsimp only
  split
  · rename_i present
    refine (parallel_readEscape present behindDash).bind ?_
    intro escaped wider after _ widens
    cases widens with
    | same =>
        exact .refl _
    | points =>
        exact .fail
  · exact .fail
  · exact .refl _

/-- A span has all of its characters in both of the ways in which it is read. -/
theorem mem_spanOf_folded
    {first last : Char}
    {codePoint : Nat}
    (member : codePoint ∈ spanOf false first last) :
    codePoint ∈ spanOf true first last := by
  rw [spanOf, if_neg Bool.false_ne_true, CodePointSet.span, CodePointSet.mem_addSpan] at member
  rw [spanOf, if_pos rfl, CodePointSet.mem_addSpanFolded]
  exact member.imp_right Or.inr

/-- Spans are read in parallel. -/
theorem parallel_readSpan
    [PropertyParser]
    {first : Char}
    (inside : cursor.rest <:+ whole) :
    Parallel (CodePointSet.WidensIn whole) (readSpan false first cursor)
      (readSpan true first cursor) := by
  unfold readSpan
  split
  · refine (parallel_readSpanEnd inside).bind ?_
    rintro last _ after _ rfl
    dsimp only
    split
    · exact .fail
    · exact .ok (fun _ _ => mem_spanOf_folded) after
  · exact .ok (fun _ _ => mem_spanOf_folded) cursor

/-- Entries are read in parallel. -/
theorem parallel_readEntry
    [PropertyParser]
    (inside : cursor.rest <:+ whole) :
    Parallel (CodePointSet.WidensIn whole) (readEntry false cursor) (readEntry true cursor) := by
  unfold readEntry
  split
  · exact .ok (fun _ _ member => member) _
  · rename_i present
    refine (parallel_readEscape present inside).bind ?_
    intro escaped wider after read widens
    cases widens with
    | same =>
        cases escaped with
        | char first =>
            exact parallel_readSpan ((suffix_of_readEscape read).trans inside)
        | points points =>
            exact .ok (fun _ _ member => member) after
        | boundary boundary =>
            exact .fail
    | points widens =>
        exact .ok widens after
  · refine (Parallel.refl _).bind ?_
    rintro first _ after read rfl
    exact parallel_readSpan ((suffix_of_next read).trans inside)

/-- An open class is not negated if the text can be folded. -/
theorem widensIn_of_openClass
    {depth : Nat}
    {frame : ClassFrame}
    (present : cursor.peek? = some '[')
    (inside : cursor.rest <:+ whole)
    (read : cursor.openClass depth = .ok (frame, after)) :
    frame.WidensIn whole frame := by
  unfold openClass at read
  split at read
  · contradiction
  · split at read
    · rename_i caret
      cases read
      refine .of_negated fun foldable => ?_
      have written : cursor.rest = ['[', '^'] ++ ((cursor.advance 1).advance 1).rest := by
        rw [rest_eq_cons present, rest_eq_cons caret]
        rfl
      exact (foldable.noNegation (infix_of_suffix written inside)).elim
    · cases read
      exact .of_negated fun _ => rfl

/-- A class that is closed widens what is around it. -/
theorem widensIn_closeClass
    {frame wider : ClassFrame}
    {outer widerOuter : List ClassFrame}
    (widens : frame.WidensIn whole wider)
    (outerWiden : List.Forall₂ (ClassFrame.WidensIn whole) outer widerOuter) :
    (closeClass frame outer).WidensIn whole (closeClass wider widerOuter) := by
  cases outerWiden with
  | nil =>
      exact .complete widens.close
  | cons parentWidens restWiden =>
      exact .inside (parentWidens.add widens.close) restWiden

/-- A step inside a class leads to the same place with regard to case and without. -/
theorem parallel_readInClass
    [PropertyParser]
    {frame wider : ClassFrame}
    {outer widerOuter : List ClassFrame}
    (widens : frame.WidensIn whole wider)
    (outerWiden : List.Forall₂ (ClassFrame.WidensIn whole) outer widerOuter)
    (inside : cursor.rest <:+ whole) :
    Parallel (ClassProgress.WidensIn whole) (readInClass false groups frame outer cursor)
      (readInClass true groups wider widerOuter cursor) := by
  unfold readInClass
  rw [← widens.hasEntry, ← outerWiden.length_eq]
  split
  · exact .failAt
  · split
    · exact .ok (widensIn_closeClass widens outerWiden) _
    · exact .fail
  · split
    · exact .ok (.inside widens.nextOperand outerWiden) _
    · exact .fail
  · rename_i shape
    refine (Parallel.refl _).bind ?_
    rintro inner _ after read rfl
    have present : cursor.peek? = some '[' := by
      rw [peek?, shape]
      rfl
    exact .ok (.inside (widensIn_of_openClass present inside read) (.cons widens outerWiden)) after
  · refine (parallel_readEntry inside).bind ?_
    intro entry widerEntry after _ entryWidens
    exact .ok (.inside (widens.add entryWidens) outerWiden) after

/-- Classes are read in parallel. -/
theorem parallel_readClassBody
    [PropertyParser]
    {frame wider : ClassFrame}
    {outer widerOuter : List ClassFrame}
    (widens : frame.WidensIn whole wider)
    (outerWiden : List.Forall₂ (ClassFrame.WidensIn whole) outer widerOuter)
    (inside : cursor.rest <:+ whole) :
    Parallel (CodePointSet.WidensIn whole) (readClassBody false groups frame outer cursor)
      (readClassBody true groups wider widerOuter cursor) := by
  induction frame, outer, cursor using readClassBody.induct false groups
    generalizing wider widerOuter with
  | case1 frame outer cursor error failed =>
      rw [readClassBody, failed]
      rintro _ _ ⟨⟩
  | case2 frame outer cursor points after done =>
      obtain ⟨_, folded, progressWidens⟩ :=
        parallel_readInClass widens outerWiden inside _ _ done
      rw [readClassBody, done, readClassBody, folded]
      cases progressWidens with
      | complete pointsWiden =>
          exact .ok pointsWiden after
  | case3 frame outer cursor nextFrame nextOuter after progress inductionHypothesis =>
      obtain ⟨_, folded, progressWidens⟩ :=
        parallel_readInClass widens outerWiden inside _ _ progress
      rw [readClassBody, progress, readClassBody, folded]
      cases progressWidens with
      | inside nextWidens nextOuterWiden =>
          exact inductionHypothesis nextWidens nextOuterWiden
            ((suffix_of_readInClass progress).trans inside)

/-- A class that can be read stays one when case does not matter. -/
theorem parallel_readClass
    [PropertyParser]
    (present : cursor.peek? = some '[')
    (inside : cursor.rest <:+ whole) :
    Parallel (CodePointSet.WidensIn whole) (cursor.readClass false groups)
      (cursor.readClass true groups) := by
  refine (Parallel.refl _).bind ?_
  rintro frame _ after read rfl
  exact parallel_readClassBody (widensIn_of_openClass present inside read) .nil
    ((suffix_of_openClass read).trans inside)

end Cursor

end LexicalAutomata
