import LexicalAutomata.CodePointSet.Folding
import LexicalAutomata.Expression.Escape

namespace LexicalAutomata

/-!
# Bracketed classes in expression text

Inside brackets, entries are added up to an operand, operands are intersected,
and a caret behind the opening bracket takes the complement.  A class may hold
other classes; those that are still open are kept as a stack of frames.
-/

/-- Groups and classes may be nested this deep. -/
def nestingLimit : Nat :=
  256

/-- A class that is still open. -/
structure ClassFrame where
  /-- The offset of the opening bracket. -/
  opening : Nat
  negated : Bool
  /-- The intersection of the complete operands, if there are any. -/
  met : Option CodePointSet
  /-- The entries of the last operand so far. -/
  current : CodePointSet
  /-- The last operand has an entry. -/
  hasEntry : Bool

namespace ClassFrame

/-- Add an entry to the last operand. -/
def add
    (frame : ClassFrame)
    (entry : CodePointSet) :
    ClassFrame :=
  { frame with current := frame.current.union entry, hasEntry := true }

/-- The intersection of all operands. -/
def meet
    (frame : ClassFrame) :
    CodePointSet :=
  match frame.met with
  | none =>
      frame.current
  | some met =>
      met.inter frame.current

/-- Complete the last operand and begin another one. -/
def nextOperand
    (frame : ClassFrame) :
    ClassFrame :=
  { frame with met := some frame.meet, current := .empty, hasEntry := false }

/-- The set that a class stands for. -/
def close
    (frame : ClassFrame) :
    CodePointSet :=
  if frame.negated then
    frame.meet.compl
  else
    frame.meet

end ClassFrame

/-- Where a step inside a class has led. -/
inductive ClassProgress where
  /-- The innermost class is still open, and so are those around it. -/
  | inside (frame : ClassFrame) (outer : List ClassFrame)
  | complete (points : CodePointSet)

namespace Cursor

/-- Read an opening bracket and the caret behind it; `depth` groups and classes are open. -/
def openClass
    (depth : Nat)
    (cursor : Cursor) :
    Except TextError (ClassFrame × Cursor) :=
  if nestingLimit ≤ depth then
    cursor.fail .nestingTooDeep
  else if (cursor.advance 1).peek? = some '^' then
    .ok (⟨cursor.offset, true, none, .empty, false⟩, cursor.advance 2)
  else
    .ok (⟨cursor.offset, false, none, .empty, false⟩, cursor.advance 1)

theorem openClass_shorter
    {depth : Nat}
    {cursor after : Cursor}
    {frame : ClassFrame}
    (present : cursor.rest ≠ [])
    (read : cursor.openClass depth = .ok (frame, after)) :
    after.rest.length < cursor.rest.length := by
  have := List.length_pos_iff.mpr present
  unfold openClass at read
  split at read
  · contradiction
  · split at read <;> cases read <;> simp only [rest_advance, List.length_drop] <;> omega

/-- Between characters, a dash makes a span unless the operand ends behind it. -/
def dashMakesSpan : List Char → Bool
  | '-' :: ']' :: _ =>
      false
  | '-' :: '&' :: '&' :: _ =>
      false
  | '-' :: _ :: _ =>
      true
  | _ =>
      false

/-- Read the last character of a span behind the dash. -/
def readSpanEnd
    [PropertyParser]
    (caseInsensitive : Bool)
    (dash : Cursor) :
    Except TextError (Char × Cursor) :=
  let cursor := dash.advance 1
  match cursor.peek? with
  | some '\\' =>
      readEscape caseInsensitive cursor >>= fun (escaped, after) =>
        match escaped with
        | .char last =>
            .ok (last, after)
        | _ =>
            dash.fail .malformedSpanEnd
  | some '[' =>
      dash.fail .malformedSpanEnd
  | _ =>
      cursor.next

theorem readSpanEnd_le
    [PropertyParser]
    {caseInsensitive : Bool}
    {dash after : Cursor}
    {last : Char}
    (read : readSpanEnd caseInsensitive dash = .ok (last, after)) :
    after.rest.length ≤ dash.rest.length := by
  have shorter : (dash.advance 1).rest.length ≤ dash.rest.length := by
    simp
  unfold readSpanEnd at read
  dsimp only at read
  split at read
  · obtain ⟨⟨escaped, next⟩, first, second⟩ := bind_eq_ok_iff.mp read
    have := readEscape_shorter first
    dsimp only at second
    split at second
    · cases second
      omega
    · contradiction
  · contradiction
  · have := next_shorter read
    omega

/-- The characters from `first` to `last`, in both cases if case does not matter. -/
def spanOf
    (caseInsensitive : Bool)
    (first last : Char) :
    CodePointSet :=
  if caseInsensitive then
    CodePointSet.empty.addSpanFolded first.toNat (last.toNat + 1)
  else
    .span first.toNat (last.toNat + 1)

/-- Read what is behind the first character of an entry: maybe a dash and a last character. -/
def readSpan
    [PropertyParser]
    (caseInsensitive : Bool)
    (first : Char)
    (cursor : Cursor) :
    Except TextError (CodePointSet × Cursor) :=
  if dashMakesSpan cursor.rest then
    readSpanEnd caseInsensitive cursor >>= fun (last, after) =>
      if last < first then
        cursor.fail (.reversedSpan first last)
      else
        .ok (spanOf caseInsensitive first last, after)
  else
    .ok (spanOf caseInsensitive first first, cursor)

theorem readSpan_le
    [PropertyParser]
    {caseInsensitive : Bool}
    {first : Char}
    {cursor after : Cursor}
    {points : CodePointSet}
    (read : readSpan caseInsensitive first cursor = .ok (points, after)) :
    after.rest.length ≤ cursor.rest.length := by
  unfold readSpan at read
  split at read
  · obtain ⟨⟨last, next⟩, readEnd, second⟩ := bind_eq_ok_iff.mp read
    dsimp only at second
    split at second
    · contradiction
    · cases second
      exact readSpanEnd_le readEnd
  · cases read
    exact Nat.le_refl _

/-- Read one entry that is not a class in brackets. -/
def readEntry
    [PropertyParser]
    (caseInsensitive : Bool)
    (cursor : Cursor) :
    Except TextError (CodePointSet × Cursor) :=
  match cursor.peek? with
  | some '.' =>
      .ok (.full, cursor.advance 1)
  | some '\\' =>
      readEscape caseInsensitive cursor >>= fun (escaped, after) =>
        match escaped with
        | .char first =>
            readSpan caseInsensitive first after
        | .points points =>
            .ok (points, after)
        | .boundary boundary =>
            (cursor.advance 1).fail (.boundaryInClass boundary)
  | _ =>
      cursor.next >>= fun (first, after) =>
        readSpan caseInsensitive first after

theorem readEntry_shorter
    [PropertyParser]
    {caseInsensitive : Bool}
    {cursor after : Cursor}
    {entry : CodePointSet}
    (read : readEntry caseInsensitive cursor = .ok (entry, after)) :
    after.rest.length < cursor.rest.length := by
  unfold readEntry at read
  split at read
  · rename_i present
    have := List.length_pos_iff.mpr (List.ne_nil_of_mem (List.mem_of_head? present))
    cases read
    simp only [rest_advance, List.length_drop]
    omega
  · obtain ⟨⟨escaped, next⟩, first, second⟩ := bind_eq_ok_iff.mp read
    have := readEscape_shorter first
    dsimp only at second
    split at second
    · have := readSpan_le second
      omega
    · cases second
      exact this
    · contradiction
  · obtain ⟨⟨char, next⟩, first, second⟩ := bind_eq_ok_iff.mp read
    have := next_shorter first
    have := readSpan_le second
    omega

/-- End the innermost class at its closing bracket. -/
def closeClass
    (frame : ClassFrame)
    (outer : List ClassFrame) :
    ClassProgress :=
  match outer with
  | [] =>
      .complete frame.close
  | parent :: rest =>
      .inside (parent.add frame.close) rest

/-- Read on by one entry, bracket or ampersand pair; `groups` groups are open. -/
def readInClass
    [PropertyParser]
    (caseInsensitive : Bool)
    (groups : Nat)
    (frame : ClassFrame)
    (outer : List ClassFrame)
    (cursor : Cursor) :
    Except TextError (ClassProgress × Cursor) :=
  match cursor.rest with
  | [] =>
      failAt frame.opening .unclosedClass
  | ']' :: _ =>
      if frame.hasEntry then
        .ok (closeClass frame outer, cursor.advance 1)
      else
        cursor.fail .emptyClass
  | '&' :: '&' :: _ =>
      if frame.hasEntry then
        .ok (.inside frame.nextOperand outer, cursor.advance 2)
      else
        cursor.fail .emptyClass
  | '[' :: _ =>
      cursor.openClass (groups + outer.length + 1) >>= fun (inner, after) =>
        .ok (.inside inner (frame :: outer), after)
  | _ =>
      readEntry caseInsensitive cursor >>= fun (entry, after) =>
        .ok (.inside (frame.add entry) outer, after)

theorem readInClass_shorter
    [PropertyParser]
    {caseInsensitive : Bool}
    {groups : Nat}
    {frame : ClassFrame}
    {outer : List ClassFrame}
    {cursor after : Cursor}
    {progress : ClassProgress}
    (read : readInClass caseInsensitive groups frame outer cursor = .ok (progress, after)) :
    after.rest.length < cursor.rest.length := by
  unfold readInClass at read
  split at read
  · contradiction
  · rename_i shape
    split at read
    · cases read
      simp [shape]
    · contradiction
  · rename_i shape
    split at read
    · cases read
      simp only [rest_advance, shape, List.length_drop, List.length_cons]
      omega
    · contradiction
  · rename_i shape
    obtain ⟨⟨inner, next⟩, first, second⟩ := bind_eq_ok_iff.mp read
    cases second
    exact openClass_shorter (by simp [shape]) first
  · obtain ⟨⟨entry, next⟩, first, second⟩ := bind_eq_ok_iff.mp read
    cases second
    exact readEntry_shorter first

/-- Read up to the bracket that closes the outermost class. -/
def readClassBody
    [PropertyParser]
    (caseInsensitive : Bool)
    (groups : Nat)
    (frame : ClassFrame)
    (outer : List ClassFrame)
    (cursor : Cursor) :
    Except TextError (CodePointSet × Cursor) :=
  match _ : readInClass caseInsensitive groups frame outer cursor with
  | .error error =>
      .error error
  | .ok (.complete points, after) =>
      .ok (points, after)
  | .ok (.inside frame outer, after) =>
      readClassBody caseInsensitive groups frame outer after
  termination_by cursor.rest.length
  decreasing_by exact readInClass_shorter ‹_›

/-- Read the class whose opening bracket is next. -/
def readClass
    [PropertyParser]
    (cursor : Cursor)
    (caseInsensitive : Bool)
    (groups : Nat) :
    Except TextError (CodePointSet × Cursor) :=
  cursor.openClass groups >>= fun (frame, after) =>
    readClassBody caseInsensitive groups frame [] after

theorem readClassBody_shorter
    [PropertyParser]
    {caseInsensitive : Bool}
    {groups : Nat}
    {frame : ClassFrame}
    {outer : List ClassFrame}
    {cursor after : Cursor}
    {points : CodePointSet}
    (read : readClassBody caseInsensitive groups frame outer cursor = .ok (points, after)) :
    after.rest.length < cursor.rest.length := by
  fun_induction readClassBody caseInsensitive groups frame outer cursor with
  | case1 =>
      contradiction
  | case2 _ _ _ _ _ step =>
      cases read
      exact readInClass_shorter step
  | case3 _ _ _ _ _ _ step inductionHypothesis =>
      exact Nat.lt_trans (inductionHypothesis read) (readInClass_shorter step)

theorem readClass_shorter
    [PropertyParser]
    {caseInsensitive : Bool}
    {groups : Nat}
    {cursor after : Cursor}
    {points : CodePointSet}
    (present : cursor.rest ≠ [])
    (read : cursor.readClass caseInsensitive groups = .ok (points, after)) :
    after.rest.length < cursor.rest.length := by
  obtain ⟨⟨frame, next⟩, first, second⟩ := bind_eq_ok_iff.mp read
  exact Nat.lt_trans (readClassBody_shorter second) (openClass_shorter present first)

end Cursor

end LexicalAutomata
