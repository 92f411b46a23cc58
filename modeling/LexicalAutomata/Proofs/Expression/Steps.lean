import LexicalAutomata.Expression.Parser

namespace LexicalAutomata

/-!
# The steps of reading an expression

The reader of expressions goes on by a bar, a parenthesis or a label, and ends at the end of
the text.  What every step keeps holds of the expression that has been read.
-/

namespace Level

variable {level : Level} {cursor : Cursor} {expression : Expression}

/-- A level is closed by completing its last branch, which is not empty. -/
theorem close_eq_ok_iff :
    level.close cursor = .ok expression ↔
      level.pieces ≠ [] ∧ expression = level.branches ++ [level.pieces] := by
  unfold close
  split
  · rename_i empty
    exact iff_of_false nofun fun closed => closed.1 (List.isEmpty_iff.mp empty)
  · rename_i present
    rw [Except.ok.injEq, eq_comm, iff_and_self]
    exact fun _ => mt List.isEmpty_iff.mpr present

theorem close_of_nonempty
    (nonempty : level.pieces ≠ [])
    (cursor : Cursor) :
    level.close cursor = .ok (level.branches ++ [level.pieces]) :=
  close_eq_ok_iff.mpr ⟨nonempty, rfl⟩

end Level

namespace Cursor

/-- What a step of the reader has read, and where it leads. -/
inductive ExpressionStep
    [PropertyParser]
    (caseInsensitive : Bool)
    (level : Level)
    (outer : List GroupFrame)
    (cursor : Cursor) :
    ExpressionProgress →
    Cursor →
    Prop where
  /-- The end of the text, with no group open. -/
  | ended
      {expression : Expression} :
      cursor.peek? = none →
      level.close cursor = .ok expression →
      outer = [] →
      ExpressionStep caseInsensitive level outer cursor (.complete expression) cursor
  /-- A bar behind a branch. -/
  | barred
      {branches : Expression} :
      cursor.peek? = some '|' →
      level.close cursor = .ok branches →
      ExpressionStep caseInsensitive level outer cursor (.inside ⟨branches, []⟩ outer)
        (cursor.advance 1)
  /-- The opening parenthesis of a group, which is not closed at once. -/
  | opened
      {char : Char} :
      cursor.peek? = some '(' →
      outer.length < nestingLimit →
      (cursor.advance 1).peek? = some char →
      char ≠ ')' →
      ExpressionStep caseInsensitive level outer cursor
        (.inside .empty (⟨cursor.offset, level⟩ :: outer)) (cursor.advance 1)
  /-- The closing parenthesis of a group, with its quantifier. -/
  | closed
      {branches : Expression}
      {frame : GroupFrame}
      {rest : List GroupFrame}
      {quantifier : Quantifier}
      {after : Cursor} :
      cursor.peek? = some ')' →
      level.close cursor = .ok branches →
      outer = frame :: rest →
      (cursor.advance 1).readQuantifier = .ok (quantifier, after) →
      ExpressionStep caseInsensitive level outer cursor
        (.inside (frame.level.push ⟨.group branches, quantifier⟩) rest) after
  /-- A label, with its quantifier. -/
  | labelled
      {char : Char}
      {label : Label}
      {quantifier : Quantifier}
      {behindLabel after : Cursor} :
      cursor.peek? = some char →
      char ∉ ['|', '(', ')'] →
      readLabel caseInsensitive outer.length cursor = .ok (label, behindLabel) →
      behindLabel.readQuantifier = .ok (quantifier, after) →
      ExpressionStep caseInsensitive level outer cursor
        (.inside (level.push ⟨.label label, quantifier⟩) outer) after

section Reading

variable {caseInsensitive : Bool} {level : Level} {outer : List GroupFrame}
  {cursor after : Cursor} {progress : ExpressionProgress} {expression : Expression}

/-- The reader goes on by one of the steps. -/
theorem expressionStep_of_readInExpression
    [PropertyParser]
    (read : readInExpression caseInsensitive level outer cursor = .ok (progress, after)) :
    ExpressionStep caseInsensitive level outer cursor progress after := by
  unfold readInExpression at read
  split at read
  · rename_i absent
    obtain ⟨expression, closed, second⟩ := bind_eq_ok_iff.mp read
    split at second
    · cases second
      exact .ended absent closed rfl
    · contradiction
  · rename_i present
    obtain ⟨branches, closed, second⟩ := bind_eq_ok_iff.mp read
    cases second
    exact .barred present closed
  · rename_i present
    unfold openGroup at read
    split at read
    · contradiction
    · rename_i shallow
      split at read
      · contradiction
      · contradiction
      · rename_i char notClosed inside
        cases read
        exact .opened present (Nat.lt_of_not_le shallow) inside notClosed
  · rename_i present
    obtain ⟨branches, closed, second⟩ := bind_eq_ok_iff.mp read
    dsimp only at second
    split at second
    · contradiction
    · obtain ⟨⟨quantifier, behind⟩, third, fourth⟩ := bind_eq_ok_iff.mp second
      cases fourth
      exact .closed present closed rfl third
  · rename_i char notBar notOpening notClosing present
    obtain ⟨⟨label, behindLabel⟩, first, second⟩ := bind_eq_ok_iff.mp read
    obtain ⟨⟨quantifier, behind⟩, third, fourth⟩ := bind_eq_ok_iff.mp second
    cases fourth
    have plain : char ∉ ['|', '(', ')'] := by
      simpa using ⟨notBar, notOpening, notClosing⟩
    exact .labelled present plain first third

theorem readInExpression_of_bar
    [PropertyParser]
    (present : cursor.peek? = some '|')
    {branches : Expression}
    (closed : level.close cursor = .ok branches) :
    readInExpression caseInsensitive level outer cursor =
      .ok (.inside ⟨branches, []⟩ outer, cursor.advance 1) := by
  simp only [readInExpression, present, closed]
  rfl

/-- A group is opened where there is room and it is not closed at once. -/
theorem readInExpression_of_opening
    [PropertyParser]
    {char : Char}
    (present : cursor.peek? = some '(')
    (shallow : outer.length < nestingLimit)
    (inside : (cursor.advance 1).peek? = some char)
    (notClosed : char ≠ ')') :
    readInExpression caseInsensitive level outer cursor =
      .ok (.inside .empty (⟨cursor.offset, level⟩ :: outer), cursor.advance 1) := by
  simp only [readInExpression, present, openGroup, if_neg (Nat.not_le_of_lt shallow), inside]

theorem readInExpression_of_deep
    [PropertyParser]
    (present : cursor.peek? = some '(')
    (deep : nestingLimit ≤ outer.length) :
    readInExpression caseInsensitive level outer cursor =
      .error ⟨.nestingTooDeep, cursor.offset⟩ := by
  simp only [readInExpression, present, openGroup, if_pos deep, fail, failAt]

theorem readInExpression_of_closing
    [PropertyParser]
    {branches : Expression}
    {frame : GroupFrame}
    {quantifier : Quantifier}
    (present : cursor.peek? = some ')')
    (closed : level.close cursor = .ok branches)
    (quantifierRead : (cursor.advance 1).readQuantifier = .ok (quantifier, after)) :
    readInExpression caseInsensitive level (frame :: outer) cursor =
      .ok (.inside (frame.level.push ⟨.group branches, quantifier⟩) outer, after) := by
  simp only [readInExpression, present, closeGroup]
  exact bind_eq_ok_iff.mpr ⟨_, closed, bind_eq_ok_iff.mpr ⟨_, quantifierRead, rfl⟩⟩

/-- Where neither a bar nor a parenthesis is next, a label is read, and its quantifier. -/
theorem readInExpression_of_label
    [PropertyParser]
    {char : Char}
    (present : cursor.peek? = some char)
    (plain : char ∉ ['|', '(', ')']) :
    readInExpression caseInsensitive level outer cursor =
      readLabel caseInsensitive outer.length cursor >>= fun (label, behindLabel) =>
        behindLabel.readQuantifier >>= fun (quantifier, after) =>
          .ok (.inside (level.push ⟨.label label, quantifier⟩) outer, after) := by
  simp only [List.mem_cons, List.not_mem_nil, or_false, not_or] at plain
  obtain ⟨notBar, notOpening, notClosing⟩ := plain
  unfold readInExpression
  rw [present]
  split
  · contradiction
  · simp_all
  · simp_all
  · simp_all
  · rfl

/-- What every step keeps up to the last one holds of what has been read. -/
theorem readExpression_induction
    [PropertyParser]
    (invariant : Level → List GroupFrame → Cursor → Prop)
    (answer : Expression → Prop)
    (keeps :
      ∀ {level outer cursor nextLevel nextOuter after},
        invariant level outer cursor →
          readInExpression caseInsensitive level outer cursor =
              .ok (.inside nextLevel nextOuter, after) →
            invariant nextLevel nextOuter after)
    (ends :
      ∀ {level outer cursor expression after},
        invariant level outer cursor →
          readInExpression caseInsensitive level outer cursor =
              .ok (.complete expression, after) →
            answer expression)
    (begun : invariant level outer cursor)
    (read : readExpression caseInsensitive level outer cursor = .ok expression) :
    answer expression := by
  induction level, outer, cursor using readExpression.induct caseInsensitive with
  | case1 level outer cursor error failed =>
      rw [readExpression, failed] at read
      contradiction
  | case2 level outer cursor complete behind done =>
      rw [readExpression, done] at read
      cases read
      exact ends begun done
  | case3 level outer cursor nextLevel nextOuter after progress inductionHypothesis =>
      rw [readExpression, progress] at read
      exact inductionHypothesis (keeps begun progress) read

end Reading

end Cursor

namespace Expression

variable {text : String} {options : Options} {expression : Expression}

/-- A text is read from its start, unless it is empty. -/
theorem parse_eq_ok_iff
    [PropertyParser] :
    parse text options = .ok expression ↔
      text.toList ≠ [] ∧
        Cursor.readExpression options.caseInsensitive .empty [] (.start text.toList) =
          .ok expression := by
  unfold parse ofChars
  split
  · rename_i empty
    exact iff_of_false (by simp) fun read => read.1 (List.isEmpty_iff.mp empty)
  · rename_i present
    exact (and_iff_right (mt List.isEmpty_iff.mpr present)).symm

end Expression

end LexicalAutomata
