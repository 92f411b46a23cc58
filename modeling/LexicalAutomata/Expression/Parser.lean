import LexicalAutomata.Expression.Class
import LexicalAutomata.Options

namespace LexicalAutomata

/-!
# Reading expressions

Expression text is read piece by piece.  Groups that are still open are kept as
a stack of frames; what has been read between two parentheses becomes one piece
of the group around them.
-/

/-- What has been read of a group: its complete branches, and the pieces of the last branch. -/
structure Level where
  branches : Expression
  pieces : Branch

namespace Level

/-- Nothing has been read yet. -/
def empty : Level :=
  ⟨[], []⟩

/-- Add a piece to the last branch. -/
def push
    (level : Level)
    (piece : Piece) :
    Level :=
  { level with pieces := level.pieces ++ [piece] }

/-- Complete the last branch, which must not be empty. -/
def close
    (level : Level)
    (cursor : Cursor) :
    Except TextError Expression :=
  if level.pieces.isEmpty then
    cursor.fail .emptyBranch
  else
    .ok (level.branches ++ [level.pieces])

end Level

/-- A group that is still open, with what was read in front of it. -/
structure GroupFrame where
  /-- The offset of the opening parenthesis. -/
  opening : Nat
  level : Level

/-- Where a step of the reader has led. -/
inductive ExpressionProgress where
  /-- The innermost group is still open, and so are those around it. -/
  | inside (level : Level) (outer : List GroupFrame)
  | complete (expression : Expression)

namespace Cursor

/-- The label of a literal character. -/
def literalLabel
    (caseInsensitive : Bool)
    (char : Char) :
    Label :=
  .ofPoints (spanOf caseInsensitive char char)

/-- The label that an escape stands for. -/
def escapedLabel
    (caseInsensitive : Bool) :
    Escaped → Label
  | .char char =>
      literalLabel caseInsensitive char
  | .points points =>
      .ofPoints points
  | .boundary boundary =>
      .ofBoundary boundary

/-- Read an atom that is not a group; `groups` groups are open. -/
def readLabel
    [PropertyParser]
    (caseInsensitive : Bool)
    (groups : Nat)
    (cursor : Cursor) :
    Except TextError (Label × Cursor) :=
  match cursor.peek? with
  | some '[' =>
      cursor.readClass caseInsensitive groups >>= fun (points, after) =>
        .ok (.ofPoints points, after)
  | some '\\' =>
      readEscape caseInsensitive cursor >>= fun (escaped, after) =>
        .ok (escapedLabel caseInsensitive escaped, after)
  | some '.' =>
      .ok (.anyChar, cursor.advance 1)
  | some '^' =>
      .ok (.ofBoundary .lineStart, cursor.advance 1)
  | some '$' =>
      .ok (.ofBoundary .lineEnd, cursor.advance 1)
  | some char =>
      if [']', '\x7d'].contains char then
        cursor.fail (.unbalanced char)
      else if ['*', '+', '?', '\x7b'].contains char then
        cursor.fail (.danglingQuantifier char)
      else
        .ok (literalLabel caseInsensitive char, cursor.advance 1)
  | none =>
      cursor.fail .unexpectedEnd

/-- Open the group whose parenthesis is next; it must have something inside. -/
def openGroup
    (level : Level)
    (outer : List GroupFrame)
    (cursor : Cursor) :
    Except TextError (ExpressionProgress × Cursor) :=
  if nestingLimit ≤ outer.length then
    cursor.fail .nestingTooDeep
  else
    match (cursor.advance 1).peek? with
    | none =>
        cursor.fail .unclosedGroup
    | some ')' =>
        cursor.fail .emptyGroup
    | some _ =>
        .ok (.inside .empty (⟨cursor.offset, level⟩ :: outer), cursor.advance 1)

/-- Close the innermost group at its closing parenthesis, and read its quantifier. -/
def closeGroup
    (level : Level)
    (outer : List GroupFrame)
    (cursor : Cursor) :
    Except TextError (ExpressionProgress × Cursor) :=
  level.close cursor >>= fun branches =>
    match outer with
    | [] =>
        cursor.fail (.unbalanced ')')
    | frame :: rest =>
        (cursor.advance 1).readQuantifier >>= fun (quantifier, after) =>
          .ok (.inside (frame.level.push ⟨.group branches, quantifier⟩) rest, after)

/-- End at the end of the text, where no group may be open. -/
def readEnd
    (level : Level)
    (outer : List GroupFrame)
    (cursor : Cursor) :
    Except TextError (ExpressionProgress × Cursor) :=
  level.close cursor >>= fun expression =>
    match outer with
    | [] =>
        .ok (.complete expression, cursor)
    | frame :: _ =>
        failAt frame.opening .unclosedGroup

/-- Read on by one parenthesis, bar or piece. -/
def readInExpression
    [PropertyParser]
    (caseInsensitive : Bool)
    (level : Level)
    (outer : List GroupFrame)
    (cursor : Cursor) :
    Except TextError (ExpressionProgress × Cursor) :=
  match cursor.peek? with
  | none =>
      readEnd level outer cursor
  | some '|' =>
      level.close cursor >>= fun branches =>
        .ok (.inside ⟨branches, []⟩ outer, cursor.advance 1)
  | some '(' =>
      openGroup level outer cursor
  | some ')' =>
      closeGroup level outer cursor
  | some _ =>
      readLabel caseInsensitive outer.length cursor >>= fun (label, behindLabel) =>
        behindLabel.readQuantifier >>= fun (quantifier, after) =>
          .ok (.inside (level.push ⟨.label label, quantifier⟩) outer, after)

theorem advance_one_shorter
    {cursor : Cursor}
    {char : Char}
    (present : cursor.peek? = some char) :
    (cursor.advance 1).rest.length < cursor.rest.length := by
  have := List.length_pos_iff.mpr (List.ne_nil_of_mem (List.mem_of_head? present))
  simp only [rest_advance, List.length_drop]
  omega

theorem readLabel_shorter
    [PropertyParser]
    {caseInsensitive : Bool}
    {groups : Nat}
    {cursor after : Cursor}
    {label : Label}
    (read : readLabel caseInsensitive groups cursor = .ok (label, after)) :
    after.rest.length < cursor.rest.length := by
  unfold readLabel at read
  split at read
  · rename_i present
    obtain ⟨⟨points, next⟩, first, second⟩ := bind_eq_ok_iff.mp read
    cases second
    exact readClass_shorter (List.ne_nil_of_mem (List.mem_of_head? present)) first
  · obtain ⟨⟨escaped, next⟩, first, second⟩ := bind_eq_ok_iff.mp read
    cases second
    exact readEscape_shorter first
  · cases read
    exact advance_one_shorter ‹_›
  · cases read
    exact advance_one_shorter ‹_›
  · cases read
    exact advance_one_shorter ‹_›
  · split at read
    · contradiction
    · split at read
      · contradiction
      · cases read
        exact advance_one_shorter ‹_›
  · contradiction

theorem readInExpression_shorter
    [PropertyParser]
    {caseInsensitive : Bool}
    {level next : Level}
    {outer rest : List GroupFrame}
    {cursor after : Cursor}
    (read :
      readInExpression caseInsensitive level outer cursor = .ok (.inside next rest, after)) :
    after.rest.length < cursor.rest.length := by
  unfold readInExpression at read
  split at read
  · obtain ⟨expression, _, second⟩ := bind_eq_ok_iff.mp read
    split at second <;> cases second
  · obtain ⟨branches, _, second⟩ := bind_eq_ok_iff.mp read
    cases second
    exact advance_one_shorter ‹_›
  · unfold openGroup at read
    split at read
    · contradiction
    · split at read
      · contradiction
      · contradiction
      · cases read
        exact advance_one_shorter ‹cursor.peek? = some '('›
  · obtain ⟨branches, _, second⟩ := bind_eq_ok_iff.mp read
    dsimp only at second
    split at second
    · contradiction
    · obtain ⟨⟨quantifier, behind⟩, third, fourth⟩ := bind_eq_ok_iff.mp second
      cases fourth
      exact Nat.lt_of_le_of_lt (readQuantifier_le third)
        (advance_one_shorter ‹cursor.peek? = some ')'›)
  · obtain ⟨⟨label, behindLabel⟩, first, second⟩ := bind_eq_ok_iff.mp read
    obtain ⟨⟨quantifier, behind⟩, third, fourth⟩ := bind_eq_ok_iff.mp second
    cases fourth
    exact Nat.lt_of_le_of_lt (readQuantifier_le third) (readLabel_shorter first)

/-- Read up to the end of the text. -/
def readExpression
    [PropertyParser]
    (caseInsensitive : Bool)
    (level : Level)
    (outer : List GroupFrame)
    (cursor : Cursor) :
    Except TextError Expression :=
  match _ : readInExpression caseInsensitive level outer cursor with
  | .error error =>
      .error error
  | .ok (.complete expression, _) =>
      .ok expression
  | .ok (.inside level outer, after) =>
      readExpression caseInsensitive level outer after
  termination_by cursor.rest.length
  decreasing_by exact readInExpression_shorter ‹_›

end Cursor

namespace Expression

/-- The expression that a text stands for. -/
def ofChars
    [PropertyParser]
    (caseInsensitive : Bool)
    (text : List Char) :
    Except TextError Expression :=
  if text.isEmpty then
    .error ⟨.emptyExpression, 0⟩
  else
    Cursor.readExpression caseInsensitive .empty [] (.start text)

/-- The expression that a string stands for. -/
def parse
    [PropertyParser]
    (text : String)
    (options : Options) :
    Except TextError Expression :=
  ofChars options.caseInsensitive text.toList

end Expression

end LexicalAutomata
