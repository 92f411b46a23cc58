import LexicalAutomata.Proofs.Expression.Visits
import LexicalAutomata.Proofs.Text.Boundary

namespace LexicalAutomata.Cursor

/-!
# Readers stay within the text

Every reader that starts at a place of a text either refuses the text at one of its places,
or goes on to a place of the text.  So all states of reading a text are at places of it, and
so are the errors.
-/

/-- A cursor is between two characters of a text, or at one of its ends. -/
def LiesIn
    (cursor : Cursor)
    (text : List Char) :
    Prop :=
  ∃ front, text = front ++ cursor.rest ∧ cursor.offset = Text.byteLength front

/-- A reader refuses a text at one of its places, or answers with what it may answer. -/
def Safe
    {α : Type}
    (text : List Char)
    (fine : α → Prop)
    (read : Except TextError α) :
    Prop :=
  match read with
  | .error error =>
      Text.IsBoundary text error.offset
  | .ok value =>
      fine value

/-- A reader refuses a text at one of its places, or goes on to another one. -/
def Lands
    {α : Type}
    (text : List Char)
    (read : Except TextError (α × Cursor)) :
    Prop :=
  Safe text (fun result => result.2.LiesIn text) read

section Places

variable {α β : Type} {text : List Char} {cursor opening : Cursor}

/-- The start of a text is a place of it. -/
theorem liesIn_start
    (text : List Char) :
    (start text).LiesIn text :=
  ⟨[], rfl, rfl⟩

/-- At a place of a text the offset is between two of its characters. -/
theorem LiesIn.isBoundary
    (lies : cursor.LiesIn text) :
    Text.IsBoundary text cursor.offset := by
  obtain ⟨front, split, same⟩ := lies
  exact ⟨front, _, split, same⟩

/-- Going on by whole characters leads to another place of the text. -/
theorem LiesIn.advance
    (lies : cursor.LiesIn text)
    (count : Nat) :
    (cursor.advance count).LiesIn text := by
  obtain ⟨front, split, same⟩ := lies
  refine ⟨front ++ cursor.rest.take count, ?_, ?_⟩
  · rw [rest_advance, List.append_assoc, List.take_append_drop, split]
  · rw [Text.byteLength_append, ← same]
    rfl

/-- Refusing the text where it is read is safe, whatever the reader was to answer. -/
theorem LiesIn.safe_fail
    (lies : cursor.LiesIn text)
    (fine : α → Prop)
    (fault : Fault) :
    Safe text fine (cursor.fail fault) :=
  lies.isBoundary

/-- Two safe readers one behind the other are safe. -/
theorem Safe.bind
    {fine : α → Prop}
    {fineBehind : β → Prop}
    {first : Except TextError α}
    {second : α → Except TextError β}
    (safe : Safe text fine first)
    (goesOn : ∀ value, fine value → Safe text fineBehind (second value)) :
    Safe text fineBehind (first >>= second) := by
  cases first with
  | error error =>
      exact safe
  | ok value =>
      exact goesOn value safe

/-- What a safe reader answers with is fine. -/
theorem Safe.of_ok
    {fine : α → Prop}
    {read : Except TextError α}
    {value : α}
    (safe : Safe text fine read)
    (isOk : read = .ok value) :
    fine value := by
  subst isOk
  exact safe

/-- Where a safe reader refuses a text is between two of its characters. -/
theorem Safe.of_error
    {fine : α → Prop}
    {read : Except TextError α}
    {error : TextError}
    (safe : Safe text fine read)
    (isError : read = .error error) :
    Text.IsBoundary text error.offset := by
  subst isError
  exact safe

end Places

section Number

variable {text : List Char} {cursor opening : Cursor}

/-- Reading a character refuses the text at its end, or lands behind the character. -/
theorem LiesIn.next
    (lies : cursor.LiesIn text) :
    Lands text cursor.next := by
  unfold Cursor.next
  split
  · exact lies.safe_fail _ _
  · exact lies.advance 1

/-- Requiring a character refuses the text in front of another one. -/
theorem LiesIn.require
    (lies : cursor.LiesIn text)
    (wanted : Char) :
    Safe text (fun after => after.LiesIn text) (cursor.require wanted) := by
  refine lies.next.bind fun result after => ?_
  dsimp only
  split
  · exact after
  · exact lies.safe_fail _ _

/-- A number is refused where it should begin, or its reader lands behind the digits. -/
theorem LiesIn.readNumber
    (lies : cursor.LiesIn text) :
    Lands text cursor.readNumber := by
  unfold Cursor.readNumber
  dsimp only
  split
  · exact lies.safe_fail _ _
  · split
    · exact lies.safe_fail _ _
    · exact lies.advance _

/-- Reversed bounds are refused at the opening brace, a place of the text as well. -/
theorem LiesIn.closeBounds
    (lies : cursor.LiesIn text)
    (opens : opening.LiesIn text)
    (bounds : Quantifier) :
    Lands text (closeBounds opening bounds cursor) := by
  refine (lies.require _).bind fun after afterLies => ?_
  split
  · exact afterLies
  · split
    · exact opens.safe_fail _ _
    · exact afterLies

/-- A maximum is refused at a place of the text, or its reader lands behind the brace. -/
theorem LiesIn.readMaximum
    (lies : cursor.LiesIn text)
    (opens : opening.LiesIn text)
    (minimum : Nat) :
    Lands text (readMaximum opening minimum cursor) := by
  unfold Cursor.readMaximum
  split
  · exact lies.closeBounds opens _
  · exact lies.readNumber.bind fun result after => after.closeBounds opens _

/-- The bounds behind an opening brace are read or refused at places of the text. -/
theorem LiesIn.readBounds
    (opens : opening.LiesIn text) :
    Lands text (readBounds opening) := by
  refine (opens.advance 1).readNumber.bind fun result after => ?_
  dsimp only
  split
  · exact (after.advance 1).readMaximum opens _
  · exact after.closeBounds opens _

/-- A quantifier is read or refused at places of the text. -/
theorem LiesIn.readQuantifier
    (lies : cursor.LiesIn text) :
    Lands text cursor.readQuantifier := by
  unfold Cursor.readQuantifier
  split
  case h_4 =>
    exact lies.readBounds
  case h_5 =>
    exact lies
  all_goals
    exact lies.advance 1

end Number

section Escape

variable {text : List Char} {cursor opening : Cursor}

/-- A code point that is no character is refused where its escape begins. -/
theorem LiesIn.charWith
    (opens : opening.LiesIn text)
    (codePoint : Nat) :
    Safe text (fun _ => True) (opening.charWith codePoint) := by
  unfold Cursor.charWith
  split
  · exact opens.safe_fail _ _
  · trivial

/-- An octal escape is refused where it begins, or its reader lands behind its digits. -/
theorem LiesIn.readOctal
    (lies : cursor.LiesIn text)
    (opens : opening.LiesIn text) :
    Lands text (readOctal opening cursor) := by
  unfold Cursor.readOctal
  split
  · exact opens.safe_fail _ _
  · exact (opens.charWith _).bind fun _ _ => lies.advance _

/-- Missing hexadecimal digits are refused where the escape begins. -/
theorem LiesIn.readHex
    (lies : cursor.LiesIn text)
    (opens : opening.LiesIn text)
    (count : Nat) :
    Lands text (readHex opening count cursor) := by
  unfold Cursor.readHex
  dsimp only
  split
  · split
    · exact opens.safe_fail _ _
    · exact lies.advance _
  · exact opens.safe_fail _ _

/-- A hexadecimal number in braces is read or refused at places of the text. -/
theorem LiesIn.readBracedHex
    (lies : cursor.LiesIn text)
    (opens : opening.LiesIn text) :
    Lands text (readBracedHex opening cursor) := by
  unfold Cursor.readBracedHex
  dsimp only
  split
  · exact lies.safe_fail _ _
  · exact (lies.readHex opens _).bind fun _ after => (after.require _).bind fun _ closed => closed

/-- A code point is read or refused at places of the text, with braces or without them. -/
theorem LiesIn.readCodePoint
    (lies : cursor.LiesIn text)
    (opens : opening.LiesIn text) :
    Lands text (readCodePoint opening cursor) := by
  unfold Cursor.readCodePoint
  split
  · exact (lies.advance 1).readBracedHex opens
  · exact lies.readHex opens 2

/-- A control escape is refused at its letter or where it begins. -/
theorem LiesIn.readControl
    (lies : cursor.LiesIn text)
    (opens : opening.LiesIn text) :
    Lands text (readControl opening cursor) := by
  refine lies.next.bind fun result after => ?_
  dsimp only
  split
  · exact (opens.charWith _).bind fun _ _ => after
  · exact lies.safe_fail _ _

/-- A name without a closing brace is refused at its opening one. -/
theorem LiesIn.readClassName
    (lies : cursor.LiesIn text) :
    Lands text cursor.readClassName := by
  unfold Cursor.readClassName
  dsimp only
  split
  · split
    · exact lies.safe_fail _ _
    · exact (lies.advance _).advance 1
  · exact lies.next.bind fun _ after => after

/-- An unknown name is refused where it begins. -/
theorem LiesIn.readNamedClass
    [PropertyParser]
    (lies : cursor.LiesIn text)
    (caseInsensitive : Bool) :
    Lands text (cursor.readNamedClass caseInsensitive) := by
  refine lies.readClassName.bind fun result after => ?_
  dsimp only
  split
  · exact lies.safe_fail _ _
  · exact after

/-- An escape with more than a letter is read or refused at places of the text. -/
theorem LiesIn.readLongEscape
    [PropertyParser]
    (lies : cursor.LiesIn text)
    (opens : opening.LiesIn text)
    (caseInsensitive : Bool)
    (letter : Char) :
    Lands text (readLongEscape caseInsensitive opening letter cursor) := by
  unfold Cursor.readLongEscape
  split
  · exact (lies.readOctal opens).bind fun _ after => after
  · exact (lies.readCodePoint opens).bind fun _ after =>
      (opens.charWith _).bind fun _ _ => after
  · exact (lies.readHex opens 4).bind fun _ after =>
      (opens.charWith _).bind fun _ _ => after
  · exact (lies.readControl opens).bind fun _ after => after
  · exact (lies.readNamedClass _).bind fun _ after => after
  · exact (lies.readNamedClass _).bind fun _ after => after
  · exact opens.safe_fail _ _

/-- An escape is read or refused at places of the text, from its backslash on. -/
theorem LiesIn.readEscape
    [PropertyParser]
    (opens : opening.LiesIn text)
    (caseInsensitive : Bool) :
    Lands text (readEscape caseInsensitive opening) := by
  unfold Cursor.readEscape
  split
  · exact opens.safe_fail _ _
  · split
    · exact opens.advance 2
    · exact (opens.advance 2).readLongEscape opens _ _

end Escape

section Class

variable {text : List Char} {cursor : Cursor} {frame : ClassFrame} {outer : List ClassFrame}

/-- The innermost open class and those around it began at places of a text, and so did this. -/
structure ClassesLieIn
    (text : List Char)
    (frame : ClassFrame)
    (outer : List ClassFrame)
    (cursor : Cursor) : Prop where
  lies : cursor.LiesIn text
  opening : Text.IsBoundary text frame.opening
  outer : ∀ other ∈ outer, Text.IsBoundary text other.opening

/-- Where a step inside a class may lead. -/
def ClassProgressLiesIn
    (text : List Char) :
    ClassProgress × Cursor →
    Prop
  | (.inside frame outer, cursor) =>
      ClassesLieIn text frame outer cursor
  | (.complete _, cursor) =>
      cursor.LiesIn text

/-- A class is refused at its bracket if it is too deep, and otherwise it began there. -/
theorem LiesIn.openClass
    (lies : cursor.LiesIn text)
    (depth : Nat) :
    Safe text (fun result => ClassesLieIn text result.1 [] result.2) (cursor.openClass depth) := by
  unfold Cursor.openClass
  split
  · exact lies.safe_fail _ _
  · split
    · exact ⟨lies.advance 2, lies.isBoundary, fun _ => (absurd · List.not_mem_nil)⟩
    · exact ⟨lies.advance 1, lies.isBoundary, fun _ => (absurd · List.not_mem_nil)⟩

/-- The end of a span is read, or refused at the dash. -/
theorem LiesIn.readSpanEnd
    [PropertyParser]
    (lies : cursor.LiesIn text)
    (caseInsensitive : Bool) :
    Lands text (readSpanEnd caseInsensitive cursor) := by
  unfold Cursor.readSpanEnd
  dsimp only
  split
  · refine ((lies.advance 1).readEscape _).bind fun result after => ?_
    split
    · exact after
    · exact lies.safe_fail _ _
  · exact lies.safe_fail _ _
  · exact (lies.advance 1).next

/-- A reversed span is refused at its dash, and every other one lands behind its end. -/
theorem LiesIn.readSpan
    [PropertyParser]
    (lies : cursor.LiesIn text)
    (caseInsensitive : Bool)
    (first : Char) :
    Lands text (readSpan caseInsensitive first cursor) := by
  unfold Cursor.readSpan
  split
  · refine (lies.readSpanEnd _).bind fun result after => ?_
    dsimp only
    split
    · exact lies.safe_fail _ _
    · exact after
  · exact lies

/-- An entry of a class is read or refused at places of the text. -/
theorem LiesIn.readEntry
    [PropertyParser]
    (lies : cursor.LiesIn text)
    (caseInsensitive : Bool) :
    Lands text (readEntry caseInsensitive cursor) := by
  unfold Cursor.readEntry
  split
  · exact lies.advance 1
  · refine (lies.readEscape _).bind fun result after => ?_
    dsimp only
    split
    · exact after.readSpan _ _
    · exact after
    · exact (lies.advance 1).safe_fail _ _
  · exact lies.next.bind fun _ after => after.readSpan _ _

/-- A step inside a class keeps to the places of a text. -/
theorem ClassesLieIn.readInClass
    [PropertyParser]
    (lie : ClassesLieIn text frame outer cursor)
    (caseInsensitive : Bool)
    (groups : Nat) :
    Safe text (ClassProgressLiesIn text)
      (readInClass caseInsensitive groups frame outer cursor) := by
  unfold Cursor.readInClass
  split
  · exact lie.opening
  · split
    · cases outer with
      | nil =>
          exact lie.lies.advance 1
      | cons parent rest =>
          obtain ⟨parentOpening, restOpening⟩ := List.forall_mem_cons.mp lie.outer
          exact ⟨lie.lies.advance 1, parentOpening, restOpening⟩
    · exact lie.lies.safe_fail _ _
  · split
    · exact ⟨lie.lies.advance 2, lie.opening, lie.outer⟩
    · exact lie.lies.safe_fail _ _
  · exact (lie.lies.openClass _).bind fun _ inner =>
      ⟨inner.lies, inner.opening, List.forall_mem_cons.mpr ⟨lie.opening, lie.outer⟩⟩
  · exact (lie.lies.readEntry _).bind fun _ after => ⟨after, lie.opening, lie.outer⟩

/-- Reading the rest of a class keeps to the places of a text. -/
theorem ClassesLieIn.readClassBody
    [PropertyParser]
    (lie : ClassesLieIn text frame outer cursor)
    (caseInsensitive : Bool)
    (groups : Nat) :
    Lands text (readClassBody caseInsensitive groups frame outer cursor) := by
  fun_induction Cursor.readClassBody caseInsensitive groups frame outer cursor with
  | case1 _ _ _ _ step =>
      exact (lie.readInClass _ _).of_error step
  | case2 _ _ _ _ _ step =>
      exact (lie.readInClass _ _).of_ok step
  | case3 _ _ _ _ _ _ step inductionHypothesis =>
      exact inductionHypothesis ((lie.readInClass _ _).of_ok step)

/-- A whole class is read or refused at places of the text. -/
theorem LiesIn.readClass
    [PropertyParser]
    (lies : cursor.LiesIn text)
    (caseInsensitive : Bool)
    (groups : Nat) :
    Lands text (cursor.readClass caseInsensitive groups) :=
  (lies.openClass _).bind fun _ inner => inner.readClassBody _ _

/-- All states inside a class of a text are at places of the text. -/
theorem ClassVisits.classesLieIn
    [PropertyParser]
    {caseInsensitive : Bool}
    {groups : Nat}
    {opening : Cursor}
    (visits : ClassVisits caseInsensitive groups opening frame outer cursor)
    (opens : opening.LiesIn text) :
    ClassesLieIn text frame outer cursor := by
  induction visits with
  | opened opensClass =>
      exact (opens.openClass groups).of_ok opensClass
  | goesOn _ step inductionHypothesis =>
      exact (inductionHypothesis.readInClass _ _).of_ok step

end Class

section Expression

variable {text : List Char} {cursor : Cursor} {level : Level} {outer : List GroupFrame}
  {caseInsensitive : Bool}

/-- The open groups began at places of a text, and this is one as well. -/
structure GroupsLieIn
    (text : List Char)
    (outer : List GroupFrame)
    (cursor : Cursor) : Prop where
  lies : cursor.LiesIn text
  outer : ∀ frame ∈ outer, Text.IsBoundary text frame.opening

/-- Where a step of the reader may lead. -/
def ProgressLiesIn
    (text : List Char) :
    ExpressionProgress × Cursor →
    Prop
  | (.inside _ outer, cursor) =>
      GroupsLieIn text outer cursor
  | (.complete _, cursor) =>
      cursor.LiesIn text

/-- A label is read or refused at places of the text. -/
theorem LiesIn.readLabel
    [PropertyParser]
    (lies : cursor.LiesIn text)
    (caseInsensitive : Bool)
    (groups : Nat) :
    Lands text (readLabel caseInsensitive groups cursor) := by
  unfold Cursor.readLabel
  split
  · exact (lies.readClass _ _).bind fun _ after => after
  · exact (lies.readEscape _).bind fun _ after => after
  · exact lies.advance 1
  · exact lies.advance 1
  · exact lies.advance 1
  · split
    · exact lies.safe_fail _ _
    · split
      · exact lies.safe_fail _ _
      · exact lies.advance 1
  · exact lies.safe_fail _ _

/-- An empty branch is refused where it ends. -/
theorem LiesIn.close
    (lies : cursor.LiesIn text)
    (level : Level) :
    Safe text (fun _ => True) (level.close cursor) := by
  unfold Level.close
  split
  · exact lies.safe_fail _ _
  · trivial

/-- A step of the reader keeps to the places of a text. -/
theorem GroupsLieIn.readInExpression
    [PropertyParser]
    (lie : GroupsLieIn text outer cursor)
    (caseInsensitive : Bool)
    (level : Level) :
    Safe text (ProgressLiesIn text) (readInExpression caseInsensitive level outer cursor) := by
  unfold Cursor.readInExpression
  split
  · refine (lie.lies.close level).bind fun _ _ => ?_
    cases outer with
    | nil =>
        exact lie.lies
    | cons frame rest =>
        exact lie.outer frame List.mem_cons_self
  · exact (lie.lies.close level).bind fun _ _ => ⟨lie.lies.advance 1, lie.outer⟩
  · unfold openGroup
    split
    · exact lie.lies.safe_fail _ _
    · split
      · exact lie.lies.safe_fail _ _
      · exact lie.lies.safe_fail _ _
      · exact ⟨lie.lies.advance 1, List.forall_mem_cons.mpr ⟨lie.lies.isBoundary, lie.outer⟩⟩
  · refine (lie.lies.close level).bind fun _ _ => ?_
    cases outer with
    | nil =>
        exact lie.lies.safe_fail _ _
    | cons frame rest =>
        obtain ⟨_, restOpening⟩ := List.forall_mem_cons.mp lie.outer
        exact (lie.lies.advance 1).readQuantifier.bind fun _ after => ⟨after, restOpening⟩
  · exact (lie.lies.readLabel _ _).bind fun _ behind =>
      behind.readQuantifier.bind fun _ after => ⟨after, lie.outer⟩

/-- Reading the rest of an expression refuses the text at one of its places, or succeeds. -/
theorem GroupsLieIn.readExpression
    [PropertyParser]
    (lie : GroupsLieIn text outer cursor)
    (caseInsensitive : Bool)
    (level : Level) :
    Safe text (fun _ => True) (readExpression caseInsensitive level outer cursor) := by
  induction level, outer, cursor using readExpression.induct caseInsensitive with
  | case1 _ _ _ _ step =>
      rw [Cursor.readExpression, step]
      exact (lie.readInExpression _ _).of_error step
  | case2 _ _ _ _ _ step =>
      rw [Cursor.readExpression, step]
      trivial
  | case3 _ _ _ _ _ _ step inductionHypothesis =>
      rw [Cursor.readExpression, step]
      exact inductionHypothesis ((lie.readInExpression _ _).of_ok step)

/-- All states of reading a text are at places of the text. -/
theorem Visits.groupsLieIn
    [PropertyParser]
    (visits : Visits caseInsensitive text level outer cursor) :
    GroupsLieIn text outer cursor := by
  induction visits with
  | started =>
      exact ⟨liesIn_start text, fun _ => (absurd · List.not_mem_nil)⟩
  | goesOn _ step inductionHypothesis =>
      exact (inductionHypothesis.readInExpression _ _).of_ok step

end Expression

end LexicalAutomata.Cursor
