import LexicalAutomata.Proofs.Expression.Correspondence
import LexicalAutomata.Proofs.Expression.FoldedClass
import LexicalAutomata.Proofs.Expression.Pieces
import LexicalAutomata.Proofs.Expression.Steps
import LexicalAutomata.Proofs.Result
import LexicalAutomata.Unicode.Property

namespace LexicalAutomata

/-!
# Expressions without regard to case

An expression that can be read keeps its shape when case does not matter.  In a text without
complements and without classes of capitals every label becomes wider, so that nothing that
was matched is lost; a class of capitals alone loses all of its characters.
-/

/-- If a text can be folded, a label lies within another one. -/
def Label.WidensIn
    (text : List Char)
    (label wider : Label) :
    Prop :=
  Foldable text → label.Within wider

variable {text : List Char}

/-- A wider set makes a wider label. -/
theorem Label.widensIn_ofPoints
    {points wider : CodePointSet}
    (widens : points.WidensIn text wider) :
    (ofPoints points).WidensIn text (ofPoints wider) :=
  fun foldable => ⟨widens foldable, fun _ member => member⟩

/-- A label is as wide as itself. -/
theorem Label.WidensIn.refl
    (label : Label) :
    label.WidensIn text label :=
  fun _ => .refl label

/-- What has been read of a group has the same shape, and wider labels. -/
structure Level.WidensIn
    (text : List Char)
    (level wider : Level) : Prop where
  branches : level.branches.Corresponds (Label.WidensIn text) wider.branches
  pieces : PiecesCorrespond (Label.WidensIn text) level.pieces wider.pieces

namespace Level.WidensIn

variable {level wider : Level}

/-- At first, nothing has been read. -/
theorem empty :
    Level.empty.WidensIn text Level.empty :=
  ⟨trivial, trivial⟩

/-- A wider piece keeps a level wider. -/
theorem push
    (widens : level.WidensIn text wider)
    {piece other : Piece}
    (corresponds : piece.Corresponds (Label.WidensIn text) other) :
    (level.push piece).WidensIn text (wider.push other) where
  branches := widens.branches
  pieces := piecesCorrespond_append widens.pieces ⟨corresponds, trivial⟩

/-- A wider level is closed to a wider expression, or both are refused. -/
theorem close
    (widens : level.WidensIn text wider)
    {cursor : Cursor}
    {expression : Expression}
    (closed : level.close cursor = .ok expression) :
    ∃ other,
      wider.close cursor = .ok other ∧ expression.Corresponds (Label.WidensIn text) other := by
  have pieces := widens.pieces
  unfold Level.close at closed ⊢
  cases shape : level.pieces with
  | nil =>
      rw [shape] at closed
      contradiction
  | cons piece rest =>
      rw [shape] at closed pieces
      cases otherShape : wider.pieces with
      | nil =>
          rw [otherShape] at pieces
          exact pieces.elim
      | cons other others =>
          rw [otherShape] at pieces
          cases closed
          exact ⟨_, rfl, branchesCorrespond_append widens.branches ⟨pieces, trivial⟩⟩

/-- What follows a complete group stays side by side if it does for corresponding groups. -/
theorem bind_close
    {α β : Type}
    {related : α → β → Prop}
    (widens : level.WidensIn text wider)
    {cursor : Cursor}
    {second : Expression → Except TextError (α × Cursor)}
    {otherSecond : Expression → Except TextError (β × Cursor)}
    (behind :
      ∀ expression other : Expression,
        expression.Corresponds (Label.WidensIn text) other →
          Cursor.Parallel related (second expression) (otherSecond other)) :
    Cursor.Parallel related (level.close cursor >>= second)
      (wider.close cursor >>= otherSecond) := by
  intro value after succeeded
  obtain ⟨expression, closed, secondRead⟩ := bind_eq_ok_iff.mp succeeded
  obtain ⟨other, otherClosed, corresponds⟩ := widens.close closed
  obtain ⟨result, otherRead, holds⟩ := behind _ _ corresponds value after secondRead
  exact ⟨result, bind_eq_ok_iff.mpr ⟨other, otherClosed, otherRead⟩, holds⟩

end Level.WidensIn

/-- Open groups are at the same place, with the same shape in front of them. -/
structure GroupFrame.WidensIn
    (text : List Char)
    (frame wider : GroupFrame) : Prop where
  opening : frame.opening = wider.opening
  level : frame.level.WidensIn text wider.level

/-- Expressions have been read up to the same place, with the same shape and wider labels. -/
inductive ExpressionProgress.WidensIn
    (text : List Char) :
    ExpressionProgress →
    ExpressionProgress →
    Prop where
  | inside
      {level wider : Level}
      {outer widerOuter : List GroupFrame} :
      level.WidensIn text wider →
      List.Forall₂ (GroupFrame.WidensIn text) outer widerOuter →
      WidensIn text (.inside level outer) (.inside wider widerOuter)
  | complete
      {expression wider : Expression} :
      expression.Corresponds (Label.WidensIn text) wider →
      WidensIn text (.complete expression) (.complete wider)

namespace Cursor

variable {cursor : Cursor} {level wider : Level} {outer widerOuter : List GroupFrame}

/-- A letter is one of its counterparts. -/
theorem widensIn_literalLabel
    (char : Char) :
    (literalLabel false char).WidensIn text (literalLabel true char) :=
  Label.widensIn_ofPoints fun _ _ => mem_spanOf_folded

/-- A wider escape makes a wider label. -/
theorem widensIn_escapedLabel
    {escaped other : Escaped}
    (widens : escaped.WidensIn text other) :
    (escapedLabel false escaped).WidensIn text (escapedLabel true other) := by
  cases widens with
  | same =>
      cases escaped with
      | char char =>
          exact widensIn_literalLabel char
      | points points =>
          exact .refl _
      | boundary boundary =>
          exact .refl _
  | points widens =>
      exact Label.widensIn_ofPoints widens

/-- An atom that can be read stays one when case does not matter. -/
theorem parallel_readLabel
    [PropertyParser]
    {groups : Nat}
    (inside : cursor.rest <:+ text) :
    Parallel (Label.WidensIn text) (readLabel false groups cursor)
      (readLabel true groups cursor) := by
  unfold readLabel
  split
  case h_1 present =>
    refine (parallel_readClass present inside).bind ?_
    intro points wider after _ widens
    exact .ok (Label.widensIn_ofPoints widens) after
  case h_2 present =>
    refine (parallel_readEscape present inside).bind ?_
    intro escaped other after _ widens
    exact .ok (widensIn_escapedLabel widens) after
  case h_6 =>
    split
    · exact .fail
    · split
      · exact .fail
      · exact .ok (widensIn_literalLabel _) _
  case h_7 =>
    exact .fail
  all_goals
    exact .ok (.refl _) _

/-- Groups are opened in parallel. -/
theorem parallel_openGroup
    (widens : level.WidensIn text wider)
    (outerWiden : List.Forall₂ (GroupFrame.WidensIn text) outer widerOuter) :
    Parallel (ExpressionProgress.WidensIn text) (openGroup level outer cursor)
      (openGroup wider widerOuter cursor) := by
  unfold openGroup
  rw [← outerWiden.length_eq]
  split
  · exact .fail
  · split
    · exact .fail
    · exact .fail
    · exact .ok (.inside .empty (.cons ⟨rfl, widens⟩ outerWiden)) _

/-- Groups are closed in parallel. -/
theorem parallel_closeGroup
    (widens : level.WidensIn text wider)
    (outerWiden : List.Forall₂ (GroupFrame.WidensIn text) outer widerOuter) :
    Parallel (ExpressionProgress.WidensIn text) (closeGroup level outer cursor)
      (closeGroup wider widerOuter cursor) := by
  refine widens.bind_close fun branches others correspond => ?_
  cases outerWiden with
  | nil =>
      exact .fail
  | cons frameWidens restWiden =>
      refine (Parallel.refl _).bind ?_
      rintro quantifier _ after _ rfl
      exact .ok (.inside (frameWidens.level.push ⟨correspond, rfl⟩) restWiden) after

/-- Texts are ended in parallel. -/
theorem parallel_readEnd
    (widens : level.WidensIn text wider)
    (outerWiden : List.Forall₂ (GroupFrame.WidensIn text) outer widerOuter) :
    Parallel (ExpressionProgress.WidensIn text) (readEnd level outer cursor)
      (readEnd wider widerOuter cursor) := by
  refine widens.bind_close fun expression other corresponds => ?_
  cases outerWiden with
  | nil =>
      exact .ok (.complete corresponds) cursor
  | cons =>
      exact .failAt

/-- A step leads to the same place with regard to case and without. -/
theorem parallel_readInExpression
    [PropertyParser]
    (widens : level.WidensIn text wider)
    (outerWiden : List.Forall₂ (GroupFrame.WidensIn text) outer widerOuter)
    (inside : cursor.rest <:+ text) :
    Parallel (ExpressionProgress.WidensIn text) (readInExpression false level outer cursor)
      (readInExpression true wider widerOuter cursor) := by
  unfold readInExpression
  split
  · exact parallel_readEnd widens outerWiden
  · refine widens.bind_close fun branches others correspond => ?_
    exact .ok (.inside ⟨correspond, trivial⟩ outerWiden) _
  · exact parallel_openGroup widens outerWiden
  · exact parallel_closeGroup widens outerWiden
  · rw [← outerWiden.length_eq]
    refine (parallel_readLabel inside).bind ?_
    intro label widerLabel behindLabel _ labelWidens
    refine (Parallel.refl _).bind ?_
    rintro quantifier _ after _ rfl
    exact .ok (.inside (widens.push ⟨labelWidens, rfl⟩) outerWiden) after

/-- An expression that can be read can be read when case does not matter. -/
theorem exists_readExpression_folded
    [PropertyParser]
    {expression : Expression}
    (widens : level.WidensIn text wider)
    (outerWiden : List.Forall₂ (GroupFrame.WidensIn text) outer widerOuter)
    (inside : cursor.rest <:+ text)
    (read : readExpression false level outer cursor = .ok expression) :
    ∃ other,
      readExpression true wider widerOuter cursor = .ok other ∧
        expression.Corresponds (Label.WidensIn text) other := by
  induction level, outer, cursor using readExpression.induct false
    generalizing wider widerOuter with
  | case1 level outer cursor error failed =>
      rw [readExpression, failed] at read
      contradiction
  | case2 level outer cursor complete after done =>
      obtain ⟨_, folded, progressWidens⟩ :=
        parallel_readInExpression widens outerWiden inside _ _ done
      rw [readExpression, done] at read
      cases read
      rw [readExpression, folded]
      cases progressWidens with
      | complete corresponds =>
          exact ⟨_, rfl, corresponds⟩
  | case3 level outer cursor nextLevel nextOuter after progress inductionHypothesis =>
      obtain ⟨_, folded, progressWidens⟩ :=
        parallel_readInExpression widens outerWiden inside _ _ progress
      rw [readExpression, progress] at read
      rw [readExpression, folded]
      cases progressWidens with
      | inside nextWidens nextOuterWiden =>
          exact inductionHypothesis nextWidens nextOuterWiden
            ((suffix_of_readInExpression progress).trans inside) read

end Cursor

namespace Expression

/--
An expression that can be read can be read without regard to case, with the same shape and
the same quantifiers.  If its text has no complement and no class of capitals, every label
lies within the one in its place, and whatever the expression matches is still matched.
-/
theorem parse_caseInsensitive
    [PropertyParser]
    {text : String}
    {expression : Expression}
    (parsed : parse text {} = .ok expression) :
    ∃ wider,
      parse text { caseInsensitive := true } = .ok wider ∧
        expression.Corresponds (fun _ _ => True) wider ∧
          (Foldable text.toList →
            expression.Corresponds Label.Within wider ∧
              ∀ searchStart source target,
                expression.Matches searchStart source target →
                  wider.Matches searchStart source target) := by
  obtain ⟨notEmpty, read⟩ := parse_eq_ok_iff.mp parsed
  obtain ⟨wider, folded, corresponds⟩ :=
    Cursor.exists_readExpression_folded .empty .nil List.suffix_rfl read
  refine ⟨wider, parse_eq_ok_iff.mpr ⟨notEmpty, folded⟩,
    corresponds.mono fun _ _ _ => trivial, fun foldable => ?_⟩
  have within : expression.Corresponds Label.Within wider :=
    corresponds.mono fun _ _ widens => widens foldable
  exact ⟨within, fun _ _ _ => within.matches⟩

theorem parse_digitsBeforeLetters :
    Foldable "\\d+([b-z&&\\p\x7bLower\x7d]*|\\W)x\\b".toList ∧
      ∃ expression wider,
        parse "\\d+([b-z&&\\p\x7bLower\x7d]*|\\W)x\\b" {} = .ok expression ∧
          parse "\\d+([b-z&&\\p\x7bLower\x7d]*|\\W)x\\b" { caseInsensitive := true } =
              .ok wider ∧
            expression.Corresponds Label.Within wider := by
  have foldable : Foldable "\\d+([b-z&&\\p\x7bLower\x7d]*|\\W)x\\b".toList :=
    ⟨by decide +kernel, by decide +kernel, by decide +kernel⟩
  have read :
      (parse "\\d+([b-z&&\\p\x7bLower\x7d]*|\\W)x\\b" {}).toOption.isSome = true := by
    decide +kernel
  obtain ⟨expression, isExpression⟩ := Option.isSome_iff_exists.mp read
  have parsed := ok_of_toOption isExpression
  obtain ⟨wider, folded, _, widens⟩ := parse_caseInsensitive parsed
  exact ⟨foldable, expression, wider, parsed, folded, (widens foldable).1⟩

/-- The name of the class of capitals; when case does not matter, it means the small letters. -/
theorem readNamedClass_capitals
    [PropertyParser]
    (caseInsensitive : Bool)
    (offset : Nat) :
    Cursor.readNamedClass caseInsensitive ⟨['\x7b', 'U', 'p', 'p', 'e', 'r', '\x7d'], offset⟩ =
      .ok (if caseInsensitive then NamedClass.lowercaseLetter else NamedClass.uppercaseLetter,
        ⟨[], offset + 7⟩) := by
  cases caseInsensitive <;> rfl

/-- The escape of the class of capitals. -/
theorem readEscape_capitals
    [PropertyParser]
    (caseInsensitive : Bool) :
    Cursor.readEscape caseInsensitive
        (.start ['\\', 'p', '\x7b', 'U', 'p', 'p', 'e', 'r', '\x7d']) =
      .ok (.points (if caseInsensitive then NamedClass.lowercaseLetter
        else NamedClass.uppercaseLetter), ⟨[], 9⟩) := by
  have long : Escaped.ofLetter? 'p' = none := by
    decide +kernel
  unfold Cursor.readEscape
  simp only [Cursor.start, Cursor.peek?, Cursor.advance, List.drop_succ_cons, List.drop_zero,
    List.head?_cons, long]
  change
    (Cursor.readNamedClass caseInsensitive
      ⟨['\x7b', 'U', 'p', 'p', 'e', 'r', '\x7d'], 2⟩ >>= _) = _
  rw [readNamedClass_capitals]
  rfl

/-- When case does not matter, the class of capitals is that of the small letters. -/
theorem parse_capitals
    [PropertyParser]
    (caseInsensitive : Bool) :
    parse "\\p\x7bUpper\x7d" { caseInsensitive } =
      .ok [[⟨.label (.ofPoints (if caseInsensitive then NamedClass.lowercaseLetter
        else NamedClass.uppercaseLetter)), .once⟩]] := by
  have chars :
      "\\p\x7bUpper\x7d".toList = ['\\', 'p', '\x7b', 'U', 'p', 'p', 'e', 'r', '\x7d'] := by
    decide +kernel
  have first : (Cursor.start "\\p\x7bUpper\x7d".toList).peek? = some '\\' := by
    rw [chars]
    rfl
  have labelRead :
      Cursor.readLabel caseInsensitive 0 (.start "\\p\x7bUpper\x7d".toList) =
        .ok (.ofPoints (if caseInsensitive then NamedClass.lowercaseLetter
          else NamedClass.uppercaseLetter), ⟨[], 9⟩) := by
    rw [Cursor.readLabel, first, chars, readEscape_capitals]
    rfl
  refine parse_eq_ok_iff.mpr ⟨by simp [chars], ?_⟩
  rw [Cursor.readExpression_piece first (by decide) labelRead rfl]
  exact Cursor.readExpression_end (by simp [Level.push]) 9

/-- Without a complement, all the capitals of a class are lost when case does not matter. -/
theorem capitals_not_within :
    ¬ ['[', '^'] <:+: "\\p\x7bUpper\x7d".toList ∧
      ¬ ['\\', 'P'] <:+: "\\p\x7bUpper\x7d".toList ∧
        ∃ expression wider,
          parse "\\p\x7bUpper\x7d" {} = .ok expression ∧
            parse "\\p\x7bUpper\x7d" { caseInsensitive := true } = .ok wider ∧
              ¬ expression.Corresponds Label.Within wider ∧
                expression.Matches 0 (.start ['A']) ⟨some 'A', 1, []⟩ ∧
                  ¬ wider.Matches 0 (.start ['A']) ⟨some 'A', 1, []⟩ := by
  have matched :
      Expression.Matches [[⟨.label (.ofPoints NamedClass.uppercaseLetter), .once⟩]] 0
        (.start ['A']) ⟨some 'A', 1, []⟩ := by
    rw [matches_label_iff]
    exact .reading (by decide +kernel)
  have unmatched :
      ¬ Expression.Matches [[⟨.label (.ofPoints NamedClass.lowercaseLetter), .once⟩]] 0
        (.start ['A']) ⟨some 'A', 1, []⟩ := by
    rw [matches_label_iff]
    rintro ⟨contained⟩
    revert contained
    decide +kernel
  exact ⟨by decide +kernel, by decide +kernel, _, _, parse_capitals false, parse_capitals true,
    fun corresponds => unmatched (corresponds.matches matched), matched, unmatched⟩

end Expression

end LexicalAutomata
