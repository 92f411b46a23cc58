import LexicalAutomata.Proofs.Expression.Steps
import LexicalAutomata.Regex.Escape

namespace LexicalAutomata

/-!
# Reading an expression piece by piece

A text writes a piece if reading it adds the piece to the level, whatever text
is behind it.  An expression whose text is put together from such texts is the
branch of their pieces; escaped characters and dots are texts of that kind.
-/

/-- A text that does not begin like a quantifier. -/
def NoQuantifier
    (text : List Char) :
    Prop :=
  ∀ char ∈ text.head?, char ∉ ['*', '+', '?', '\x7b']

namespace Cursor

/-- Where no quantifier is next, the piece in front stands once. -/
theorem readQuantifier_of_noQuantifier
    {text : List Char}
    (none : NoQuantifier text)
    (offset : Nat) :
    readQuantifier ⟨text, offset⟩ = .ok (.once, ⟨text, offset⟩) := by
  cases text with
  | nil =>
      rfl
  | cons head tail =>
      have notAny : head ∉ ['*', '+', '?', '\x7b'] := none head rfl
      simp only [List.mem_cons, List.not_mem_nil, or_false, not_or] at notAny
      obtain ⟨notStar, notPlus, notMark, notBrace⟩ := notAny
      unfold readQuantifier
      simp only [peek?, List.head?_cons]
      split <;> simp_all

/-- A dash makes a span where neither the class nor the operand ends behind it. -/
theorem dashMakesSpan_cons
    (second : Char)
    (others : List Char) :
    dashMakesSpan ('-' :: second :: others) =
      decide (second ≠ ']' ∧ ¬(second = '&' ∧ others.head? = some '&')) := by
  unfold dashMakesSpan
  split
  · simp_all
  · simp_all
  · rename_i notClosing notPair same
    obtain ⟨rfl, rfl⟩ : second = _ ∧ others = _ := by simpa using same
    refine (decide_eq_true ⟨notClosing, ?_⟩).symm
    rintro ⟨isPair, next⟩
    obtain ⟨rest, rfl⟩ := List.head?_eq_some_iff.mp next
    exact notPair _ isPair rfl
  · rename_i notTwo
    exact (notTwo _ _ rfl).elim

/-- Without a dash there is no span. -/
theorem dashMakesSpan_eq_false
    {text : List Char}
    (noDash : text.head? ≠ some '-') :
    dashMakesSpan text = false := by
  unfold dashMakesSpan
  split <;> simp_all

/-- Reading goes on behind a piece. -/
theorem readExpression_piece
    [PropertyParser]
    {caseInsensitive : Bool}
    {level : Level}
    {outer : List GroupFrame}
    {cursor behindLabel after : Cursor}
    {char : Char}
    {label : Label}
    {quantifier : Quantifier}
    (present : cursor.peek? = some char)
    (plain : char ∉ ['|', '(', ')'])
    (labelRead : readLabel caseInsensitive outer.length cursor = .ok (label, behindLabel))
    (quantifierRead : behindLabel.readQuantifier = .ok (quantifier, after)) :
    readExpression caseInsensitive level outer cursor =
      readExpression caseInsensitive (level.push ⟨.label label, quantifier⟩) outer after := by
  have step :
      readInExpression caseInsensitive level outer cursor =
        .ok (.inside (level.push ⟨.label label, quantifier⟩) outer, after) := by
    rw [readInExpression_of_label present plain, labelRead]
    simp [quantifierRead, bind, Except.bind]
  rw [readExpression, step]

/-- Reading ends at the end of the text. -/
theorem readExpression_end
    [PropertyParser]
    {caseInsensitive : Bool}
    {level : Level}
    (begun : level.pieces ≠ [])
    (offset : Nat) :
    readExpression caseInsensitive level [] ⟨[], offset⟩ =
      .ok (level.branches ++ [level.pieces]) := by
  have step :
      readInExpression caseInsensitive level [] ⟨[], offset⟩ =
        .ok (.complete (level.branches ++ [level.pieces]), ⟨[], offset⟩) := by
    simp [readInExpression, peek?, readEnd, Level.close, begun, bind, Except.bind]
  rw [readExpression, step]

end Cursor

/--
Reading the text adds the piece, unless what is behind it would be read as a
quantifier.  The text itself does not begin like a quantifier.
-/
structure Writes
    [PropertyParser]
    (caseInsensitive : Bool)
    (text : List Char)
    (piece : Piece) : Prop where
  nonempty : text ≠ []
  noQuantifier : NoQuantifier text
  reads :
    ∀ (level : Level) (rest : List Char) (offset : Nat),
      NoQuantifier rest →
        ∃ behind,
          Cursor.readExpression caseInsensitive level [] ⟨text ++ rest, offset⟩ =
            Cursor.readExpression caseInsensitive (level.push piece) [] ⟨rest, behind⟩

namespace Writes

variable {α : Type} {caseInsensitive : Bool}

/-- Texts of pieces, one behind the other, do not begin like a quantifier. -/
theorem noQuantifier_flatMap
    [PropertyParser]
    {parts : List α}
    {text : α → List Char}
    {piece : α → Piece}
    (writes : ∀ part ∈ parts, Writes caseInsensitive (text part) (piece part)) :
    NoQuantifier (parts.flatMap text) := by
  cases parts with
  | nil =>
      simp [NoQuantifier]
  | cons head rest =>
      obtain ⟨nonempty, noQuantifier, _⟩ := writes head (List.mem_cons_self ..)
      intro char first
      obtain ⟨opening, behind, shape⟩ := List.exists_cons_of_ne_nil nonempty
      rw [List.flatMap_cons, shape] at first
      rw [shape] at noQuantifier
      exact noQuantifier char first

/-- Reading the texts of pieces, one behind the other, adds all the pieces. -/
theorem readExpression_flatMap
    [PropertyParser]
    {parts : List α}
    {text : α → List Char}
    {piece : α → Piece}
    (writes : ∀ part ∈ parts, Writes caseInsensitive (text part) (piece part))
    (level : Level)
    (offset : Nat) :
    ∃ behind,
      Cursor.readExpression caseInsensitive level [] ⟨parts.flatMap text, offset⟩ =
        Cursor.readExpression caseInsensitive
          { level with pieces := level.pieces ++ parts.map piece } [] ⟨[], behind⟩ := by
  induction parts generalizing level offset with
  | nil =>
      exact ⟨offset, by simp⟩
  | cons head rest inductionHypothesis =>
      obtain ⟨headWrites, restWrites⟩ := List.forall_mem_cons.mp writes
      obtain ⟨middle, first⟩ :=
        headWrites.reads level (rest.flatMap text) offset (noQuantifier_flatMap restWrites)
      obtain ⟨behind, second⟩ := inductionHypothesis restWrites (level.push (piece head)) middle
      refine ⟨behind, ?_⟩
      rw [List.flatMap_cons, first, second]
      simp [Level.push]

/-- An expression whose text is put together from texts of pieces is their branch. -/
theorem ofChars_flatMap
    [PropertyParser]
    {parts : List α}
    (present : parts ≠ [])
    {text : α → List Char}
    {piece : α → Piece}
    (writes : ∀ part ∈ parts, Writes caseInsensitive (text part) (piece part)) :
    Expression.ofChars caseInsensitive (parts.flatMap text) = .ok [parts.map piece] := by
  obtain ⟨behind, read⟩ := readExpression_flatMap writes .empty 0
  have nonempty : (parts.flatMap text).isEmpty = false := by
    obtain ⟨part, member⟩ := List.exists_mem_of_ne_nil parts present
    rw [List.isEmpty_eq_false_iff, ne_eq, List.flatMap_eq_nil_iff]
    intro allEmpty
    exact (writes part member).nonempty (allEmpty part member)
  have begun : ([] ++ parts.map piece : Branch) ≠ [] := by
    simpa using present
  unfold Expression.ofChars Cursor.start
  rw [nonempty]
  simp only [Bool.false_eq_true, if_false]
  rw [read, Cursor.readExpression_end begun behind]
  rfl

/-- What reads a label writes the label once. -/
theorem of_readLabel
    [PropertyParser]
    {text : List Char}
    {char : Char}
    {label : Label}
    (first : text.head? = some char)
    (plain : char ∉ ['|', '(', ')'])
    (noQuantifier : char ∉ ['*', '+', '?', '\x7b'])
    (reads :
      ∀ (rest : List Char) (offset : Nat),
        ∃ behind,
          Cursor.readLabel caseInsensitive 0 ⟨text ++ rest, offset⟩ =
            .ok (label, ⟨rest, behind⟩)) :
    Writes caseInsensitive text ⟨.label label, .once⟩ where
  nonempty := by
    rintro rfl
    contradiction
  noQuantifier := by
    intro other isFirst
    rw [first] at isFirst
    cases isFirst
    exact noQuantifier
  reads := by
    intro level rest offset behindNone
    obtain ⟨behind, labelRead⟩ := reads rest offset
    refine ⟨behind, ?_⟩
    apply Cursor.readExpression_piece _ plain labelRead
    · exact Cursor.readQuantifier_of_noQuantifier behindNone behind
    · rw [Cursor.peek?, List.head?_append, first]
      rfl

/-- A dot writes any character. -/
theorem anyChar
    [PropertyParser] :
    Writes caseInsensitive ['.'] ⟨.label .anyChar, .once⟩ :=
  of_readLabel rfl (by decide) (by decide) fun _ _ => ⟨_, rfl⟩

/-- A dot and a star write any run of characters. -/
theorem anyRun
    [PropertyParser] :
    Writes caseInsensitive ['.', '*'] ⟨.label .anyChar, ⟨0, none⟩⟩ where
  nonempty := by
    simp
  noQuantifier := by
    intro char first
    cases first
    decide
  reads := by
    intro level rest offset _
    exact ⟨_, Cursor.readExpression_piece rfl (by decide) rfl rfl⟩

/-- Behind a backslash, every metacharacter stands for itself. -/
theorem ofLetter?_metacharacter
    {char : Char}
    (special : char ∈ metacharacters) :
    Escaped.ofLetter? char = some (.char char) := by
  have allPunctuation :
      metacharacters.all (fun char => NamedClass.punctuation.contains char.toNat) = true := by
    decide +kernel
  have punctuation := List.all_eq_true.mp allPunctuation char special
  have noLetters :
      metacharacters.all
          (· ∉ ['t', 'n', 'r', 'f', 'a', 'e', 'b', 'B', 'A', 'G', 'Z', 'z']) = true := by
    decide
  have notLetter := of_decide_eq_true (List.all_eq_true.mp noLetters char special)
  unfold Escaped.ofLetter?
  split
  case h_13 =>
    rw [if_pos punctuation]
  all_goals
    simp at notLetter

/-- An escaped character writes its literal label. -/
theorem escapeChar
    [PropertyParser]
    (char : Char) :
    Writes caseInsensitive (escapeChar char)
      ⟨.label (Cursor.literalLabel caseInsensitive char), .once⟩ := by
  by_cases special : char ∈ metacharacters
  · have written : LexicalAutomata.escapeChar char = ['\\', char] := by
      simp [LexicalAutomata.escapeChar, special]
    rw [written]
    apply of_readLabel rfl (by decide) (by decide)
    intro rest offset
    have read :
        Cursor.readEscape caseInsensitive ⟨'\\' :: char :: rest, offset⟩ =
          .ok (.char char, Cursor.advance ⟨'\\' :: char :: rest, offset⟩ 2) := by
      simp [Cursor.readEscape, Cursor.peek?, ofLetter?_metacharacter special]
    refine ⟨offset + Text.byteLength ['\\', char], ?_⟩
    simp only [Cursor.readLabel, Cursor.peek?, List.cons_append, List.nil_append, List.head?_cons,
      read, bind, Except.bind]
    rfl
  · have written : LexicalAutomata.escapeChar char = [char] := by
      simp [LexicalAutomata.escapeChar, special]
    rw [written]
    simp only [metacharacters, List.mem_cons, List.not_mem_nil, or_false, not_or] at special
    apply of_readLabel rfl (by simp [special]) (by simp [special])
    have notClosing : [']', '\x7d'].contains char = false := by
      simp [special]
    have notQuantifier : ['*', '+', '?', '\x7b'].contains char = false := by
      simp [special]
    intro rest offset
    refine ⟨offset + Text.byteLength [char], ?_⟩
    simp only [Cursor.readLabel, Cursor.peek?, List.cons_append, List.nil_append, List.head?_cons]
    split
    case h_6 other same =>
      cases same
      rw [notClosing, notQuantifier]
      rfl
    all_goals
      simp_all

end Writes

/-- The expression of an escaped text is the branch of its characters. -/
theorem Expression.parse_escape
    [PropertyParser]
    {text : String}
    (nonempty : text ≠ "")
    (options : Options) :
    Expression.parse (escape text) options =
      .ok [text.toList.map fun char =>
        ⟨.label (Cursor.literalLabel options.caseInsensitive char), .once⟩] := by
  have present : text.toList ≠ [] := by
    simpa using nonempty
  have parsed :=
    Writes.ofChars_flatMap present fun char _ =>
      (Writes.escapeChar char : Writes options.caseInsensitive (escapeChar char) _)
  simpa [Expression.parse, escape, escapeChars] using parsed

end LexicalAutomata
