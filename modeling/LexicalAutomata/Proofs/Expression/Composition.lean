import LexicalAutomata.Proofs.Expression.EmbeddedText
import LexicalAutomata.Proofs.Expression.Ender
import LexicalAutomata.Proofs.Result
import LexicalAutomata.Unicode.Property

namespace LexicalAutomata

/-!
# Expressions are put together from their parts

With a bar between them, two texts are read as the branches of both.  Between parentheses a text
is read as a group, and one text behind another goes on with the last branch of the first, as
long as it does not begin with a digit, which may belong to an escape in front of it.
-/

namespace Expression

/-- The branches of both expressions, where the last of one and the first of the other are one. -/
def join
    (left right : Expression) :
    Expression :=
  left.dropLast ++ (left.getLastD [] ++ right.headD []) :: right.tail

/-- The levels at the end of two texts, one behind the other, are joined as their expressions. -/
theorem join_eq
    (first second : Level) :
    join (first.branches ++ [first.pieces]) (second.branches ++ [second.pieces]) =
      (first.join second).branches ++ [(first.join second).pieces] := by
  obtain ⟨branches, pieces⟩ := second
  cases branches <;> simp [join, Level.join]

/-- Behind a bar, all branches of an expression are new ones. -/
theorem append_eq
    (left : Expression)
    (second : Level) :
    left ++ (second.branches ++ [second.pieces]) =
      (Level.join ⟨left, []⟩ second).branches ++ [(Level.join ⟨left, []⟩ second).pieces] := by
  obtain ⟨branches, pieces⟩ := second
  cases branches <;> simp [Level.join]

/-- Several branches are not a literal. -/
theorem isLiteral_append
    {left right : Expression}
    (leftPresent : left ≠ [])
    (rightPresent : right ≠ []) :
    isLiteral (left ++ right) = false := by
  obtain ⟨first, others, rfl⟩ := List.exists_cons_of_ne_nil leftPresent
  obtain ⟨second, more, rfl⟩ := List.exists_cons_of_ne_nil rightPresent
  cases others <;> rfl

/-- Joined expressions are literals if both are. -/
theorem isLiteral_join
    {left right : Expression}
    (leftPresent : left ≠ [])
    (rightPresent : right ≠ []) :
    isLiteral (join left right) = (isLiteral left && isLiteral right) := by
  obtain ⟨first, others, rfl⟩ := List.exists_cons_of_ne_nil leftPresent
  obtain ⟨second, more, rfl⟩ := List.exists_cons_of_ne_nil rightPresent
  cases others with
  | nil =>
      cases more <;> simp [join, isLiteral]
  | cons next others =>
      have present : List.dropLast (first :: next :: others) ≠ [] := by
        simp
      rw [join, isLiteral_append present (List.cons_ne_nil _ _)]
      rfl

end Expression

namespace Cursor

variable {caseInsensitive : Bool} {text tail : List Char} {expression : Expression}
  {level : Level} {around : List GroupFrame} {offset : Nat}

/-- A label does not begin like a quantifier. -/
theorem not_quantifier_of_readLabel
    [PropertyParser]
    {groups : Nat}
    {cursor after : Cursor}
    {label : Label}
    {char : Char}
    (peeked : cursor.peek? = some char)
    (read : readLabel caseInsensitive groups cursor = .ok (label, after)) :
    char ∉ ['*', '+', '?', '\x7b'] := by
  intro quantifier
  simp only [List.mem_cons, List.not_mem_nil, or_false] at quantifier
  rcases quantifier with rfl | rfl | rfl | rfl <;>
    simp [readLabel, peeked, fail, failAt] at read

/-- A text that can be read begins neither like a quantifier nor with the end of a branch. -/
theorem exists_head_of_readExpression
    [PropertyParser]
    (read : readExpression caseInsensitive .empty [] (.start text) = .ok expression) :
    ∃ char,
      text.head? = some char ∧ char ∉ ['|', ')'] ∧ char ∉ ['*', '+', '?', '\x7b'] := by
  have notClosed : ∀ {branches}, Level.empty.close (.start text) ≠ .ok branches := by
    intro branches closed
    exact (Level.close_eq_ok_iff.mp closed).1 rfl
  rw [readExpression] at read
  split at read
  · contradiction
  · rename_i step
    cases expressionStep_of_readInExpression step with
    | ended _ closed _ =>
        exact (notClosed closed).elim
  · rename_i step
    cases expressionStep_of_readInExpression step with
    | barred _ closed =>
        exact (notClosed closed).elim
    | closed _ closed _ _ =>
        exact (notClosed closed).elim
    | opened opening _ _ _ =>
        exact ⟨'(', opening, by decide, by decide⟩
    | @labelled char _ _ _ _ peeked plain labelRead _ =>
        have notEnd : char ∉ ['|', ')'] := by
          simp_all
        exact ⟨char, peeked, notEnd, not_quantifier_of_readLabel peeked labelRead⟩

theorem noQuantifier_of_readExpression
    [PropertyParser]
    (read : readExpression caseInsensitive .empty [] (.start text) = .ok expression) :
    NoQuantifier text := by
  obtain ⟨char, isHead, _, notQuantifier⟩ := exists_head_of_readExpression read
  intro other first
  cases isHead.symm.trans first
  exact notQuantifier

/-- Reading goes on behind a bar. -/
theorem readExpression_bar
    [PropertyParser]
    (nonempty : level.pieces ≠ []) :
    readExpression caseInsensitive level around ⟨'|' :: tail, offset⟩ =
      readExpression caseInsensitive ⟨level.branches ++ [level.pieces], []⟩ around
        ⟨tail, offset + 1⟩ := by
  have step :
      readInExpression caseInsensitive level around ⟨'|' :: tail, offset⟩ =
        .ok (.inside ⟨level.branches ++ [level.pieces], []⟩ around, ⟨tail, offset + 1⟩) :=
    readInExpression_of_bar rfl (Level.close_of_nonempty nonempty _)
  rw [readExpression, step]

/-- Reading goes on behind a closing parenthesis at the end of the text. -/
theorem readExpression_closing
    [PropertyParser]
    (nonempty : level.pieces ≠ [])
    (frame : GroupFrame) :
    readExpression caseInsensitive level (frame :: around) ⟨[')'], offset⟩ =
      readExpression caseInsensitive
        (frame.level.push ⟨.group (level.branches ++ [level.pieces]), .once⟩) around
          ⟨[], offset + 1⟩ := by
  have step :
      readInExpression caseInsensitive level (frame :: around) ⟨[')'], offset⟩ =
        .ok (.inside (frame.level.push ⟨.group (level.branches ++ [level.pieces]), .once⟩) around,
          ⟨[], offset + 1⟩) :=
    readInExpression_of_closing rfl (Level.close_of_nonempty nonempty _) rfl
  rw [readExpression, step]

/-- Reading goes on behind an opening parenthesis. -/
theorem readExpression_opening
    [PropertyParser]
    {char : Char}
    (isHead : tail.head? = some char)
    (notClosed : char ≠ ')') :
    readExpression caseInsensitive .empty [] (.start ('(' :: tail)) =
      readExpression caseInsensitive .empty [⟨0, .empty⟩] ⟨tail, 1⟩ := by
  have step :
      readInExpression caseInsensitive .empty [] (.start ('(' :: tail)) =
        .ok (.inside .empty [⟨0, .empty⟩], ⟨tail, 1⟩) :=
    readInExpression_of_opening rfl (by decide) isHead notClosed
  rw [readExpression, step]

/-- Nothing in a text that can be read is nested too deep for the text alone. -/
theorem fits_zero
    [PropertyParser]
    (caseInsensitive : Bool)
    (text : List Char) :
    Fits caseInsensitive text 0 :=
  fun _ nests => nests.le_nestingLimit

/-- At the end of a longer text, what has been read is complete. -/
theorem exists_readAt_eq_ok
    [PropertyParser]
    (front : Level)
    (shift : Nat)
    (read : readExpression caseInsensitive .empty [] (.start text) = .ok expression) :
    ∃ last : Level,
      expression = last.branches ++ [last.pieces] ∧
        readExpression caseInsensitive front [] ⟨text, shift⟩ =
          .ok ((front.join last).branches ++ [(front.join last).pieces]) := by
  let site : Site := ⟨shift, [], front, []⟩
  have separates : site.Separates :=
    ⟨fun _ => nofun, fun _ => nofun⟩
  obtain ⟨last, offset, nonempty, same, sameRead⟩ :=
    exists_readAt_eq separates (Nat.zero_le _) (fits_zero _ _) read
  refine ⟨last, same, ?_⟩
  have place : site.cursor (.start text) = ⟨text, shift⟩ := by
    rw [Site.cursor, embed, start, List.append_nil, Nat.zero_add]
  rw [readAt, place] at sameRead
  rw [sameRead]
  exact readExpression_end (Level.pieces_join_ne_nil nonempty) offset

/-- A text is read up to what is behind it. -/
theorem exists_read_front
    [PropertyParser]
    (noDigit : NoDigit tail)
    (noQuantifier : NoQuantifier tail)
    (read : readExpression caseInsensitive .empty [] (.start text) = .ok expression) :
    ∃ (last : Level) (offset : Nat),
      last.pieces ≠ [] ∧
        expression = last.branches ++ [last.pieces] ∧
          readExpression caseInsensitive .empty [] (.start (text ++ tail)) =
            readExpression caseInsensitive last [] ⟨tail, offset⟩ := by
  let site : Site := ⟨0, tail, .empty, []⟩
  have separates : site.Separates :=
    ⟨noDigit, noQuantifier⟩
  obtain ⟨last, offset, nonempty, same, sameRead⟩ :=
    exists_readAt_eq separates (Nat.zero_le _) (fits_zero _ _) read
  rw [Level.empty_join] at sameRead
  exact ⟨last, offset, nonempty, same, sameRead⟩

section Pairs

variable {first second : List Char} {left right : Expression}

/-- Two texts with a bar between them are read as the branches of both. -/
theorem readExpression_alternatives
    [PropertyParser]
    (firstRead : readExpression caseInsensitive .empty [] (.start first) = .ok left)
    (secondRead : readExpression caseInsensitive .empty [] (.start second) = .ok right) :
    readExpression caseInsensitive .empty [] (.start (first ++ '|' :: second)) =
      .ok (left ++ right) := by
  have noDigit : NoDigit ('|' :: second) := by
    simp [NoDigit]
  have noQuantifier : NoQuantifier ('|' :: second) := by
    simp [NoQuantifier]
  obtain ⟨last, offset, nonempty, isLeft, front⟩ :=
    exists_read_front noDigit noQuantifier firstRead
  obtain ⟨behind, isRight, whole⟩ := exists_readAt_eq_ok ⟨left, []⟩ (offset + 1) secondRead
  rw [front, readExpression_bar nonempty, ← isLeft, whole, isRight, Expression.append_eq]

/-- A text behind another goes on with its last branch, unless a digit is between them. -/
theorem readExpression_sequence
    [PropertyParser]
    (noDigit : NoDigit second)
    (firstRead : readExpression caseInsensitive .empty [] (.start first) = .ok left)
    (secondRead : readExpression caseInsensitive .empty [] (.start second) = .ok right) :
    readExpression caseInsensitive .empty [] (.start (first ++ second)) =
      .ok (left.join right) := by
  obtain ⟨last, offset, _, isLeft, front⟩ :=
    exists_read_front noDigit (noQuantifier_of_readExpression secondRead) firstRead
  obtain ⟨behind, isRight, whole⟩ := exists_readAt_eq_ok last offset secondRead
  rw [front, whole, isLeft, isRight, Expression.join_eq]

/-- The site of a text between parentheses. -/
def grouped : Site :=
  ⟨1, [')'], .empty, [⟨0, .empty⟩]⟩

theorem separates_grouped :
    grouped.Separates :=
  ⟨by simp [NoDigit, grouped], by simp [NoQuantifier, grouped]⟩

theorem readExpression_grouped
    [PropertyParser]
    (firstRead : readExpression caseInsensitive .empty [] (.start first) = .ok left) :
    readExpression caseInsensitive .empty [] (.start ('(' :: (first ++ [')']))) =
      readAt grouped caseInsensitive first := by
  obtain ⟨char, isHead, notEnd, _⟩ := exists_head_of_readExpression firstRead
  have stillHead : (first ++ [')']).head? = some char := by
    rw [List.head?_append, isHead]
    rfl
  exact readExpression_opening stillHead (by simp_all)

/-- Between parentheses a text is read as a group, if what it nests has room there. -/
theorem readExpression_group
    [PropertyParser]
    (fits : Fits caseInsensitive first 1)
    (firstRead : readExpression caseInsensitive .empty [] (.start first) = .ok left) :
    readExpression caseInsensitive .empty [] (.start ('(' :: (first ++ [')']))) =
      .ok [[⟨.group left, .once⟩]] := by
  obtain ⟨last, offset, nonempty, isLeft, inside⟩ :=
    exists_readAt_eq separates_grouped (by decide) fits firstRead
  have closed :
      readExpression caseInsensitive last [⟨0, .empty⟩] ⟨[')'], offset⟩ =
        .ok [[⟨.group left, .once⟩]] := by
    rw [readExpression_closing nonempty, ← isLeft]
    exact readExpression_end (List.cons_ne_nil _ _) _
  rw [readExpression_grouped firstRead, inside, ← closed, grouped, Level.empty_join]

/-- Between parentheses a text is refused, if something in it is nested too deep there. -/
theorem tooDeep_readExpression_group
    [PropertyParser]
    (unfit : ¬Fits caseInsensitive first 1)
    (firstRead : readExpression caseInsensitive .empty [] (.start first) = .ok left) :
    TooDeep
      (readExpression caseInsensitive .empty [] (.start ('(' :: (first ++ [')'])))) := by
  rw [readExpression_grouped firstRead]
  exact tooDeep_readAt separates_grouped (by decide) unfit firstRead

end Pairs

end Cursor

namespace Expression

/-- At no state of a text, so many groups and classes are open at once. -/
def NestsFewer
    [PropertyParser]
    (text : String)
    (options : Options)
    (levels : Nat) :
    Prop :=
  ∀ depth, Cursor.Nests options.caseInsensitive text.toList depth → depth < levels

/-- A text with few opening characters does not nest deep. -/
theorem nestsFewer_of_openings_lt
    [PropertyParser]
    {text : String}
    {options : Options}
    {levels : Nat}
    (few : Cursor.openings text.toList < levels) :
    NestsFewer text options levels :=
  fun _ nests => Nat.lt_of_le_of_lt nests.le_openings few

/-- How two texts are read together that are read as `left` and `right`. -/
structure Composes
    [PropertyParser]
    (first second : String)
    (options : Options)
    (left right : Expression) : Prop where
  alternatives :
    parse (first ++ "|" ++ second) options = .ok (left ++ right) ∧
      isLiteral (left ++ right) = false
  grouped :
    NestsFewer first options nestingLimit →
      parse ("(" ++ first ++ ")") options = .ok [[⟨.group left, .once⟩]]
  tooDeep :
    ¬NestsFewer first options nestingLimit →
      ∃ offset, parse ("(" ++ first ++ ")") options = .error ⟨.nestingTooDeep, offset⟩
  sequence :
    NoDigit second.toList →
      parse (first ++ second) options = .ok (left.join right) ∧
        isLiteral (left.join right) = (isLiteral left && isLiteral right)

/-- A text that is not empty is read from its start. -/
theorem parse_eq
    [PropertyParser]
    {text : String}
    {options : Options}
    {chars : List Char}
    (same : text.toList = chars)
    (present : chars ≠ []) :
    parse text options =
      Cursor.readExpression options.caseInsensitive .empty [] (.start chars) := by
  subst same
  rw [parse, ofChars, if_neg (mt List.isEmpty_iff.mp present)]

/-- Texts that can be read are put together to texts that are read as their parts. -/
theorem parse_composes
    [PropertyParser]
    {first second : String}
    {options : Options}
    {left right : Expression}
    (firstParsed : parse first options = .ok left)
    (secondParsed : parse second options = .ok right) :
    Composes first second options left right := by
  obtain ⟨firstPresent, firstRead⟩ := parse_eq_ok_iff.mp firstParsed
  obtain ⟨_, secondRead⟩ := parse_eq_ok_iff.mp secondParsed
  have leftPresent := ne_nil_of_parse firstParsed
  have rightPresent := ne_nil_of_parse secondParsed
  have barred :
      parse (first ++ "|" ++ second) options =
        Cursor.readExpression options.caseInsensitive .empty []
          (.start (first.toList ++ '|' :: second.toList)) :=
    parse_eq (by simp) (List.append_ne_nil_of_left_ne_nil firstPresent _)
  have enclosed :
      parse ("(" ++ first ++ ")") options =
        Cursor.readExpression options.caseInsensitive .empty []
          (.start ('(' :: (first.toList ++ [')']))) :=
    parse_eq (by simp) (List.cons_ne_nil _ _)
  have fits :
      Cursor.Fits options.caseInsensitive first.toList 1 ↔
        NestsFewer first options nestingLimit :=
    Iff.rfl
  refine ⟨⟨?_, isLiteral_append leftPresent rightPresent⟩, ?_, ?_, ?_⟩
  · rw [barred]
    exact Cursor.readExpression_alternatives firstRead secondRead
  · intro fewer
    rw [enclosed]
    exact Cursor.readExpression_group (fits.mpr fewer) firstRead
  · intro deep
    rw [enclosed]
    exact Cursor.tooDeep_readExpression_group (mt fits.mp deep) firstRead
  · intro noDigit
    refine ⟨?_, isLiteral_join leftPresent rightPresent⟩
    rw [parse_eq String.toList_append (List.append_ne_nil_of_left_ne_nil firstPresent _)]
    exact Cursor.readExpression_sequence noDigit firstRead secondRead

theorem parse_composes_letters :
    ∃ left right,
      parse "a|\\07" {} = .ok left ∧
        parse "[^b-d]*" {} = .ok right ∧
          parse "a|\\07|[^b-d]*" {} = .ok (left ++ right) ∧
            parse "(a|\\07)" {} = .ok [[⟨.group left, .once⟩]] ∧
              parse "a|\\07[^b-d]*" {} = .ok (left.join right) := by
  have read :
      (parse "a|\\07" {}).toOption.isSome = true ∧
        (parse "[^b-d]*" {}).toOption.isSome = true := by
    decide +kernel
  obtain ⟨firstRead, secondRead⟩ := read
  obtain ⟨left, isLeft⟩ := Option.isSome_iff_exists.mp firstRead
  obtain ⟨right, isRight⟩ := Option.isSome_iff_exists.mp secondRead
  have leftParsed := ok_of_toOption isLeft
  have rightParsed := ok_of_toOption isRight
  have composes := parse_composes leftParsed rightParsed
  have noDigit : NoDigit "[^b-d]*".toList := by
    simp [NoDigit]
  have shallow : NestsFewer "a|\\07" {} nestingLimit :=
    nestsFewer_of_openings_lt (by decide)
  exact ⟨left, right, leftParsed, rightParsed, composes.alternatives.1,
    composes.grouped shallow, (composes.sequence noDigit).1⟩

end Expression

end LexicalAutomata
