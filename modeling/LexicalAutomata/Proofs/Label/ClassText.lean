import LexicalAutomata.Proofs.CodePointSet.Canonical
import LexicalAutomata.Proofs.Expression.Digits
import LexicalAutomata.Proofs.Expression.Pieces
import LexicalAutomata.Unicode.Property

namespace LexicalAutomata

/-!
# Reading class text back

The class text of a label without boundaries is an expression again.  Each
interval is read as itself with one exception: a dot is written as it is, and a
dot that begins an entry of a class stands for every code point.  So the label
comes back unless one of its intervals begins with the dot.
-/

namespace Label

/-- What an interval of class text begins with has no meaning of its own there. -/
def OpensEntry
    (text : List Char) :
    Prop :=
  ∃ head tail, text = head :: tail ∧ head ∉ ['[', ']', '^', '-', '&']

/-- A plain character is none of those with a meaning inside brackets. -/
theorem not_mem_of_isPlainInClass
    {char : Char}
    (plain : isPlainInClass char = true) :
    char ∉ ['[', ']', '\\', '-', '^', '&'] := by
  have listed : "[]\\-^&".toList = ['[', ']', '\\', '-', '^', '&'] := by
    decide
  simp only [isPlainInClass, listed, Bool.and_eq_true, Bool.not_eq_true', List.contains_eq_mem,
    decide_eq_false_iff_not] at plain
  exact plain.2

/-- A character is written as it is if it is plain, and as a braced escape otherwise. -/
theorem codePointText_toNat
    (char : Char) :
    codePointText char.toNat =
      if isPlainInClass char then
        [char]
      else
        escapedCodePoint char.toNat := by
  simp [codePointText]

theorem opensEntry_codePointText
    (char : Char)
    (rest : List Char) :
    OpensEntry (codePointText char.toNat ++ rest) := by
  rw [codePointText_toNat]
  split
  · rename_i plain
    have special := not_mem_of_isPlainInClass plain
    simp only [List.mem_cons, List.not_mem_nil, or_false, not_or] at special
    exact ⟨char, rest, rfl, by simp [special]⟩
  · exact ⟨'\\', _, rfl, by decide⟩

end Label

namespace Cursor

open Label

/-- A dot as an entry stands for every code point. -/
theorem readEntry_dot
    [PropertyParser]
    (rest : List Char)
    (offset : Nat) :
    readEntry false ⟨'.' :: rest, offset⟩ =
      .ok (.full, ⟨rest, offset + Text.byteLength ['.']⟩) :=
  rfl

/-- Any other character of class text begins an entry with itself. -/
theorem readEntry_codePointText
    [PropertyParser]
    {char : Char}
    (notDot : char ≠ '.')
    (rest : List Char)
    (offset : Nat) :
    ∃ behind,
      readEntry false ⟨codePointText char.toNat ++ rest, offset⟩ =
        readSpan false char ⟨rest, behind⟩ := by
  rw [codePointText_toNat]
  split
  · rename_i plain
    have special := not_mem_of_isPlainInClass plain
    simp only [List.mem_cons, List.not_mem_nil, or_false, not_or] at special
    refine ⟨offset + Text.byteLength [char], ?_⟩
    simp only [readEntry, peek?, List.cons_append, List.nil_append, List.head?_cons]
    split
    case h_3 =>
      rfl
    all_goals
      simp_all
  · obtain ⟨behind, read⟩ := readEscape_escapedCodePoint false char rest offset
    refine ⟨behind, ?_⟩
    have first : (escapedCodePoint char.toNat ++ rest).head? = some '\\' := rfl
    simp only [readEntry, peek?, first, read, bind, Except.bind]

/-- Behind a dash, any character of class text is the end of a span. -/
theorem readSpanEnd_codePointText
    [PropertyParser]
    (char : Char)
    (rest : List Char)
    (offset : Nat) :
    ∃ behind,
      readSpanEnd false ⟨'-' :: (codePointText char.toNat ++ rest), offset⟩ =
        .ok (char, ⟨rest, behind⟩) := by
  rw [codePointText_toNat]
  split
  · rename_i plain
    have special := not_mem_of_isPlainInClass plain
    simp only [List.mem_cons, List.not_mem_nil, or_false, not_or] at special
    refine ⟨offset + Text.byteLength ['-'] + Text.byteLength [char], ?_⟩
    simp only [readSpanEnd, peek?, advance, List.cons_append, List.nil_append,
      List.drop_succ_cons, List.drop_zero, List.head?_cons]
    split
    case h_3 =>
      rfl
    all_goals
      simp_all
  · obtain ⟨behind, read⟩ :=
      readEscape_escapedCodePoint false char rest (offset + Text.byteLength ['-'])
    refine ⟨behind, ?_⟩
    have first : (escapedCodePoint char.toNat ++ rest).head? = some '\\' := rfl
    simp only [readSpanEnd, peek?, advance, List.drop_succ_cons, List.drop_zero, first]
    have dash : List.take 1 ('-' :: (escapedCodePoint char.toNat ++ rest)) = ['-'] := rfl
    rw [dash, read]
    rfl

/-- A dash makes a span if an entry could begin behind it. -/
theorem dashMakesSpan_dash
    {text : List Char}
    (opens : OpensEntry text) :
    dashMakesSpan ('-' :: text) = true := by
  obtain ⟨head, tail, rfl, special⟩ := opens
  simp only [List.mem_cons, List.not_mem_nil, or_false, not_or] at special
  rw [dashMakesSpan_cons]
  simp [special]

/-- What an interval of class text is read as: a dot in front takes its meaning along. -/
def pointsRead
    (interval : Interval) :
    CodePointSet :=
  if interval.first = '.'.toNat then
    .full
  else
    .span interval.first interval.limit

/-- An entry that is read is added to the innermost class. -/
theorem readClassBody_entry
    [PropertyParser]
    {groups : Nat}
    {frame : ClassFrame}
    {text : List Char}
    {offset : Nat}
    {entry : CodePointSet}
    {after : Cursor}
    (opens : OpensEntry text ∨ text.head? = some '-')
    (read : readEntry false ⟨text, offset⟩ = .ok (entry, after)) :
    readClassBody false groups frame [] ⟨text, offset⟩ =
      readClassBody false groups (frame.add entry) [] after := by
  have step :
      readInClass false groups frame [] ⟨text, offset⟩ =
        .ok (.inside (frame.add entry) [], after) := by
    obtain ⟨head, tail, rfl, special⟩ :
        ∃ head tail, text = head :: tail ∧ head ∉ ['[', ']', '&'] := by
      rcases opens with ⟨head, tail, shape, special⟩ | dash
      · refine ⟨head, tail, shape, ?_⟩
        simp only [List.mem_cons, List.not_mem_nil, or_false, not_or] at special
        simp [special]
      · obtain ⟨tail, shape⟩ := List.head?_eq_some_iff.mp dash
        exact ⟨'-', tail, shape, by decide⟩
    simp only [List.mem_cons, List.not_mem_nil, or_false, not_or] at special
    unfold readInClass
    split
    case h_5 =>
      simp only [read, bind, Except.bind]
    all_goals
      simp_all
  rw [readClassBody, step]

/-- The bracket at the end closes a class that has an entry. -/
theorem readClassBody_close
    [PropertyParser]
    {groups : Nat}
    {frame : ClassFrame}
    (hasEntry : frame.hasEntry = true)
    (rest : List Char)
    (offset : Nat) :
    readClassBody false groups frame [] ⟨']' :: rest, offset⟩ =
      .ok (frame.close, ⟨rest, offset + Text.byteLength [']']⟩) := by
  have step :
      readInClass false groups frame [] ⟨']' :: rest, offset⟩ =
        .ok (.complete frame.close, ⟨rest, offset + Text.byteLength [']']⟩) := by
    simp [readInClass, hasEntry, closeClass, advance]
  rw [readClassBody, step]

/-- Nothing can be added to an entry of every code point. -/
theorem add_full_add
    (frame : ClassFrame)
    (entry : CodePointSet) :
    (frame.add .full).add entry = frame.add .full := by
  have absorbed : (frame.current.union .full).union entry = frame.current.union .full := by
    ext codePoint
    have bounded : codePoint ∈ entry → codePoint < codePointLimit :=
      CodePointSet.lt_codePointLimit
    simp only [CodePointSet.mem_union, CodePointSet.mem_full]
    tauto
  simp only [ClassFrame.add, absorbed]

/-- A character without a dash behind it is an entry of its own. -/
theorem readSpan_single
    [PropertyParser]
    (char : Char)
    {rest : List Char}
    (noDash : rest.head? ≠ some '-')
    (offset : Nat) :
    readSpan false char ⟨rest, offset⟩ =
      .ok (.span char.toNat (char.toNat + 1), ⟨rest, offset⟩) := by
  simp [readSpan, dashMakesSpan_eq_false noDash, spanOf]

/-- A character, a dash and a later character are a span. -/
theorem readSpan_span
    [PropertyParser]
    {first last : Char}
    (ordered : first.toNat ≤ last.toNat)
    (rest : List Char)
    (offset : Nat) :
    ∃ behind,
      readSpan false first ⟨'-' :: (codePointText last.toNat ++ rest), offset⟩ =
        .ok (.span first.toNat (last.toNat + 1), ⟨rest, behind⟩) := by
  obtain ⟨behind, read⟩ := readSpanEnd_codePointText last rest offset
  refine ⟨behind, ?_⟩
  have spans := dashMakesSpan_dash (opensEntry_codePointText last rest)
  have notReversed : ¬ last < first := by
    rw [Char.lt_def, UInt32.lt_iff_toNat_lt]
    exact Nat.not_lt.mpr ordered
  simp [readSpan, spans, read, bind, Except.bind, notReversed, spanOf]

/-- What opens an entry is no dash. -/
theorem head?_ne_dash
    {text : List Char}
    (opens : OpensEntry text) :
    text.head? ≠ some '-' := by
  obtain ⟨head, tail, rfl, special⟩ := opens
  simp only [List.mem_cons, List.not_mem_nil, or_false, not_or] at special
  simp [special]

/-- A span that begins with a dot is read as the dot, the dash and the last character. -/
theorem readClassBody_dotSpan
    [PropertyParser]
    {groups : Nat}
    {frame : ClassFrame}
    {last : Char}
    (notDot : last ≠ '.')
    {rest : List Char}
    (noDash : rest.head? ≠ some '-')
    (offset : Nat) :
    ∃ behind,
      readClassBody false groups frame []
          ⟨'.' :: '-' :: (codePointText last.toNat ++ rest), offset⟩ =
        readClassBody false groups (frame.add .full) [] ⟨rest, behind⟩ := by
  have opensLast := opensEntry_codePointText last rest
  have opensDot : OpensEntry ('.' :: '-' :: (codePointText last.toNat ++ rest)) :=
    ⟨'.', _, rfl, by decide⟩
  have dash :
      readEntry false
          ⟨'-' :: (codePointText last.toNat ++ rest), offset + Text.byteLength ['.']⟩ =
        .ok (.span '-'.toNat ('-'.toNat + 1),
          ⟨codePointText last.toNat ++ rest,
            offset + Text.byteLength ['.'] + Text.byteLength ['-']⟩) :=
    readSpan_single '-' (head?_ne_dash opensLast) _
  obtain ⟨behind, lastRead⟩ :=
    readEntry_codePointText notDot rest
      (offset + Text.byteLength ['.'] + Text.byteLength ['-'])
  rw [readSpan_single last noDash] at lastRead
  refine ⟨behind, ?_⟩
  -- The dot has added every code point, so the dash and the last character add nothing.
  rw [readClassBody_entry (Or.inl opensDot) (readEntry_dot _ _),
    readClassBody_entry (Or.inr rfl) dash, add_full_add,
    readClassBody_entry (Or.inl opensLast) lastRead, add_full_add]

/-- An interval of class text is added to the innermost class as `pointsRead` says. -/
theorem readClassBody_intervalText
    [PropertyParser]
    {groups : Nat}
    {frame : ClassFrame}
    {first last : Char}
    (ordered : first.toNat ≤ last.toNat)
    {rest : List Char}
    (noDash : rest.head? ≠ some '-')
    (offset : Nat) :
    ∃ behind,
      readClassBody false groups frame []
          ⟨intervalText ⟨first.toNat, last.toNat + 1⟩ ++ rest, offset⟩ =
        readClassBody false groups
          (frame.add (pointsRead ⟨first.toNat, last.toNat + 1⟩)) [] ⟨rest, behind⟩ := by
  have dotText : codePointText '.'.toNat = ['.'] := by
    decide
  by_cases single : last.toNat + 1 - first.toNat ≤ 1
  · obtain rfl : last = first := Char.toNat_inj.mp (by omega)
    have opens := opensEntry_codePointText last rest
    simp only [intervalText, Interval.size, single, if_true, pointsRead, Char.toNat_inj]
    by_cases isDot : last = '.'
    · subst isDot
      rw [dotText] at opens ⊢
      exact ⟨_, readClassBody_entry (Or.inl opens) (readEntry_dot rest offset)⟩
    · obtain ⟨behind, read⟩ := readEntry_codePointText isDot rest offset
      rw [readSpan_single last noDash] at read
      rw [if_neg isDot]
      exact ⟨behind, readClassBody_entry (Or.inl opens) read⟩
  · simp only [intervalText, Interval.size, single, if_false, pointsRead,
      Char.toNat_inj, Nat.add_sub_cancel, List.append_assoc, List.cons_append]
    by_cases isDot : first = '.'
    · subst isDot
      have lastNotDot : last ≠ '.' := by
        rintro rfl
        omega
      rw [dotText]
      exact readClassBody_dotSpan lastNotDot noDash offset
    · obtain ⟨middle, firstRead⟩ :=
        readEntry_codePointText isDot ('-' :: (codePointText last.toNat ++ rest)) offset
      obtain ⟨behind, spanRead⟩ := readSpan_span ordered rest middle
      rw [spanRead] at firstRead
      rw [if_neg isDot]
      exact ⟨behind,
        readClassBody_entry (Or.inl (opensEntry_codePointText first _)) firstRead⟩

/-- The first and the last member of an interval are characters. -/
def EndsInChars
    (interval : Interval) :
    Prop :=
  ∃ first last : Char,
    first.toNat ≤ last.toNat ∧ interval = ⟨first.toNat, last.toNat + 1⟩

/-- The text of an interval opens an entry. -/
theorem opensEntry_intervalText
    {interval : Interval}
    (chars : EndsInChars interval)
    (rest : List Char) :
    OpensEntry (intervalText interval ++ rest) := by
  obtain ⟨first, last, _, rfl⟩ := chars
  unfold intervalText
  split
  · exact opensEntry_codePointText first rest
  · rw [List.append_assoc]
    exact opensEntry_codePointText first _

/-- Neither intervals of class text nor the bracket behind them begin with a dash. -/
theorem head?_flatMap_intervalText_ne_dash
    {intervals : List Interval}
    (chars : ∀ interval ∈ intervals, EndsInChars interval)
    (rest : List Char) :
    (intervals.flatMap intervalText ++ ']' :: rest).head? ≠ some '-' := by
  cases intervals with
  | nil =>
      simp
  | cons head others =>
      rw [List.flatMap_cons, List.append_assoc]
      exact head?_ne_dash (opensEntry_intervalText (chars head (List.mem_cons_self ..)) _)

/-- The intervals of class text are all added to the innermost class. -/
theorem readClassBody_flatMap_intervalText
    [PropertyParser]
    (groups opening : Nat)
    {intervals : List Interval}
    (chars : ∀ interval ∈ intervals, EndsInChars interval)
    (current : CodePointSet)
    (hasEntry : Bool)
    (present : hasEntry = true ∨ intervals ≠ [])
    (rest : List Char)
    (offset : Nat) :
    ∃ behind,
      readClassBody false groups ⟨opening, false, none, current, hasEntry⟩ []
          ⟨intervals.flatMap intervalText ++ ']' :: rest, offset⟩ =
        .ok (intervals.foldl (fun points interval => points.union (pointsRead interval)) current,
          ⟨rest, behind⟩) := by
  induction intervals generalizing current hasEntry offset with
  | nil =>
      have closes : hasEntry = true := by
        simpa using present
      exact ⟨_, readClassBody_close closes rest offset⟩
  | cons head others inductionHypothesis =>
      obtain ⟨headChars, othersChars⟩ := List.forall_mem_cons.mp chars
      obtain ⟨first, last, ordered, rfl⟩ := headChars
      obtain ⟨middle, headRead⟩ :=
        readClassBody_intervalText ordered
          (head?_flatMap_intervalText_ne_dash othersChars rest) offset
      obtain ⟨behind, othersRead⟩ :=
        inductionHypothesis othersChars
          (current.union (pointsRead ⟨first.toNat, last.toNat + 1⟩)) true (Or.inl rfl) middle
      refine ⟨behind, ?_⟩
      rw [List.flatMap_cons, List.append_assoc, headRead, List.foldl_cons]
      exact othersRead

/-- A class with entries that is not negated is read as what its intervals are read as. -/
theorem readLabel_intervals
    [PropertyParser]
    {intervals : List Interval}
    (chars : ∀ interval ∈ intervals, EndsInChars interval)
    (present : intervals ≠ [])
    (rest : List Char)
    (offset : Nat) :
    ∃ behind,
      readLabel false 0 ⟨'[' :: (intervals.flatMap intervalText ++ ']' :: rest), offset⟩ =
        .ok (.ofPoints
            (intervals.foldl (fun points interval => points.union (pointsRead interval)) .empty),
          ⟨rest, behind⟩) := by
  obtain ⟨behind, read⟩ :=
    readClassBody_flatMap_intervalText 0 offset chars .empty false (Or.inr present) rest
      (offset + Text.byteLength ['['])
  have noCaret : (intervals.flatMap intervalText ++ ']' :: rest).head? ≠ some '^' := by
    obtain ⟨head, others, rfl⟩ := List.exists_cons_of_ne_nil present
    obtain ⟨first, tail, shape, special⟩ :=
      opensEntry_intervalText (chars head (List.mem_cons_self ..))
        (others.flatMap intervalText ++ ']' :: rest)
    rw [List.flatMap_cons, List.append_assoc, shape]
    simp only [List.mem_cons, List.not_mem_nil, or_false, not_or] at special
    simp [special]
  have opened :
      openClass 0 ⟨'[' :: (intervals.flatMap intervalText ++ ']' :: rest), offset⟩ =
        .ok (⟨offset, false, none, .empty, false⟩,
          ⟨intervals.flatMap intervalText ++ ']' :: rest, offset + Text.byteLength ['[']⟩) := by
    unfold openClass
    rw [if_neg (by decide), if_neg (by exact noCaret)]
    rfl
  refine ⟨behind, ?_⟩
  simp only [readLabel, peek?, List.head?_cons, readClass, opened, read, bind, Except.bind]

end Cursor

namespace Label

open Cursor

/-- What is read from intervals of class text has the code points that any of them is read as. -/
theorem mem_foldl_union
    {intervals : List Interval}
    {points : CodePointSet}
    {codePoint : Nat} :
    codePoint ∈ intervals.foldl (fun points interval => points.union (pointsRead interval)) points ↔
      codePoint ∈ points ∨ ∃ interval ∈ intervals, codePoint ∈ pointsRead interval := by
  induction intervals generalizing points with
  | nil =>
      simp
  | cons head rest inductionHypothesis =>
      rw [List.foldl_cons, inductionHypothesis, CodePointSet.mem_union]
      simp [or_assoc]

/-- Whether an interval of the label begins with the dot. -/
def HasLeadingDot
    (label : Label) :
    Prop :=
  ∃ interval ∈ label.points.intervals, interval.first = '.'.toNat

instance
    (label : Label) :
    Decidable label.HasLeadingDot :=
  inferInstanceAs (Decidable (∃ interval ∈ label.points.intervals, interval.first = '.'.toNat))

/-- The code points that class text is read as. -/
theorem foldl_pointsRead
    (label : Label) :
    label.points.intervals.foldl (fun points interval => points.union (pointsRead interval))
        .empty =
      if label.HasLeadingDot then
        .full
      else
        label.points := by
  ext codePoint
  rw [mem_foldl_union]
  split
  · rename_i leadingDot
    obtain ⟨interval, member, isDot⟩ := leadingDot
    constructor
    · rintro (none | ⟨other, _, found⟩)
      · exact absurd none (CodePointSet.not_mem_empty codePoint)
      · exact CodePointSet.mem_full.mpr (CodePointSet.lt_codePointLimit found)
    · intro found
      refine Or.inr ⟨interval, member, ?_⟩
      rw [pointsRead, if_pos isDot]
      exact found
  · rename_i noLeadingDot
    have own :
        ∀ interval ∈ label.points.intervals,
          codePoint ∈ pointsRead interval ↔ interval.Contains codePoint := by
      intro interval member
      have notDot : interval.first ≠ '.'.toNat :=
        fun isDot => noLeadingDot ⟨interval, member, isDot⟩
      have inside := label.points.spaced.limit_le member
      simp only [pointsRead, notDot, if_false, CodePointSet.span, CodePointSet.mem_addSpan,
        CodePointSet.not_mem_empty, or_false, Interval.Contains]
      omega
    constructor
    · rintro (none | ⟨interval, member, found⟩)
      · exact absurd none (CodePointSet.not_mem_empty codePoint)
      · exact ⟨interval, member, (own interval member).mp found⟩
    · rintro ⟨interval, member, found⟩
      exact Or.inr ⟨interval, member, (own interval member).mpr found⟩

/-- Whether a code point is a surrogate, which no character has. -/
def IsSurrogate
    (codePoint : Nat) :
    Prop :=
  surrogateFirst ≤ codePoint ∧ codePoint < surrogateLimit

instance
    (codePoint : Nat) :
    Decidable (IsSurrogate codePoint) :=
  inferInstanceAs (Decidable (_ ∧ _))

/-- Every code point of the domain that is no surrogate is that of a character. -/
theorem exists_char_of_not_isSurrogate
    {codePoint : Nat}
    (inside : codePoint < codePointLimit)
    (noSurrogate : ¬ IsSurrogate codePoint) :
    ∃ char : Char, char.toNat = codePoint := by
  have valid : codePoint.isValidChar := by
    unfold IsSurrogate surrogateFirst surrogateLimit at noSurrogate
    unfold codePointLimit at inside
    unfold Nat.isValidChar
    omega
  refine ⟨Char.ofNatAux codePoint valid, ?_⟩
  rw [← charOfCodePoint?_eq_some_iff, charOfCodePoint?, dif_pos valid]

/--
Class text without boundaries and without surrogates at the ends of its
intervals is read as the label it was written for, or as every code point if an
interval begins with the dot.
-/
theorem parse_classText
    [PropertyParser]
    (label : Label)
    (present : label.points.intervals ≠ [])
    (noBoundary : label.boundaries = .empty)
    (noSurrogate :
      ∀ interval ∈ label.points.intervals,
        ¬ IsSurrogate interval.first ∧ ¬ IsSurrogate (interval.limit - 1)) :
    Expression.parse label.classText {} =
      .ok [[⟨.label (if label.HasLeadingDot then .anyChar else label), .once⟩]] := by
  have chars : ∀ interval ∈ label.points.intervals, EndsInChars interval := by
    intro interval member
    have nonempty := label.points.spaced.first_lt_limit member
    have inside := label.points.spaced.limit_le member
    obtain ⟨noFirst, noLast⟩ := noSurrogate interval member
    obtain ⟨first, firstCode⟩ := exists_char_of_not_isSurrogate (by omega) noFirst
    obtain ⟨last, lastCode⟩ := exists_char_of_not_isSurrogate (by omega) noLast
    refine ⟨first, last, by omega, ?_⟩
    rw [firstCode, lastCode, Nat.sub_add_cancel (by omega)]
  have written :
      label.classChars = '[' :: (label.points.intervals.flatMap intervalText ++ [']']) := by
    have noSymbol : BoundarySet.empty.toList = [] := by
      decide
    simp [classChars, noBoundary, noSymbol]
  have result :
      Label.ofPoints
          (label.points.intervals.foldl
            (fun points interval => points.union (pointsRead interval)) .empty) =
        if label.HasLeadingDot then .anyChar else label := by
    rw [foldl_pointsRead]
    split
    · rfl
    · rw [ofPoints, ← noBoundary]
  have writes :
      ∀ part ∈ [label],
        Writes false part.classChars
          ⟨.label (if label.HasLeadingDot then .anyChar else label), .once⟩ := by
    intro part member
    obtain rfl := List.mem_singleton.mp member
    rw [written]
    apply Writes.of_readLabel rfl (by decide) (by decide)
    intro rest offset
    obtain ⟨behind, read⟩ := readLabel_intervals chars present rest offset
    rw [result] at read
    refine ⟨behind, ?_⟩
    simpa using read
  have parsed := Writes.ofChars_flatMap (by simp) writes
  simpa [Expression.parse, classText] using parsed

/-- The dash and the letters from `a` to `c` are read back. -/
theorem parse_classText_dashedLetters :
    Expression.parse ((ofChar '-').addSpan 0x61 0x64).classText {} =
      .ok [[⟨.label ((ofChar '-').addSpan 0x61 0x64), .once⟩]] := by
  have read :=
    parse_classText ((ofChar '-').addSpan 0x61 0x64) (by decide) (by decide) (by decide)
  rwa [if_neg (by decide)] at read

/-- The dot is not read back: inside brackets it still stands for every code point. -/
theorem parse_classText_dot :
    (ofChar '.').points.intervals ≠ [] ∧
      (ofChar '.').boundaries = .empty ∧
      (∀ interval ∈ (ofChar '.').points.intervals,
        ¬ IsSurrogate interval.first ∧ ¬ IsSurrogate (interval.limit - 1)) ∧
      Expression.parse (ofChar '.').classText {} ≠
        .ok [[⟨.label (ofChar '.'), .once⟩]] := by
  refine ⟨by decide, by decide, by decide, ?_⟩
  intro read
  have labels :=
    congrArg
      (fun result => result.toOption.map fun (expression : Expression) =>
        expression.outline.map OutlineEntry.label) read
  revert labels
  decide +kernel

end Label

end LexicalAutomata
