import LexicalAutomata.Proofs.Expression.Pieces
import LexicalAutomata.Proofs.Expression.Visits

namespace LexicalAutomata

/-!
# Reading a text inside a longer one

What a reader has read of a text, it reads of a longer text as well, wherever the text stands
in it.  Only a few readers look beyond what they read: a quantifier may follow, and so may a
digit of an escape, so that what is behind the text must not begin like these.
-/

/-- A text that does not begin with a digit. -/
def NoDigit
    (text : List Char) :
    Prop :=
  ∀ char ∈ text.head?, char.isDigit = false

namespace Cursor

/-- The same place in a longer text, with more bytes in front and more text behind. -/
def embed
    (shift : Nat)
    (tail : List Char)
    (cursor : Cursor) :
    Cursor :=
  ⟨cursor.rest ++ tail, cursor.offset + shift⟩

variable {shift : Nat} {tail : List Char} {cursor opening longerOpening after : Cursor}
  {caseInsensitive : Bool}

section Places

/-- Where a character is next, the text has not ended. -/
theorem ne_nil_of_peek?
    {char : Char}
    (present : cursor.peek? = some char) :
    cursor.rest ≠ [] :=
  List.ne_nil_of_mem (List.mem_of_head? present)

/-- A reader that has gone on did not start at the end of the text. -/
theorem ne_nil_of_length_lt
    (shorter : after.rest.length < cursor.rest.length) :
    cursor.rest ≠ [] :=
  List.ne_nil_of_length_pos (Nat.zero_lt_of_lt shorter)

/-- Going on within the text is the same in the longer one. -/
theorem advance_embed
    {count : Nat}
    (le : count ≤ cursor.rest.length) :
    (cursor.embed shift tail).advance count = (cursor.advance count).embed shift tail := by
  simp only [embed, advance, List.drop_append_of_le_length le, List.take_append_of_le_length le,
    mk.injEq, true_and]
  exact Nat.add_right_comm _ _ _

/-- Going on by one character within the text is the same in the longer one. -/
theorem advance_one_embed
    (present : cursor.rest ≠ []) :
    (cursor.embed shift tail).advance 1 = (cursor.advance 1).embed shift tail :=
  advance_embed (List.length_pos_iff.mpr present)

/-- Within the text, the next character is the same in the longer one. -/
theorem peek?_embed
    (present : cursor.rest ≠ []) :
    (cursor.embed shift tail).peek? = cursor.peek? := by
  obtain ⟨rest, offset⟩ := cursor
  obtain ⟨head, others, rfl⟩ := List.exists_cons_of_ne_nil present
  rfl

/-- Where the text has not ended, the longer one has not. -/
theorem embed_ne_nil
    (present : cursor.rest ≠ []) :
    (cursor.embed shift tail).rest ≠ [] :=
  List.append_ne_nil_of_left_ne_nil present _

/-- A run that ends in front of what is behind the text is the same in the longer text. -/
theorem run_embed
    {property : Char → Bool}
    (stops :
      (cursor.run property).length = cursor.rest.length →
        ∀ char ∈ tail.head?, property char = false) :
    (cursor.embed shift tail).run property = cursor.run property := by
  rw [run, embed, List.takeWhile_append]
  split
  · rename_i whole
    have nothing : tail.takeWhile property = [] := by
      cases tail with
      | nil =>
          rfl
      | cons char _ =>
          simp [stops whole char rfl]
    have all := (List.takeWhile_prefix property).eq_of_length whole
    rw [nothing, List.append_nil, run, all]
  · rfl

/-- A run is no longer than the text. -/
theorem length_run_le
    (cursor : Cursor)
    (property : Char → Bool) :
    (cursor.run property).length ≤ cursor.rest.length :=
  (List.takeWhile_prefix _).length_le

/-- A character that is read in the text is read in the longer one. -/
theorem next_embed
    {char : Char}
    (read : cursor.next = .ok (char, after)) :
    (cursor.embed shift tail).next = .ok (char, after.embed shift tail) := by
  unfold next at read ⊢
  split at read
  · contradiction
  · rename_i present
    have nonempty := ne_nil_of_peek? present
    cases read
    rw [peek?_embed nonempty, present, advance_one_embed nonempty]

/-- A required character that is found in the text is found in the longer one. -/
theorem require_embed
    {wanted : Char}
    (read : cursor.require wanted = .ok after) :
    (cursor.embed shift tail).require wanted = .ok (after.embed shift tail) := by
  obtain ⟨⟨found, next⟩, first, second⟩ := bind_eq_ok_iff.mp read
  refine bind_eq_ok_iff.mpr ⟨_, next_embed first, ?_⟩
  dsimp only at second ⊢
  split at second
  · rename_i same
    cases second
    rw [if_pos same]
  · contradiction

end Places

section Number

variable {quantifier : Quantifier}

/-- A number ends where it did, unless a digit follows the text. -/
theorem readNumber_embed
    {value : Nat}
    (noDigit : NoDigit tail)
    (read : cursor.readNumber = .ok (value, after)) :
    (cursor.embed shift tail).readNumber = .ok (value, after.embed shift tail) := by
  unfold readNumber at read ⊢
  dsimp only at read ⊢
  rw [run_embed fun _ => noDigit]
  split at read
  · contradiction
  · rename_i some
    split at read
    · contradiction
    · rename_i small
      cases read
      rw [if_neg some, if_neg small, advance_embed (cursor.length_run_le _)]

/-- Bounds that close in the text close in the longer one, and are as well ordered. -/
theorem closeBounds_embed
    {bounds : Quantifier}
    (read : closeBounds opening bounds cursor = .ok (quantifier, after)) :
    closeBounds longerOpening bounds (cursor.embed shift tail) =
      .ok (quantifier, after.embed shift tail) := by
  obtain ⟨closed, first, second⟩ := bind_eq_ok_iff.mp read
  refine bind_eq_ok_iff.mpr ⟨_, require_embed first, ?_⟩
  split at second
  · cases second
    rfl
  · split at second
    · contradiction
    · rename_i ordered
      cases second
      exact if_neg ordered

/-- A maximum ends where it did, unless a digit follows the text. -/
theorem readMaximum_embed
    {minimum : Nat}
    (noDigit : NoDigit tail)
    (read : readMaximum opening minimum cursor = .ok (quantifier, after)) :
    readMaximum longerOpening minimum (cursor.embed shift tail) =
      .ok (quantifier, after.embed shift tail) := by
  have present := ne_nil_of_length_lt (readMaximum_shorter read)
  unfold readMaximum at read ⊢
  rw [peek?_embed present]
  split at read
  · rename_i unlimited
    rw [if_pos unlimited]
    exact closeBounds_embed read
  · rename_i limited
    rw [if_neg limited]
    obtain ⟨⟨maximum, next⟩, first, second⟩ := bind_eq_ok_iff.mp read
    exact bind_eq_ok_iff.mpr ⟨_, readNumber_embed noDigit first, closeBounds_embed second⟩

/-- Bounds in braces are read as they were, since their closing brace is in the text. -/
theorem readBounds_embed
    (noDigit : NoDigit tail)
    (read : readBounds opening = .ok (quantifier, after)) :
    readBounds (opening.embed shift tail) = .ok (quantifier, after.embed shift tail) := by
  have present := ne_nil_of_length_lt (readBounds_shorter read)
  obtain ⟨⟨minimum, next⟩, first, second⟩ := bind_eq_ok_iff.mp read
  unfold readBounds
  rw [advance_one_embed present]
  refine bind_eq_ok_iff.mpr ⟨_, readNumber_embed noDigit first, ?_⟩
  dsimp only at second ⊢
  split at second
  · rename_i comma
    have behind := ne_nil_of_peek? comma
    rw [peek?_embed behind, if_pos comma, advance_one_embed behind]
    exact readMaximum_embed noDigit second
  · rename_i noComma
    rw [peek?_embed (ne_nil_of_length_lt (closeBounds_shorter second)), if_neg noComma]
    exact closeBounds_embed second

/-- A quantifier is read as far as the text goes, unless one begins behind the text. -/
theorem readQuantifier_embed
    (noDigit : NoDigit tail)
    (noQuantifier : NoQuantifier tail)
    (read : cursor.readQuantifier = .ok (quantifier, after)) :
    (cursor.embed shift tail).readQuantifier = .ok (quantifier, after.embed shift tail) := by
  by_cases present : cursor.rest = []
  · have nothing : NoQuantifier cursor.rest := by
      rw [present]
      simp [NoQuantifier]
    cases (readQuantifier_of_noQuantifier nothing cursor.offset).symm.trans read
    rw [embed, present]
    exact readQuantifier_of_noQuantifier noQuantifier _
  · unfold readQuantifier at read ⊢
    rw [peek?_embed present]
    split at read
    · cases read
      rw [advance_one_embed present]
    · cases read
      rw [advance_one_embed present]
    · cases read
      rw [advance_one_embed present]
    · exact readBounds_embed noDigit read
    · cases read
      rfl

end Number

section Escape

variable {char : Char} {value : Nat}

/-- Which code points are characters does not depend on the place. -/
theorem charWith_embed
    {codePoint : Nat}
    (read : opening.charWith codePoint = .ok char) :
    longerOpening.charWith codePoint = .ok char := by
  unfold charWith at read ⊢
  split at read
  · contradiction
  · exact read

/-- Octal digits end where they did, unless a digit follows the text. -/
theorem octalDigits_embed
    (noDigit : NoDigit tail) :
    (cursor.embed shift tail).octalDigits = cursor.octalDigits := by
  have noOctalDigit : ∀ char ∈ tail.head?, isOctalDigit char = false := by
    intro char first
    have notDigit := noDigit char first
    rw [← Bool.not_eq_true] at notDigit ⊢
    exact mt isDigit_of_isOctalDigit notDigit
  rw [octalDigits, octalDigits, run_embed fun _ => noOctalDigit]

/-- Octal digits are no longer than the text. -/
theorem length_octalDigits_le
    (cursor : Cursor) :
    cursor.octalDigits.length ≤ cursor.rest.length := by
  have run := cursor.length_run_le isOctalDigit
  unfold octalDigits
  dsimp only
  split <;> simp only [List.length_take] <;> omega

/-- An octal escape ends where it did, unless a digit follows the text. -/
theorem readOctal_embed
    (noDigit : NoDigit tail)
    (read : readOctal opening cursor = .ok (char, after)) :
    readOctal longerOpening (cursor.embed shift tail) = .ok (char, after.embed shift tail) := by
  unfold readOctal at read ⊢
  rw [octalDigits_embed noDigit]
  split at read
  · contradiction
  · rename_i some
    obtain ⟨value, first, second⟩ := bind_eq_ok_iff.mp read
    cases second
    rw [if_neg some, advance_embed cursor.length_octalDigits_le]
    exact bind_eq_ok_iff.mpr ⟨_, charWith_embed first, rfl⟩

/-- A fixed count of hexadecimal digits is read the same way in the longer text. -/
theorem readHex_embed
    {count : Nat}
    (read : readHex opening count cursor = .ok (value, after)) :
    readHex longerOpening count (cursor.embed shift tail) =
      .ok (value, after.embed shift tail) := by
  unfold readHex at read ⊢
  dsimp only at read ⊢
  split at read
  · rename_i digits
    have le : count ≤ cursor.rest.length := by
      have length := digits.1
      rw [List.length_take] at length
      omega
    have same : (cursor.embed shift tail).rest.take count = cursor.rest.take count :=
      List.take_append_of_le_length le
    split at read
    · contradiction
    · rename_i small
      cases read
      rw [same, if_pos digits, if_neg small, advance_embed le]
  · contradiction

/-- A hexadecimal number leaves what is behind its count of digits. -/
theorem rest_of_readHex
    {count : Nat}
    (read : readHex opening count cursor = .ok (value, after)) :
    after.rest = cursor.rest.drop count := by
  unfold readHex at read
  dsimp only at read
  split at read
  · split at read
    · contradiction
    · cases read
      rfl
  · contradiction

/-- A hexadecimal number in braces is read the same way in the longer text. -/
theorem readBracedHex_embed
    (read : readBracedHex opening cursor = .ok (value, after)) :
    readBracedHex longerOpening (cursor.embed shift tail) =
      .ok (value, after.embed shift tail) := by
  unfold readBracedHex at read ⊢
  dsimp only at read ⊢
  split at read
  · contradiction
  · rename_i some
    obtain ⟨⟨codePoint, next⟩, first, second⟩ := bind_eq_ok_iff.mp read
    obtain ⟨closed, third, fourth⟩ := bind_eq_ok_iff.mp second
    cases fourth
    -- The run of digits ends at the closing brace, in front of what is behind the text.
    have behind : next.rest = cursor.rest.drop (cursor.run isHexDigit).length :=
      rest_of_readHex first
    have ends : (cursor.run isHexDigit).length ≠ cursor.rest.length := by
      intro whole
      rw [whole, List.drop_length] at behind
      exact ne_nil_of_length_lt (require_shorter third) behind
    rw [run_embed fun whole => (ends whole).elim, if_neg some]
    exact bind_eq_ok_iff.mpr
      ⟨_, readHex_embed first, bind_eq_ok_iff.mpr ⟨_, require_embed third, rfl⟩⟩

/-- A code point is read the same way in the longer text, with braces or without them. -/
theorem readCodePoint_embed
    (read : readCodePoint opening cursor = .ok (value, after)) :
    readCodePoint longerOpening (cursor.embed shift tail) =
      .ok (value, after.embed shift tail) := by
  have present : cursor.rest ≠ [] := by
    intro ended
    simp [readCodePoint, readHex, peek?, ended, fail, failAt] at read
  unfold readCodePoint at read ⊢
  rw [peek?_embed present]
  split at read
  · rename_i brace
    rw [if_pos brace, advance_one_embed present]
    exact readBracedHex_embed read
  · rename_i noBrace
    rw [if_neg noBrace]
    exact readHex_embed read

/-- A control escape is read the same way in the longer text. -/
theorem readControl_embed
    (read : readControl opening cursor = .ok (char, after)) :
    readControl longerOpening (cursor.embed shift tail) =
      .ok (char, after.embed shift tail) := by
  obtain ⟨⟨letter, next⟩, first, second⟩ := bind_eq_ok_iff.mp read
  refine bind_eq_ok_iff.mpr ⟨_, next_embed first, ?_⟩
  dsimp only at second ⊢
  split at second
  · rename_i isControl
    obtain ⟨control, third, fourth⟩ := bind_eq_ok_iff.mp second
    cases fourth
    rw [if_pos isControl]
    exact bind_eq_ok_iff.mpr ⟨_, charWith_embed third, rfl⟩
  · contradiction

/-- The name of a class is read the same way in the longer text. -/
theorem readClassName_embed
    {name : String}
    (read : cursor.readClassName = .ok (name, after)) :
    (cursor.embed shift tail).readClassName = .ok (name, after.embed shift tail) := by
  have present : cursor.rest ≠ [] := by
    intro ended
    simp [readClassName, next, peek?, ended, fail, failAt, bind, Except.bind] at read
  unfold readClassName at read ⊢
  rw [peek?_embed present]
  dsimp only at read ⊢
  split at read
  · rename_i brace
    split at read
    · contradiction
    · rename_i closed
      cases read
      -- The name ends at the closing brace, in front of what is behind the text.
      have shorter :
          1 + ((cursor.advance 1).run (· != '\x7d')).length < cursor.rest.length := by
        rw [rest_advance, List.isEmpty_iff, List.drop_eq_nil_iff] at closed
        exact Nat.lt_of_not_le closed
      have ends :
          ((cursor.advance 1).run (· != '\x7d')).length ≠ (cursor.advance 1).rest.length := by
        rw [rest_advance, List.length_drop]
        omega
      have behind := mt List.isEmpty_iff.mpr closed
      rw [if_pos brace, advance_one_embed present, run_embed fun whole => (ends whole).elim,
        advance_embed (Nat.le_of_lt shorter), advance_one_embed behind,
        if_neg (mt List.isEmpty_iff.mp (embed_ne_nil behind))]
  · rename_i noBrace
    rw [if_neg noBrace]
    obtain ⟨⟨letter, next⟩, first, second⟩ := bind_eq_ok_iff.mp read
    cases second
    exact bind_eq_ok_iff.mpr ⟨_, next_embed first, rfl⟩

/-- A class that is found by its name is found in the longer text. -/
theorem readNamedClass_embed
    [PropertyParser]
    {points : CodePointSet}
    (read : cursor.readNamedClass caseInsensitive = .ok (points, after)) :
    (cursor.embed shift tail).readNamedClass caseInsensitive =
      .ok (points, after.embed shift tail) := by
  obtain ⟨⟨name, next⟩, first, second⟩ := bind_eq_ok_iff.mp read
  refine bind_eq_ok_iff.mpr ⟨_, readClassName_embed first, ?_⟩
  dsimp only at second ⊢
  split at second
  · contradiction
  · cases second
    rfl

/-- An escape with more than a letter is read as it was, unless a digit follows the text. -/
theorem readLongEscape_embed
    [PropertyParser]
    {letter : Char}
    {escaped : Escaped}
    (noDigit : NoDigit tail)
    (read : readLongEscape caseInsensitive opening letter cursor = .ok (escaped, after)) :
    readLongEscape caseInsensitive longerOpening letter (cursor.embed shift tail) =
      .ok (escaped, after.embed shift tail) := by
  unfold readLongEscape at read ⊢
  split at read
  · obtain ⟨⟨char, next⟩, first, second⟩ := bind_eq_ok_iff.mp read
    cases second
    exact bind_eq_ok_iff.mpr ⟨_, readOctal_embed noDigit first, rfl⟩
  · obtain ⟨⟨codePoint, next⟩, first, second⟩ := bind_eq_ok_iff.mp read
    obtain ⟨char, third, fourth⟩ := bind_eq_ok_iff.mp second
    cases fourth
    exact bind_eq_ok_iff.mpr
      ⟨_, readCodePoint_embed first, bind_eq_ok_iff.mpr ⟨_, charWith_embed third, rfl⟩⟩
  · obtain ⟨⟨codePoint, next⟩, first, second⟩ := bind_eq_ok_iff.mp read
    obtain ⟨char, third, fourth⟩ := bind_eq_ok_iff.mp second
    cases fourth
    exact bind_eq_ok_iff.mpr
      ⟨_, readHex_embed first, bind_eq_ok_iff.mpr ⟨_, charWith_embed third, rfl⟩⟩
  · obtain ⟨⟨char, next⟩, first, second⟩ := bind_eq_ok_iff.mp read
    cases second
    exact bind_eq_ok_iff.mpr ⟨_, readControl_embed first, rfl⟩
  · obtain ⟨⟨points, next⟩, first, second⟩ := bind_eq_ok_iff.mp read
    cases second
    exact bind_eq_ok_iff.mpr ⟨_, readNamedClass_embed first, rfl⟩
  · obtain ⟨⟨points, next⟩, first, second⟩ := bind_eq_ok_iff.mp read
    cases second
    exact bind_eq_ok_iff.mpr ⟨_, readNamedClass_embed first, rfl⟩
  · contradiction

/-- An escape is read as far as the text goes, unless a digit follows. -/
theorem readEscape_embed
    [PropertyParser]
    {escaped : Escaped}
    (noDigit : NoDigit tail)
    (read : readEscape caseInsensitive opening = .ok (escaped, after)) :
    readEscape caseInsensitive (opening.embed shift tail) =
      .ok (escaped, after.embed shift tail) := by
  have present := ne_nil_of_length_lt (readEscape_shorter read)
  unfold readEscape at read ⊢
  rw [advance_one_embed present]
  split at read
  · contradiction
  · rename_i letter isLetter
    have behind := ne_nil_of_peek? isLetter
    have two : 2 ≤ opening.rest.length := by
      have length := List.length_pos_iff.mpr behind
      rw [rest_advance, List.length_drop] at length
      omega
    rw [peek?_embed behind, isLetter, advance_embed two]
    dsimp only
    split at read
    · cases read
      rfl
    · exact readLongEscape_embed noDigit read

end Escape

section Class

variable {points : CodePointSet}

/-- Whether a dash makes a span is settled within the class. -/
theorem dashMakesSpan_append
    {rest : List Char}
    (closes : ']' ∈ rest)
    (tail : List Char) :
    dashMakesSpan (rest ++ tail) = dashMakesSpan rest := by
  match rest with
  | [first] =>
      rw [← List.mem_singleton.mp closes]
      rfl
  | first :: second :: others =>
      by_cases dash : first = '-'
      · subst dash
        rw [List.cons_append, List.cons_append, dashMakesSpan_cons, dashMakesSpan_cons]
        by_cases pair : second = '&'
        · subst pair
          have more : others ≠ [] := by
            rintro rfl
            simp at closes
          obtain ⟨third, behind, rfl⟩ := List.exists_cons_of_ne_nil more
          rfl
        · simp [pair]
      · have noDash : ∀ behind : List Char, (first :: behind).head? ≠ some '-' :=
          fun _ present => dash (Option.some.inj present)
        rw [List.cons_append, dashMakesSpan_eq_false (noDash _), dashMakesSpan_eq_false (noDash _)]

/-- The end of a span is read as it was, unless a digit follows the text. -/
theorem readSpanEnd_embed
    [PropertyParser]
    {last : Char}
    (noDigit : NoDigit tail)
    (read : readSpanEnd caseInsensitive cursor = .ok (last, after)) :
    readSpanEnd caseInsensitive (cursor.embed shift tail) =
      .ok (last, after.embed shift tail) := by
  have behind : (cursor.advance 1).rest ≠ [] := by
    intro ended
    simp only [readSpanEnd, peek?, ended, List.head?_nil] at read
    exact ne_nil_of_length_lt (next_shorter read) ended
  have present : cursor.rest ≠ [] := by
    intro ended
    rw [rest_advance, ended, List.drop_nil] at behind
    exact behind rfl
  unfold readSpanEnd at read ⊢
  dsimp only at read ⊢
  rw [advance_one_embed present, peek?_embed behind]
  split at read
  · obtain ⟨⟨escaped, next⟩, first, second⟩ := bind_eq_ok_iff.mp read
    refine bind_eq_ok_iff.mpr ⟨_, readEscape_embed noDigit first, ?_⟩
    dsimp only at second ⊢
    split at second
    · cases second
      rfl
    · contradiction
  · contradiction
  · exact next_embed read

/-- A span in a class that closes within the text is read as it was. -/
theorem readSpan_embed
    [PropertyParser]
    {first : Char}
    (noDigit : NoDigit tail)
    (closes : ']' ∈ cursor.rest)
    (read : readSpan caseInsensitive first cursor = .ok (points, after)) :
    readSpan caseInsensitive first (cursor.embed shift tail) =
      .ok (points, after.embed shift tail) := by
  unfold readSpan at read ⊢
  rw [show (cursor.embed shift tail).rest = cursor.rest ++ tail from rfl,
    dashMakesSpan_append closes]
  split at read
  · rename_i isSpan
    obtain ⟨⟨last, next⟩, readEnd, second⟩ := bind_eq_ok_iff.mp read
    rw [if_pos isSpan]
    refine bind_eq_ok_iff.mpr ⟨_, readSpanEnd_embed noDigit readEnd, ?_⟩
    dsimp only at second ⊢
    split at second
    · contradiction
    · rename_i ordered
      cases second
      rw [if_neg ordered]
  · rename_i noSpan
    cases read
    rw [if_neg noSpan]

/-- An entry of a class is read as far as the class goes. -/
theorem readEntry_embed
    [PropertyParser]
    (noDigit : NoDigit tail)
    (closes : ']' ∈ after.rest)
    (read : readEntry caseInsensitive cursor = .ok (points, after)) :
    readEntry caseInsensitive (cursor.embed shift tail) =
      .ok (points, after.embed shift tail) := by
  have present := ne_nil_of_length_lt (readEntry_shorter read)
  unfold readEntry at read ⊢
  rw [peek?_embed present]
  split at read
  · cases read
    rw [advance_one_embed present]
  · obtain ⟨⟨escaped, next⟩, first, second⟩ := bind_eq_ok_iff.mp read
    refine bind_eq_ok_iff.mpr ⟨_, readEscape_embed noDigit first, ?_⟩
    dsimp only at second ⊢
    split at second
    · exact readSpan_embed noDigit ((suffix_of_readSpan second).subset closes) second
    · cases second
      rfl
    · contradiction
  · obtain ⟨⟨char, next⟩, first, second⟩ := bind_eq_ok_iff.mp read
    exact bind_eq_ok_iff.mpr ⟨_, next_embed first,
      readSpan_embed noDigit ((suffix_of_readSpan second).subset closes) second⟩

end Class

end Cursor

end LexicalAutomata
