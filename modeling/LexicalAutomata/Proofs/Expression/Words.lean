import LexicalAutomata.Proofs.CodePointSet.Canonical
import LexicalAutomata.Proofs.Lexer.Ambiguity

namespace LexicalAutomata

/-!
# Words that single branches read

Of a pattern whose expression is one branch of labels, a word is accepted when the pieces
read it one behind the other: a label that is not repeated reads one code point, and a
label with a star reads any run of its code points.
-/

variable {τ : Type} {label : Label} {word rest : List Nat}

/-- Copies of a label read as many code points. -/
theorem copies_reads_iff
    {count : Nat} :
    Copies label.Reads count word rest ↔
      ∃ front : List Nat,
        front.length = count ∧ (∀ codePoint ∈ front, codePoint ∈ label.points) ∧
          word = front ++ rest := by
  induction count generalizing word with
  | zero =>
      simp [Copies]
  | succ count inductionHypothesis =>
      constructor
      · rintro ⟨_, ⟨codePoint, contained, rfl⟩, copies⟩
        obtain ⟨front, length, all, rfl⟩ := inductionHypothesis.mp copies
        exact ⟨codePoint :: front, by simp [length], List.forall_mem_cons.mpr ⟨contained, all⟩, rfl⟩
      · rintro ⟨front, length, all, rfl⟩
        obtain ⟨codePoint, others, rfl⟩ := List.exists_cons_of_length_eq_add_one length
        obtain ⟨contained, othersContained⟩ := List.forall_mem_cons.mp all
        exact ⟨others ++ rest, ⟨codePoint, contained, rfl⟩,
          inductionHypothesis.mpr ⟨others, by simpa using length, othersContained, rfl⟩⟩

/-- A label that is not repeated reads the first code point. -/
theorem Piece.matches_once_iff :
    Piece.Matches Label.Reads ⟨.label label, .once⟩ word rest ↔
      ∃ codePoint ∈ label.points, word = codePoint :: rest := by
  rw [Piece.Matches, Quantifier.repeats_once_iff]
  rfl

/-- A label with a star reads a run of its code points. -/
theorem Piece.matches_star_iff :
    Piece.Matches Label.Reads ⟨.label label, ⟨0, none⟩⟩ word rest ↔
      ∃ front : List Nat,
        (∀ codePoint ∈ front, codePoint ∈ label.points) ∧ word = front ++ rest := by
  rw [Piece.Matches]
  constructor
  · rintro ⟨count, _, copies⟩
    obtain ⟨front, _, all, split⟩ := copies_reads_iff.mp copies
    exact ⟨front, all, split⟩
  · rintro ⟨front, all, split⟩
    exact ⟨front.length, ⟨Nat.zero_le _, by simp⟩, copies_reads_iff.mpr ⟨front, rfl, all, split⟩⟩

/-- The label of a dot has every code point. -/
theorem Label.mem_anyChar_iff
    {codePoint : Nat} :
    codePoint ∈ Label.anyChar.points ↔ codePoint < codePointLimit := by
  simp [anyChar, ofPoints]

/-- A literal label has the character, and its case counterpart if case does not matter. -/
theorem Cursor.mem_literalLabel_iff
    {caseInsensitive : Bool}
    {char : Char}
    {codePoint : Nat} :
    codePoint ∈ (literalLabel caseInsensitive char).points ↔
      codePoint = char.toNat ∨
        (caseInsensitive = true ∧
          ∃ counterpart, Unicode.caseCounterpart? char = some counterpart ∧
            codePoint = counterpart.toNat) := by
  have bounded := toNat_lt_codePointLimit char
  have own :
      (char.toNat ≤ codePoint ∧ codePoint < char.toNat + 1 ∧ codePoint < codePointLimit) ↔
        codePoint = char.toNat := by
    omega
  have single :
      ∀ other : Char,
        char.toNat ≤ other.toNat ∧ other.toNat < char.toNat + 1 ↔ other = char := by
    intro other
    rw [← Option.some_inj, ← charOfCodePoint?_toNat char, eq_comm (a := some other),
      charOfCodePoint?_eq_some_iff]
    omega
  cases caseInsensitive with
  | false =>
      simp only [literalLabel, spanOf, Label.ofPoints, CodePointSet.span, Bool.false_eq_true,
        if_false, CodePointSet.mem_addSpan, CodePointSet.not_mem_empty, or_false, own, false_and]
  | true =>
      simp only [literalLabel, spanOf, Label.ofPoints, if_true, CodePointSet.mem_addSpanFolded,
        CodePointSet.not_mem_empty, or_false, own, true_and, ← and_assoc, single]
      simp only [and_assoc, exists_and_left, exists_eq_left]

namespace Pattern

variable {pattern : Pattern τ} {pieces : Branch}

/-- A pattern of a single branch accepts the words that the pieces of the branch read. -/
theorem accepts_iff_of_parse
    [PropertyParser]
    (parsed : Expression.parse pattern.text pattern.options = .ok [pieces])
    (word : List Nat) :
    pattern.Accepts word ↔ PiecesMatch Label.Reads pieces word [] := by
  have leads :
      pattern.Accepts word ↔ Expression.Leads [pieces] Label.Reads word [] := by
    simp [Accepts, Leads, parsed]
  rw [leads, Expression.Leads, BranchesMatch, BranchesMatch, or_false]

/-- A pattern of a single branch waits for no boundary if none of its pieces does. -/
theorem boundaryFree_of_parse
    [PropertyParser]
    (parsed : Expression.parse pattern.text pattern.options = .ok [pieces])
    (free : ∀ piece ∈ pieces, piece.Bears fun label => label.boundaries = .empty) :
    pattern.BoundaryFree := by
  have piecesFree : PiecesBear (fun label => label.boundaries = .empty) pieces := by
    clear parsed
    induction pieces with
    | nil =>
        trivial
    | cons piece rest inductionHypothesis =>
        obtain ⟨headFree, restFree⟩ := List.forall_mem_cons.mp free
        exact ⟨headFree, inductionHypothesis restFree⟩
  rw [BoundaryFree, bears_iff, parsed]
  exact ⟨piecesFree, trivial⟩

/-- A pattern of a single branch is raised by one if all pieces are plain. -/
theorem totalPriority_of_parse
    [PropertyParser]
    (parsed : Expression.parse pattern.text pattern.options = .ok [pieces]) :
    pattern.totalPriority =
      if pieces.all Piece.isPlain then pattern.priority + 1 else pattern.priority := by
  rw [totalPriority, parsed]
  rfl

end Pattern

end LexicalAutomata
