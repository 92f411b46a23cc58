import LexicalAutomata.Proofs.CodePointSet.Canonical
import LexicalAutomata.Proofs.Expression.Parser
import LexicalAutomata.Proofs.Text.Place
import Mathlib.Data.List.TakeWhile

namespace LexicalAutomata

/-!
# The closing characters of an expression

The ender of an expression are the pieces at the end of its only branch that always read
one character, as many as there are.  A match of the branch is a match of the pieces in
front of the ender, followed by as many characters as the ender has pieces.
-/

/-- A piece reads one character of its label, and is not crossed otherwise. -/
def Piece.ReadsOne
    (piece : Piece) :
    Prop :=
  ∃ label,
    piece = ⟨.label label, .once⟩ ∧
      (∃ codePoint, codePoint ∈ label.points) ∧ ∀ boundary, boundary ∉ label.boundaries

/-- An expression is one branch that ends with just so many pieces that read one character. -/
def Expression.Closes
    (expression : Expression)
    (count : Nat) :
    Prop :=
  ∃ front closing : Branch,
    expression = [front ++ closing] ∧
      closing.length = count ∧
        (∀ piece ∈ closing, piece.ReadsOne) ∧ ∀ piece ∈ front.getLast?, ¬ piece.ReadsOne

/-- Only the empty set has no intervals. -/
theorem CodePointSet.isEmpty_eq_false_iff
    {set : CodePointSet} :
    set.isEmpty = false ↔ ∃ codePoint, codePoint ∈ set := by
  unfold isEmpty
  rw [List.isEmpty_eq_false_iff_exists_mem]
  constructor
  · rintro ⟨interval, member⟩
    exact ⟨interval.first, interval, member, Nat.le_refl _, set.spaced.first_lt_limit member⟩
  · rintro ⟨_, interval, member, _⟩
    exact ⟨interval, member⟩

/-- The pieces that always read one character are found. -/
theorem Piece.isSingleChar_iff
    {piece : Piece} :
    piece.isSingleChar = true ↔ piece.ReadsOne := by
  obtain ⟨label | branches, quantifier⟩ := piece
  · simp only [isSingleChar, Bool.and_eq_true, beq_iff_eq, Bool.not_eq_true',
      CodePointSet.isEmpty_eq_false_iff, BoundarySet.isEmpty_iff]
    constructor
    · rintro ⟨⟨rfl, reads⟩, free⟩
      exact ⟨label, rfl, reads, free⟩
    · rintro ⟨_, same, reads, free⟩
      cases same
      exact ⟨⟨rfl, reads⟩, free⟩
  · refine iff_of_false (by simp [isSingleChar]) ?_
    rintro ⟨_, same, _⟩
    cases same

/-- The ender is counted from the end of the only branch. -/
theorem Expression.closes_iff
    {expression : Expression}
    {count : Nat} :
    expression.Closes count ↔ expression.length = 1 ∧ expression.enderLength = count := by
  constructor
  · rintro ⟨front, closing, rfl, rfl, single, stops⟩
    refine ⟨rfl, ?_⟩
    have counted : (closing.reverse ++ front.reverse).takeWhile Piece.isSingleChar =
        closing.reverse := by
      rw [List.takeWhile_append_of_pos, List.append_right_eq_self]
      · rw [← List.head?_reverse] at stops
        cases ahead : front.reverse with
        | nil =>
            rfl
        | cons piece rest =>
            rw [ahead] at stops
            have notSingle := stops piece rfl
            rw [← Piece.isSingleChar_iff] at notSingle
            exact List.takeWhile_cons_of_neg notSingle
      · intro piece member
        exact Piece.isSingleChar_iff.mpr (single piece (List.mem_reverse.mp member))
    simp only [enderLength, List.reverse_append, counted, List.length_reverse]
  · rintro ⟨only, rfl⟩
    obtain ⟨branch, rfl⟩ := List.length_eq_one_iff.mp only
    refine ⟨(branch.reverse.dropWhile Piece.isSingleChar).reverse,
      (branch.reverse.takeWhile Piece.isSingleChar).reverse, ?_, ?_, ?_, ?_⟩
    · rw [← List.reverse_append, List.takeWhile_append_dropWhile, List.reverse_reverse]
    · rw [List.length_reverse]
      rfl
    · intro piece member
      exact Piece.isSingleChar_iff.mp (List.mem_takeWhile_imp (List.mem_reverse.mp member))
    · intro piece member
      rw [List.getLast?_reverse] at member
      have notSingle := List.head?_dropWhile_not Piece.isSingleChar branch.reverse
      rw [member] at notSingle
      rw [← Piece.isSingleChar_iff, Bool.not_eq_true]
      exact notSingle

section Matches

variable {σ : Type} {crossing : Label → σ → σ → Prop} {front closing : List Piece}

/-- Pieces in sequence lead over some point between any two parts of the sequence. -/
theorem piecesMatch_append_iff
    {source target : σ} :
    PiecesMatch crossing (front ++ closing) source target ↔
      ∃ middle,
        PiecesMatch crossing front source middle ∧ PiecesMatch crossing closing middle target := by
  induction front generalizing source with
  | nil =>
      simp [PiecesMatch]
  | cons piece rest inductionHypothesis =>
      simp only [List.cons_append, PiecesMatch, inductionHypothesis]
      constructor
      · rintro ⟨next, crossed, middle, before, behind⟩
        exact ⟨middle, ⟨next, crossed, before⟩, behind⟩
      · rintro ⟨middle, ⟨next, crossed, before⟩, behind⟩
        exact ⟨next, crossed, middle, before, behind⟩

variable {searchStart : Nat} {source target : Place}

theorem Piece.ReadsOne.eq_advance
    {piece : Piece}
    (single : piece.ReadsOne)
    (matched : piece.Matches (Label.Crosses searchStart) source target) :
    0 < source.rest.length ∧ target = source.advance 1 := by
  obtain ⟨label, rfl, _, free⟩ := single
  rw [Piece.Matches, Quantifier.repeats_once_iff] at matched
  cases matched with
  | reading _ =>
      exact ⟨Nat.succ_pos _, rfl⟩
  | holding waits _ =>
      exact (free _ waits).elim

/-- The pieces of an ender read one character each. -/
theorem eq_advance_of_closing
    (single : ∀ piece ∈ closing, piece.ReadsOne)
    (matched : PiecesMatch (Label.Crosses searchStart) closing source target) :
    closing.length ≤ source.rest.length ∧ target = source.advance closing.length := by
  induction closing generalizing source with
  | nil =>
      cases matched
      exact ⟨Nat.zero_le _, rfl⟩
  | cons piece rest inductionHypothesis =>
      obtain ⟨middle, crossed, behind⟩ := matched
      obtain ⟨some, rfl⟩ := (single piece List.mem_cons_self).eq_advance crossed
      obtain ⟨enough, rfl⟩ :=
        inductionHypothesis (fun other member => single other (List.mem_cons_of_mem _ member))
          behind
      rw [Place.rest_advance, List.length_drop] at enough
      rw [List.length_cons, Place.advance_advance, Nat.add_comm 1]
      exact ⟨by omega, rfl⟩

end Matches

/-- An expression that has been read has a branch. -/
theorem Cursor.ne_nil_of_readExpression
    [PropertyParser]
    {caseInsensitive : Bool}
    {level : Level}
    {outer : List GroupFrame}
    {cursor : Cursor}
    {expression : Expression}
    (read : readExpression caseInsensitive level outer cursor = .ok expression) :
    expression ≠ [] := by
  refine readExpression_induction (fun _ _ _ => True) (· ≠ []) (fun _ _ => trivial) ?_ trivial
    read
  intro level outer cursor expression after _ step
  cases expressionStep_of_readInExpression step with
  | ended _ closed _ =>
      obtain ⟨_, rfl⟩ := Level.close_eq_ok_iff.mp closed
      exact List.append_ne_nil_of_right_ne_nil _ (List.cons_ne_nil _ _)

theorem Expression.ne_nil_of_parse
    [PropertyParser]
    {text : String}
    {options : Options}
    {expression : Expression}
    (parsed : Expression.parse text options = .ok expression) :
    expression ≠ [] :=
  Cursor.ne_nil_of_readExpression (Expression.parse_eq_ok_iff.mp parsed).2

end LexicalAutomata
