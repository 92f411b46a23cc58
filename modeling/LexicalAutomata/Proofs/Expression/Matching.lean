import LexicalAutomata.Expression.Basic
import LexicalAutomata.Text.Place
import Mathlib.Logic.Relation

namespace LexicalAutomata

/-!
# What an expression matches

An expression matches the text between two places.  This is said of the tree alone: a
label crosses one character or none, a sequence is crossed piece by piece, one of several
branches is enough, and a quantifier asks for a number of copies, one behind the other.
What a label crosses is left open where nothing depends on it.
-/

/-- A label leads from one place to another. -/
inductive Label.Crosses
    (searchStart : Nat)
    (label : Label) :
    Place →
    Place →
    Prop where
  /-- It reads a character that it contains. -/
  | reading
      {before : Option Char}
      {offset : Nat}
      {char : Char}
      {rest : List Char} :
      char.toNat ∈ label.points →
      Crosses searchStart label ⟨before, offset, char :: rest⟩
        ⟨some char, offset + char.utf8Size, rest⟩
  /-- It reads nothing where one of its boundaries holds. -/
  | holding
      {place : Place}
      {boundary : Boundary} :
      boundary ∈ label.boundaries →
      (place.surroundings searchStart).holds boundary = true →
      Crosses searchStart label place place

variable {σ : Type}

/-- A number of copies of something, one behind the other. -/
def Copies
    (crosses : σ → σ → Prop) :
    Nat →
    σ →
    σ →
    Prop
  | 0, source, target =>
      source = target
  | count + 1, source, target =>
      ∃ middle, crosses source middle ∧ Copies crosses count middle target

/-- As many copies as a quantifier allows. -/
def Quantifier.Repeats
    (quantifier : Quantifier)
    (crosses : σ → σ → Prop)
    (source target : σ) :
    Prop :=
  ∃ count, quantifier.Allows count ∧ Copies crosses count source target

/-- The bounds of a quantifier are not reversed. -/
def Quantifier.Ordered
    (quantifier : Quantifier) :
    Prop :=
  ∀ most ∈ quantifier.max, quantifier.min ≤ most

mutual

/-- No quantifier of a piece is reversed. -/
def Piece.Ordered : Piece → Prop
  | ⟨.label _, quantifier⟩ =>
      quantifier.Ordered
  | ⟨.group branches, quantifier⟩ =>
      quantifier.Ordered ∧ BranchesOrdered branches

/-- No quantifier of a sequence of pieces is reversed. -/
def PiecesOrdered : List Piece → Prop
  | [] =>
      True
  | piece :: rest =>
      piece.Ordered ∧ PiecesOrdered rest

/-- No quantifier of several branches is reversed. -/
def BranchesOrdered : List (List Piece) → Prop
  | [] =>
      True
  | pieces :: rest =>
      PiecesOrdered pieces ∧ BranchesOrdered rest

end

mutual

/-- A piece leads from one point to another. -/
def Piece.Matches
    (crossing : Label → σ → σ → Prop) :
    Piece →
    σ →
    σ →
    Prop
  | ⟨.label label, quantifier⟩ =>
      quantifier.Repeats (crossing label)
  | ⟨.group branches, quantifier⟩ =>
      quantifier.Repeats (BranchesMatch crossing branches)

/-- A sequence of pieces leads from one point to another. -/
def PiecesMatch
    (crossing : Label → σ → σ → Prop) :
    List Piece →
    σ →
    σ →
    Prop
  | [], source, target =>
      source = target
  | piece :: rest, source, target =>
      ∃ middle,
        piece.Matches crossing source middle ∧ PiecesMatch crossing rest middle target

/-- One of several branches leads from one point to another. -/
def BranchesMatch
    (crossing : Label → σ → σ → Prop) :
    List (List Piece) →
    σ →
    σ →
    Prop
  | [], _, _ =>
      False
  | pieces :: rest, source, target =>
      PiecesMatch crossing pieces source target ∨
        BranchesMatch crossing rest source target

end

/-- An expression leads from one point to another. -/
def Expression.Leads
    (expression : Expression)
    (crossing : Label → σ → σ → Prop)
    (source target : σ) :
    Prop :=
  BranchesMatch crossing expression source target

/-- An expression matches the text between two places. -/
def Expression.Matches
    (expression : Expression)
    (searchStart : Nat)
    (source target : Place) :
    Prop :=
  expression.Leads (Label.Crosses searchStart) source target

section Copies

variable {crosses : σ → σ → Prop} {source target : σ}

theorem Copies.append
    {first second : Nat}
    {middle : σ}
    (front : Copies crosses first source middle)
    (back : Copies crosses second middle target) :
    Copies crosses (first + second) source target := by
  induction first generalizing source with
  | zero =>
      cases front
      rw [Nat.zero_add]
      exact back
  | succ first inductionHypothesis =>
      obtain ⟨next, crossed, rest⟩ := front
      rw [Nat.succ_add]
      exact ⟨next, crossed, inductionHypothesis rest⟩

/-- Copies can be split at every number. -/
theorem copies_add_iff
    {first second : Nat} :
    Copies crosses (first + second) source target ↔
      ∃ middle, Copies crosses first source middle ∧ Copies crosses second middle target := by
  constructor
  · intro copies
    induction first generalizing source with
    | zero =>
        rw [Nat.zero_add] at copies
        exact ⟨source, rfl, copies⟩
    | succ first inductionHypothesis =>
        rw [Nat.succ_add] at copies
        obtain ⟨next, crossed, rest⟩ := copies
        obtain ⟨middle, front, back⟩ := inductionHypothesis rest
        exact ⟨middle, ⟨next, crossed, front⟩, back⟩
  · rintro ⟨middle, front, back⟩
    exact front.append back

/-- Copies that may be left out are at most as many copies. -/
theorem copies_or_eq_iff
    {count : Nat} :
    Copies (fun source target => crosses source target ∨ source = target) count source target ↔
      ∃ fewer ≤ count, Copies crosses fewer source target := by
  induction count generalizing source with
  | zero =>
      simp [Copies]
  | succ count inductionHypothesis =>
      constructor
      · rintro ⟨middle, crossed | rfl, rest⟩
        · obtain ⟨fewer, le, copies⟩ := inductionHypothesis.mp rest
          exact ⟨fewer + 1, Nat.succ_le_succ le, middle, crossed, copies⟩
        · obtain ⟨fewer, le, copies⟩ := inductionHypothesis.mp rest
          exact ⟨fewer, Nat.le_succ_of_le le, copies⟩
      · rintro ⟨fewer, le, copies⟩
        cases fewer with
        | zero =>
            exact ⟨source, Or.inr rfl, inductionHypothesis.mpr ⟨0, Nat.zero_le _, copies⟩⟩
        | succ fewer =>
            obtain ⟨middle, crossed, rest⟩ := copies
            exact ⟨middle, Or.inl crossed,
              inductionHypothesis.mpr ⟨fewer, Nat.le_of_succ_le_succ le, rest⟩⟩

/-- Any number of copies. -/
theorem reflTransGen_iff_exists_copies :
    Relation.ReflTransGen crosses source target ↔ ∃ count, Copies crosses count source target := by
  constructor
  · intro path
    induction path using Relation.ReflTransGen.head_induction_on with
    | refl =>
        exact ⟨0, rfl⟩
    | head crossed _ inductionHypothesis =>
        obtain ⟨count, copies⟩ := inductionHypothesis
        exact ⟨count + 1, _, crossed, copies⟩
  · rintro ⟨count, copies⟩
    induction count generalizing source with
    | zero =>
        cases copies
        exact .refl
    | succ count inductionHypothesis =>
        obtain ⟨middle, crossed, rest⟩ := copies
        exact (inductionHypothesis rest).head crossed

/-- What is to be repeated once happens once. -/
theorem Quantifier.repeats_once_iff :
    Quantifier.once.Repeats crosses source target ↔ crosses source target := by
  constructor
  · rintro ⟨count, ⟨least, most⟩, copies⟩
    have single : count = 1 := by
      have atMost := most 1 rfl
      simp only [Quantifier.once] at least
      omega
    subst single
    obtain ⟨middle, crossed, rfl⟩ := copies
    exact crossed
  · intro crossed
    exact ⟨1, ⟨Nat.le_refl 1, by simp [Quantifier.once]⟩, target, crossed, rfl⟩

end Copies

/-- Only a branch leads anywhere in an expression with a single one. -/
theorem Expression.leads_singleton_iff
    {crossing : Label → σ → σ → Prop}
    {pieces : List Piece}
    {source target : σ} :
    Expression.Leads [pieces] crossing source target ↔
      PiecesMatch crossing pieces source target := by
  simp [Expression.Leads, BranchesMatch]

/-- A single label leads where it crosses. -/
theorem Expression.matches_label_iff
    {label : Label}
    {searchStart : Nat}
    {source target : Place} :
    Expression.Matches [[⟨.label label, .once⟩]] searchStart source target ↔
      label.Crosses searchStart source target := by
  rw [Matches, leads_singleton_iff]
  simp [PiecesMatch, Piece.Matches, Quantifier.repeats_once_iff]

end LexicalAutomata
