import LexicalAutomata.Proofs.Expression.Matching

namespace LexicalAutomata

/-!
# Expressions of the same shape

Two expressions correspond when they have the same branches, groups and quantifiers, and the
labels that stand in the same place are related.  Where every label lies within the other
one, whatever the first expression matches is matched by the second.
-/

/-- Everything that a label has is in another one. -/
structure Label.Within
    (label wider : Label) : Prop where
  points : ∀ codePoint ∈ label.points, codePoint ∈ wider.points
  boundaries : ∀ boundary ∈ label.boundaries, boundary ∈ wider.boundaries

/-- A label is within itself. -/
theorem Label.Within.refl
    (label : Label) :
    label.Within label :=
  ⟨fun _ member => member, fun _ member => member⟩

/-- A wider label crosses whatever the label crosses. -/
theorem Label.Within.crosses
    {label wider : Label}
    (within : label.Within wider)
    {searchStart : Nat}
    {source target : Place}
    (crossed : label.Crosses searchStart source target) :
    wider.Crosses searchStart source target := by
  cases crossed with
  | reading contained =>
      exact .reading (within.points _ contained)
  | holding contained holds =>
      exact .holding (within.boundaries _ contained) holds

variable {related : Label → Label → Prop}

mutual

/-- Two pieces have the same shape, and related labels. -/
def Piece.Corresponds
    (related : Label → Label → Prop) :
    Piece →
    Piece →
    Prop
  | ⟨.label label, quantifier⟩, ⟨.label other, otherQuantifier⟩ =>
      related label other ∧ quantifier = otherQuantifier
  | ⟨.group branches, quantifier⟩, ⟨.group others, otherQuantifier⟩ =>
      BranchesCorrespond related branches others ∧ quantifier = otherQuantifier
  | _, _ =>
      False

/-- Two sequences have corresponding pieces, one by one. -/
def PiecesCorrespond
    (related : Label → Label → Prop) :
    List Piece →
    List Piece →
    Prop
  | [], [] =>
      True
  | piece :: rest, other :: others =>
      piece.Corresponds related other ∧ PiecesCorrespond related rest others
  | _, _ =>
      False

/-- Two lists have corresponding branches, one by one. -/
def BranchesCorrespond
    (related : Label → Label → Prop) :
    List (List Piece) →
    List (List Piece) →
    Prop
  | [], [] =>
      True
  | pieces :: rest, other :: others =>
      PiecesCorrespond related pieces other ∧ BranchesCorrespond related rest others
  | _, _ =>
      False

end

/-- Two expressions have the same shape, and related labels. -/
def Expression.Corresponds
    (expression : Expression)
    (related : Label → Label → Prop)
    (other : Expression) :
    Prop :=
  BranchesCorrespond related expression other

/-- Pieces correspond one after the other. -/
theorem piecesCorrespond_append
    {first second others more : List Piece}
    (front : PiecesCorrespond related first others)
    (back : PiecesCorrespond related second more) :
    PiecesCorrespond related (first ++ second) (others ++ more) := by
  induction first generalizing others with
  | nil =>
      cases others with
      | nil =>
          exact back
      | cons other others =>
          exact front.elim
  | cons piece rest inductionHypothesis =>
      cases others with
      | nil =>
          exact front.elim
      | cons other others =>
          exact ⟨front.1, inductionHypothesis front.2⟩

/-- So do branches. -/
theorem branchesCorrespond_append
    {first second others more : List (List Piece)}
    (front : BranchesCorrespond related first others)
    (back : BranchesCorrespond related second more) :
    BranchesCorrespond related (first ++ second) (others ++ more) := by
  induction first generalizing others with
  | nil =>
      cases others with
      | nil =>
          exact back
      | cons other others =>
          exact front.elim
  | cons pieces rest inductionHypothesis =>
      cases others with
      | nil =>
          exact front.elim
      | cons other others =>
          exact ⟨front.1, inductionHypothesis front.2⟩

mutual

/-- Pieces correspond by any relation that follows from theirs. -/
theorem Piece.Corresponds.mono
    {weaker : Label → Label → Prop}
    (weakens : ∀ label other, related label other → weaker label other) :
    {piece other : Piece} →
    piece.Corresponds related other →
    piece.Corresponds weaker other
  | ⟨.label _, _⟩, ⟨.label _, _⟩, ⟨labels, quantifiers⟩ =>
      ⟨weakens _ _ labels, quantifiers⟩
  | ⟨.group _, _⟩, ⟨.group _, _⟩, ⟨branches, quantifiers⟩ =>
      ⟨BranchesCorrespond.mono weakens branches, quantifiers⟩

/-- Pieces correspond under a weaker relation as well. -/
theorem PiecesCorrespond.mono
    {weaker : Label → Label → Prop}
    (weakens : ∀ label other, related label other → weaker label other) :
    {pieces others : List Piece} →
    PiecesCorrespond related pieces others →
    PiecesCorrespond weaker pieces others
  | [], [], _ =>
      trivial
  | _ :: _, _ :: _, ⟨first, rest⟩ =>
      ⟨first.mono weakens, PiecesCorrespond.mono weakens rest⟩

/-- So do branches under a weaker relation. -/
theorem BranchesCorrespond.mono
    {weaker : Label → Label → Prop}
    (weakens : ∀ label other, related label other → weaker label other) :
    {branches others : List (List Piece)} →
    BranchesCorrespond related branches others →
    BranchesCorrespond weaker branches others
  | [], [], _ =>
      trivial
  | _ :: _, _ :: _, ⟨first, rest⟩ =>
      ⟨first.mono weakens, BranchesCorrespond.mono weakens rest⟩

end

section Matches

variable {σ : Type} {source target : σ}

/-- What is crossed several times is crossed in a wider way as well. -/
theorem Copies.mono
    {crosses wider : σ → σ → Prop}
    (widens : ∀ source target, crosses source target → wider source target)
    {count : Nat}
    (copies : Copies crosses count source target) :
    Copies wider count source target := by
  induction count generalizing source with
  | zero =>
      exact copies
  | succ count inductionHypothesis =>
      obtain ⟨middle, crossed, rest⟩ := copies
      exact ⟨middle, widens _ _ crossed, inductionHypothesis rest⟩

/-- What is repeated is repeated in a wider way as well. -/
theorem Quantifier.Repeats.mono
    {crosses wider : σ → σ → Prop}
    (widens : ∀ source target, crosses source target → wider source target)
    {quantifier : Quantifier}
    (repeats : quantifier.Repeats crosses source target) :
    quantifier.Repeats wider source target := by
  obtain ⟨count, allowed, copies⟩ := repeats
  exact ⟨count, allowed, copies.mono widens⟩

variable {crossing : Label → σ → σ → Prop}

mutual

/-- A piece leads wherever one leads whose label crosses less. -/
theorem Piece.Corresponds.matches
    (widens :
      ∀ label wider,
        related label wider →
          ∀ source target, crossing label source target → crossing wider source target)
    {piece wider : Piece}
    (corresponds : piece.Corresponds related wider)
    {source target : σ}
    (leads : piece.Matches crossing source target) :
    wider.Matches crossing source target := by
  match piece, wider with
  | ⟨.label label, quantifier⟩, ⟨.label other, _⟩ =>
      obtain ⟨labels, rfl⟩ := corresponds
      exact leads.mono (widens label other labels)
  | ⟨.group branches, quantifier⟩, ⟨.group others, _⟩ =>
      obtain ⟨correspond, rfl⟩ := corresponds
      exact leads.mono fun _ _ => BranchesCorrespond.matches widens correspond

/-- Pieces with wider labels match what the former ones match. -/
theorem PiecesCorrespond.matches
    (widens :
      ∀ label wider,
        related label wider →
          ∀ source target, crossing label source target → crossing wider source target)
    {pieces others : List Piece}
    (correspond : PiecesCorrespond related pieces others)
    {source target : σ}
    (leads : PiecesMatch crossing pieces source target) :
    PiecesMatch crossing others source target := by
  match pieces, others with
  | [], [] =>
      exact leads
  | piece :: rest, other :: others =>
      obtain ⟨middle, first, behind⟩ := leads
      exact ⟨middle, correspond.1.matches widens first, correspond.2.matches widens behind⟩

/-- So do branches with wider labels. -/
theorem BranchesCorrespond.matches
    (widens :
      ∀ label wider,
        related label wider →
          ∀ source target, crossing label source target → crossing wider source target)
    {branches others : List (List Piece)}
    (correspond : BranchesCorrespond related branches others)
    {source target : σ}
    (leads : BranchesMatch crossing branches source target) :
    BranchesMatch crossing others source target := by
  match branches, others with
  | pieces :: rest, other :: others =>
      exact leads.imp (correspond.1.matches widens) (correspond.2.matches widens)

end

end Matches

/-- Whatever an expression matches is matched by one with wider labels. -/
theorem Expression.Corresponds.matches
    {expression wider : Expression}
    (corresponds : expression.Corresponds Label.Within wider)
    {searchStart : Nat}
    {source target : Place}
    (matched : expression.Matches searchStart source target) :
    wider.Matches searchStart source target :=
  BranchesCorrespond.matches (fun _ _ within _ _ => within.crosses) corresponds matched

end LexicalAutomata
