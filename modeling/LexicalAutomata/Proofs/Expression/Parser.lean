import LexicalAutomata.Proofs.Expression.Matching
import LexicalAutomata.Proofs.Expression.Steps

namespace LexicalAutomata

/-!
# Quantifiers that are read are in order

A quantifier with reversed bounds is refused, so no expression that has been read has one.
-/

/-- The quantifiers of pieces are in order together if they are apart. -/
theorem piecesOrdered_append
    {first second : List Piece} :
    PiecesOrdered (first ++ second) ↔ PiecesOrdered first ∧ PiecesOrdered second := by
  induction first with
  | nil =>
      simp [PiecesOrdered]
  | cons piece rest inductionHypothesis =>
      rw [List.cons_append, PiecesOrdered, PiecesOrdered, inductionHypothesis, and_assoc]

/-- So are those of branches. -/
theorem branchesOrdered_append
    {first second : List (List Piece)} :
    BranchesOrdered (first ++ second) ↔ BranchesOrdered first ∧ BranchesOrdered second := by
  induction first with
  | nil =>
      simp [BranchesOrdered]
  | cons pieces rest inductionHypothesis =>
      rw [List.cons_append, BranchesOrdered, BranchesOrdered, inductionHypothesis, and_assoc]

/-- No quantifier that has been read at this level is reversed. -/
structure Level.Ordered
    (level : Level) : Prop where
  branches : BranchesOrdered level.branches
  pieces : PiecesOrdered level.pieces

/-- At first, there are no quantifiers. -/
theorem Level.ordered_empty :
    Level.empty.Ordered :=
  ⟨trivial, trivial⟩

/-- A piece in order keeps a level in order. -/
theorem Level.Ordered.push
    {level : Level}
    (ordered : level.Ordered)
    {piece : Piece}
    (pieceOrdered : piece.Ordered) :
    (level.push piece).Ordered where
  branches :=
    ordered.branches
  pieces :=
    piecesOrdered_append.mpr ⟨ordered.pieces, pieceOrdered, trivial⟩

/-- A level in order is closed to branches in order. -/
theorem Level.Ordered.close
    {level : Level}
    (ordered : level.Ordered)
    {cursor : Cursor}
    {expression : Expression}
    (closed : level.close cursor = .ok expression) :
    BranchesOrdered expression := by
  obtain ⟨_, rfl⟩ := Level.close_eq_ok_iff.mp closed
  exact branchesOrdered_append.mpr ⟨ordered.branches, ordered.pieces, trivial⟩

/-- No quantifier that has been read so far is reversed. -/
def ExpressionProgress.Ordered : ExpressionProgress → Prop
  | .inside level outer =>
      level.Ordered ∧ ∀ frame ∈ outer, frame.level.Ordered
  | .complete expression =>
      BranchesOrdered expression

namespace Cursor

/-- Bounds that are closed are in order. -/
theorem ordered_of_closeBounds
    {opening cursor after : Cursor}
    {bounds quantifier : Quantifier}
    (read : closeBounds opening bounds cursor = .ok (quantifier, after)) :
    quantifier.Ordered := by
  obtain ⟨closed, _, second⟩ := bind_eq_ok_iff.mp read
  split at second
  · rename_i unbounded
    cases second
    simp [Quantifier.Ordered, unbounded]
  · rename_i most bounded
    split at second
    · simp [fail, failAt] at second
    · rename_i notReversed
      cases second
      intro bound member
      rw [bounded] at member
      cases member
      exact Nat.le_of_not_lt notReversed

/-- Bounds are in order when the maximum has been read. -/
theorem ordered_of_readMaximum
    {opening cursor after : Cursor}
    {minimum : Nat}
    {quantifier : Quantifier}
    (read : readMaximum opening minimum cursor = .ok (quantifier, after)) :
    quantifier.Ordered := by
  unfold readMaximum at read
  split at read
  · exact ordered_of_closeBounds read
  · obtain ⟨_, _, second⟩ := bind_eq_ok_iff.mp read
    exact ordered_of_closeBounds second

/-- Bounds that are read are in order. -/
theorem ordered_of_readBounds
    {opening after : Cursor}
    {quantifier : Quantifier}
    (read : readBounds opening = .ok (quantifier, after)) :
    quantifier.Ordered := by
  obtain ⟨⟨minimum, next⟩, _, second⟩ := bind_eq_ok_iff.mp read
  dsimp only at second
  split at second
  · exact ordered_of_readMaximum second
  · exact ordered_of_closeBounds second

/-- A quantifier that is read is in order. -/
theorem ordered_of_readQuantifier
    {cursor after : Cursor}
    {quantifier : Quantifier}
    (read : cursor.readQuantifier = .ok (quantifier, after)) :
    quantifier.Ordered := by
  unfold readQuantifier at read
  split at read
  case h_4 =>
    exact ordered_of_readBounds read
  all_goals
    cases read
    simp [Quantifier.Ordered, Quantifier.once]

section Reading

variable {caseInsensitive : Bool} {level : Level} {outer : List GroupFrame}
  {cursor after : Cursor} {progress : ExpressionProgress} {expression : Expression}

/-- Reading on keeps the quantifiers in order. -/
theorem ordered_of_readInExpression
    [PropertyParser]
    (ordered : level.Ordered)
    (outerOrdered : ∀ frame ∈ outer, frame.level.Ordered)
    (read : readInExpression caseInsensitive level outer cursor = .ok (progress, after)) :
    progress.Ordered := by
  cases expressionStep_of_readInExpression read with
  | ended _ closed _ =>
      exact ordered.close closed
  | barred _ closed =>
      exact ⟨⟨ordered.close closed, trivial⟩, outerOrdered⟩
  | opened =>
      exact ⟨Level.ordered_empty, List.forall_mem_cons.mpr ⟨ordered, outerOrdered⟩⟩
  | closed _ closed isOuter quantifierRead =>
      subst isOuter
      obtain ⟨frameOrdered, restOrdered⟩ := List.forall_mem_cons.mp outerOrdered
      exact ⟨frameOrdered.push ⟨ordered_of_readQuantifier quantifierRead, ordered.close closed⟩,
        restOrdered⟩
  | labelled _ _ _ quantifierRead =>
      exact ⟨ordered.push (ordered_of_readQuantifier quantifierRead), outerOrdered⟩

/-- The quantifiers of an expression that is read are in order. -/
theorem ordered_of_readExpression
    [PropertyParser]
    (ordered : level.Ordered)
    (outerOrdered : ∀ frame ∈ outer, frame.level.Ordered)
    (read : readExpression caseInsensitive level outer cursor = .ok expression) :
    BranchesOrdered expression := by
  refine readExpression_induction
    (fun level outer _ => level.Ordered ∧ ∀ frame ∈ outer, frame.level.Ordered)
    BranchesOrdered ?_ ?_ ⟨ordered, outerOrdered⟩ read
  · rintro _ _ _ _ _ _ ⟨ordered, outerOrdered⟩ step
    exact ordered_of_readInExpression ordered outerOrdered step
  · rintro _ _ _ _ _ ⟨ordered, outerOrdered⟩ step
    exact ordered_of_readInExpression ordered outerOrdered step

end Reading

end Cursor

namespace Expression

variable {text : String} {options : Options} {expression : Expression}

/-- No quantifier of an expression that has been read is reversed. -/
theorem ordered_of_parse
    [PropertyParser]
    (parsed : parse text options = .ok expression) :
    BranchesOrdered expression :=
  Cursor.ordered_of_readExpression Level.ordered_empty (by simp) (parse_eq_ok_iff.mp parsed).2

end Expression

end LexicalAutomata
