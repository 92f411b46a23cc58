import LexicalAutomata.Label.Basic

namespace LexicalAutomata

/-!
# Expressions

An expression is a list of alternative branches, a branch a sequence of pieces,
and a piece an atom with the number of times it is repeated.  An atom is a label
or a whole expression in parentheses.
-/

/-- How often something is repeated; without a maximum there is no upper limit. -/
structure Quantifier where
  min : Nat
  max : Option Nat
  deriving Repr, DecidableEq, Inhabited

/-- Exactly once. -/
def Quantifier.once : Quantifier :=
  ⟨1, some 1⟩

/-- Whether a number of repetitions is between the bounds. -/
def Quantifier.Allows
    (quantifier : Quantifier)
    (count : Nat) :
    Prop :=
  quantifier.min ≤ count ∧ ∀ most ∈ quantifier.max, count ≤ most

mutual

/-- What a piece repeats. -/
inductive Atom where
  /-- One crossing of the label. -/
  | label (label : Label)
  /-- Any one of the branches. -/
  | group (branches : List (List Piece))

/-- A repeated atom. -/
structure Piece where
  atom : Atom
  quantifier : Quantifier

end

/-- Pieces in sequence. -/
abbrev Branch :=
  List Piece

/-- Alternative branches. -/
abbrev Expression :=
  List Branch

namespace Piece

/-- Whether a piece is a label that is not repeated. -/
def isPlain
    (piece : Piece) :
    Bool :=
  match piece.atom with
  | .label _ =>
      piece.quantifier == .once
  | .group _ =>
      false

/-- Whether a piece always reads exactly one character. -/
def isSingleChar
    (piece : Piece) :
    Bool :=
  match piece.atom with
  | .label label =>
      piece.quantifier == .once && !label.points.isEmpty && label.boundaries.isEmpty
  | .group _ =>
      false

end Piece

/-- What stands where in an expression: one line of its outline. -/
structure OutlineEntry where
  /-- The number of groups around the piece. -/
  depth : Nat
  /-- The number of branches in front of the one that holds the piece. -/
  branch : Nat
  /-- The label of the piece, unless it is a group. -/
  label : Option Label
  quantifier : Quantifier

mutual

/-- The entry of a piece, and those of the pieces inside it. -/
def Piece.outline
    (depth branch : Nat) :
    Piece → List OutlineEntry
  | ⟨.label label, quantifier⟩ =>
      [⟨depth, branch, some label, quantifier⟩]
  | ⟨.group branches, quantifier⟩ =>
      ⟨depth, branch, none, quantifier⟩ :: outlineBranches (depth + 1) 0 branches

/-- The entries of the pieces of a branch. -/
def outlinePieces
    (depth branch : Nat) :
    List Piece → List OutlineEntry
  | [] =>
      []
  | piece :: rest =>
      piece.outline depth branch ++ outlinePieces depth branch rest

/-- The entries of the branches from number `branch` on. -/
def outlineBranches
    (depth branch : Nat) :
    List (List Piece) → List OutlineEntry
  | [] =>
      []
  | pieces :: rest =>
      outlinePieces depth branch pieces ++ outlineBranches depth (branch + 1) rest

end

namespace Expression

/-- Whether an expression is a plain sequence of labels. -/
def isLiteral : Expression → Bool
  | [branch] =>
      branch.all Piece.isPlain
  | _ =>
      false

/-- The number of single characters that close the only branch. -/
def enderLength : Expression → Nat
  | [branch] =>
      (branch.reverse.takeWhile Piece.isSingleChar).length
  | _ =>
      0

/-- All pieces in the order of their text, each group in front of its own pieces. -/
def outline
    (expression : Expression) :
    List OutlineEntry :=
  outlineBranches 0 0 expression

end Expression

end LexicalAutomata
