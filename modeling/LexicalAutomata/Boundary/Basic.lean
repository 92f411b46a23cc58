namespace LexicalAutomata

/-!
# Boundaries

A boundary is a condition on a place in a text that consumes no character.  A
`BoundarySet` collects boundaries, one bit for each: it stands for the
boundaries an edge waits for as well as for those that hold at a place.

`mem_subsets` says which subsets are listed, and `IsRealizableWithin` which of
them can hold at a place at all.
-/

/-- The zero-width conditions, in the order of their bits. -/
inductive Boundary where
  | lineStart
  | lineEnd
  | wordEdge
  | noWordEdge
  | inputStart
  | searchStart
  | lastLineEnd
  | inputEnd
  deriving Repr, DecidableEq

namespace Boundary

/-- Every boundary, in the order of the bits. -/
def all : List Boundary :=
  [.lineStart, .lineEnd, .wordEdge, .noWordEdge,
    .inputStart, .searchStart, .lastLineEnd, .inputEnd]

theorem mem_all
    (boundary : Boundary) :
    boundary ∈ all := by
  cases boundary <;> decide

/-- The number of a boundary's bit. -/
def index : Boundary → Nat
  | .lineStart =>
      0
  | .lineEnd =>
      1
  | .wordEdge =>
      2
  | .noWordEdge =>
      3
  | .inputStart =>
      4
  | .searchStart =>
      5
  | .lastLineEnd =>
      6
  | .inputEnd =>
      7

/-- How a boundary is written in an expression. -/
def symbol : Boundary → String
  | .lineStart =>
      "^"
  | .lineEnd =>
      "$"
  | .wordEdge =>
      "\\b"
  | .noWordEdge =>
      "\\B"
  | .inputStart =>
      "\\A"
  | .searchStart =>
      "\\G"
  | .lastLineEnd =>
      "\\Z"
  | .inputEnd =>
      "\\z"

/-- The boundary with a given symbol. -/
def ofSymbol?
    (symbol : String) :
    Option Boundary :=
  all.find? fun boundary => boundary.symbol == symbol

end Boundary

/-- A set of boundaries, one bit for each. -/
structure BoundarySet where
  bits : BitVec 8
  deriving DecidableEq

namespace BoundarySet

instance : Membership Boundary BoundarySet where
  mem set boundary :=
    set.bits.getLsbD boundary.index = true

/-- Decide membership of a boundary. -/
def contains
    (set : BoundarySet)
    (boundary : Boundary) :
    Bool :=
  set.bits.getLsbD boundary.index

theorem contains_iff
    {set : BoundarySet}
    {boundary : Boundary} :
    set.contains boundary = true ↔ boundary ∈ set :=
  Iff.rfl

instance
    (boundary : Boundary)
    (set : BoundarySet) :
    Decidable (boundary ∈ set) :=
  inferInstanceAs (Decidable (set.bits.getLsbD boundary.index = true))

/-- Sets with the same members are equal. -/
theorem ext
    {left right : BoundarySet}
    (same : ∀ boundary, boundary ∈ left ↔ boundary ∈ right) :
    left = right := by
  obtain ⟨leftBits⟩ := left
  obtain ⟨rightBits⟩ := right
  congr 1
  apply BitVec.eq_of_getLsbD_eq
  intro position below
  have bit :
      ∀ boundary : Boundary,
        leftBits.getLsbD boundary.index = rightBits.getLsbD boundary.index :=
    fun boundary => Bool.eq_iff_iff.mpr (same boundary)
  match position, below with
  | 0, _ =>
      exact bit .lineStart
  | 1, _ =>
      exact bit .lineEnd
  | 2, _ =>
      exact bit .wordEdge
  | 3, _ =>
      exact bit .noWordEdge
  | 4, _ =>
      exact bit .inputStart
  | 5, _ =>
      exact bit .searchStart
  | 6, _ =>
      exact bit .lastLineEnd
  | 7, _ =>
      exact bit .inputEnd

/-- No boundary. -/
def empty : BoundarySet :=
  ⟨0⟩

/-- Every boundary. -/
def full : BoundarySet :=
  ⟨BitVec.allOnes 8⟩

instance : Inhabited BoundarySet :=
  ⟨empty⟩

@[simp] theorem not_mem_empty
    (boundary : Boundary) :
    boundary ∉ empty := by
  cases boundary <;> decide

@[simp] theorem mem_full
    (boundary : Boundary) :
    boundary ∈ full := by
  cases boundary <;> decide

/-- The set of a single boundary. -/
def singleton
    (boundary : Boundary) :
    BoundarySet :=
  ⟨BitVec.twoPow 8 boundary.index⟩

@[simp] theorem mem_singleton
    {boundary other : Boundary} :
    other ∈ singleton boundary ↔ other = boundary := by
  cases boundary <;> cases other <;> decide

/-- The boundaries of either set. -/
def union
    (left right : BoundarySet) :
    BoundarySet :=
  ⟨left.bits ||| right.bits⟩

@[simp] theorem mem_union
    {left right : BoundarySet}
    {boundary : Boundary} :
    boundary ∈ left.union right ↔ boundary ∈ left ∨ boundary ∈ right := by
  show (left.bits ||| right.bits).getLsbD boundary.index = true ↔ _
  rw [BitVec.getLsbD_or, Bool.or_eq_true]
  rfl

/-- The set of the boundaries in a list. -/
def ofList
    (boundaries : List Boundary) :
    BoundarySet :=
  boundaries.foldr (fun boundary set => (singleton boundary).union set) empty

@[simp] theorem mem_ofList
    {boundaries : List Boundary}
    {boundary : Boundary} :
    boundary ∈ ofList boundaries ↔ boundary ∈ boundaries := by
  induction boundaries with
  | nil =>
      simp [ofList]
  | cons head rest inductionHypothesis =>
      have unfolded : ofList (head :: rest) = (singleton head).union (ofList rest) := rfl
      rw [unfolded, mem_union, mem_singleton, inductionHypothesis, List.mem_cons]

/-- The boundaries of both sets. -/
def inter
    (left right : BoundarySet) :
    BoundarySet :=
  ⟨left.bits &&& right.bits⟩

@[simp] theorem mem_inter
    {left right : BoundarySet}
    {boundary : Boundary} :
    boundary ∈ left.inter right ↔ boundary ∈ left ∧ boundary ∈ right := by
  show (left.bits &&& right.bits).getLsbD boundary.index = true ↔ _
  rw [BitVec.getLsbD_and, Bool.and_eq_true]
  rfl

theorem contains_inter
    {left right : BoundarySet}
    {boundary : Boundary} :
    (left.inter right).contains boundary =
      (left.contains boundary && right.contains boundary) :=
  BitVec.getLsbD_and

/-- Whether no boundary is in the set. -/
def isEmpty
    (set : BoundarySet) :
    Bool :=
  set == empty

/-- Whether two sets share a boundary. -/
def meets
    (left right : BoundarySet) :
    Bool :=
  !(left.inter right).isEmpty

theorem isEmpty_iff
    {set : BoundarySet} :
    set.isEmpty = true ↔ ∀ boundary, boundary ∉ set := by
  constructor
  · intro same boundary
    rw [isEmpty, beq_iff_eq] at same
    subst same
    exact not_mem_empty boundary
  · intro none
    rw [isEmpty, beq_iff_eq]
    apply ext
    intro boundary
    simp [none boundary]

theorem meets_iff
    {left right : BoundarySet} :
    left.meets right = true ↔ ∃ boundary, boundary ∈ left ∧ boundary ∈ right := by
  rw [meets, Bool.not_eq_true', ← Bool.not_eq_true, isEmpty_iff]
  simp

/-- The members, in the order of the bits. -/
def toList
    (set : BoundarySet) :
    List Boundary :=
  Boundary.all.filter set.contains

theorem mem_toList
    {set : BoundarySet}
    {boundary : Boundary} :
    boundary ∈ set.toList ↔ boundary ∈ set := by
  simp [toList, Boundary.mem_all, contains_iff]

/-- The symbols of the members, one after the other. -/
def symbols
    (set : BoundarySet) :
    String :=
  String.join (set.toList.map Boundary.symbol)

/-- The set whose bits are the eight lowest ones of a number. -/
def ofNat
    (bits : Nat) :
    BoundarySet :=
  ⟨BitVec.ofNat 8 bits⟩

/-- Whether every boundary of one set is in the other. -/
def isSubset
    (left right : BoundarySet) :
    Bool :=
  left.inter right == left

theorem isSubset_iff
    {left right : BoundarySet} :
    left.isSubset right = true ↔ ∀ boundary, boundary ∈ left → boundary ∈ right := by
  rw [isSubset, beq_iff_eq]
  constructor
  · intro same boundary member
    rw [← same, mem_inter] at member
    exact member.2
  · intro subset
    apply ext
    intro boundary
    rw [mem_inter]
    exact ⟨And.left, fun member => ⟨member, subset boundary member⟩⟩

/-- The non-empty subsets of a set, from the greatest bit pattern to the least. -/
def subsets
    (set : BoundarySet) :
    List BoundarySet :=
  ((List.range set.bits.toNat).reverse.map fun below => ofNat (below + 1)).filter
    fun candidate => candidate.isSubset set

theorem ofNat_toNat
    (set : BoundarySet) :
    ofNat set.bits.toNat = set := by
  simp [ofNat]

/-- The listed subsets are all of them but the empty one. -/
theorem mem_subsets
    {set candidate : BoundarySet} :
    candidate ∈ set.subsets ↔
      candidate ≠ empty ∧ candidate.isSubset set = true := by
  unfold subsets
  simp only [List.mem_filter, List.mem_map, List.mem_reverse, List.mem_range]
  constructor
  · rintro ⟨⟨below, bounded, rfl⟩, subset⟩
    refine ⟨?_, subset⟩
    intro same
    have bits := congrArg (fun set => set.bits.toNat) same
    have small := set.bits.isLt
    have zero : (0 : BitVec 8).toNat = 0 := rfl
    simp only [ofNat, empty, BitVec.toNat_ofNat, zero] at bits
    omega
  · rintro ⟨nonempty, subset⟩
    refine ⟨⟨candidate.bits.toNat - 1, ?_, ?_⟩, subset⟩
    · rw [isSubset, beq_iff_eq] at subset
      have positive : candidate.bits.toNat ≠ 0 := by
        intro zero
        apply nonempty
        rw [← ofNat_toNat candidate, zero]
        rfl
      have le : candidate.bits.toNat ≤ set.bits.toNat := by
        rw [← subset]
        simp only [inter, BitVec.toNat_and]
        exact Nat.and_le_right
      omega
    · have positive : candidate.bits.toNat ≠ 0 := by
        intro zero
        apply nonempty
        rw [← ofNat_toNat candidate, zero]
        rfl
      rw [Nat.sub_add_cancel (by omega)]
      exact ofNat_toNat candidate

/-- Word edges and their absence exclude each other and leave no third case. -/
def wordEdgeDecided
    (set within : BoundarySet) :
    Bool :=
  !(within.contains .wordEdge && within.contains .noWordEdge) ||
    set.contains .wordEdge != set.contains .noWordEdge

/-- Pairs of boundaries of which the first never holds without the second. -/
def implications : List (Boundary × Boundary) :=
  [(.inputEnd, .lastLineEnd), (.inputEnd, .lineEnd),
    (.lastLineEnd, .lineEnd), (.inputStart, .lineStart)]

/--
Whether some place in a text has exactly this set as the part of its holding
boundaries that lies in `within`.
-/
def isRealizableWithin
    (set within : BoundarySet) :
    Bool :=
  set.wordEdgeDecided within &&
    implications.all fun (stronger, weaker) =>
      !set.contains stronger || !within.contains weaker || set.contains weaker

end BoundarySet

end LexicalAutomata
