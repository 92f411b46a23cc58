import LexicalAutomata.CodePointSet.Folding
import Mathlib.Data.Set.Card
import Mathlib.Order.Interval.Finset.Nat

namespace LexicalAutomata

/-!
# One representation for each set of code points

A gap in front of every interval but the first makes the intervals of a set the
maximal ones, so that two sets with the same members are equal and the sum of
the lengths is the number of members.
-/

/-- In a spaced list every interval ends before the later ones begin, with a gap between. -/
theorem Spaced.pairwise
    {bound : Nat}
    {intervals : List Interval}
    (spaced : Spaced bound intervals) :
    intervals.Pairwise (fun earlier later => earlier.limit < later.first) := by
  induction intervals generalizing bound with
  | nil =>
      exact .nil
  | cons head rest inductionHypothesis =>
      obtain ⟨_, _, _, tail⟩ := spaced
      exact .cons (fun _ member => tail.bound_le member) (inductionHypothesis tail)

namespace CodePointSet

/-- What the rest of a spaced list covers is what the whole list covers behind its head. -/
theorem covers_rest_iff
    {bound codePoint : Nat}
    {head : Interval}
    {rest : List Interval}
    (spaced : Spaced bound (head :: rest)) :
    Covers rest codePoint ↔ Covers (head :: rest) codePoint ∧ head.limit ≤ codePoint := by
  obtain ⟨_, _, _, tail⟩ := spaced
  rw [covers_cons]
  constructor
  · intro covered
    refine ⟨Or.inr covered, ?_⟩
    by_contra below
    exact not_covers_of_lt tail (by omega) covered
  · rintro ⟨⟨_, below⟩ | covered, behind⟩
    · omega
    · exact covered

/-- The head of a spaced list begins at the first code point that the list covers. -/
theorem head_first_le
    {bound codePoint : Nat}
    {head : Interval}
    {rest : List Interval}
    (spaced : Spaced bound (head :: rest))
    (covered : Covers (head :: rest) codePoint) :
    head.first ≤ codePoint := by
  obtain ⟨_, nonempty, _, tail⟩ := spaced
  by_contra below
  rcases covers_cons .. |>.mp covered with ⟨atLeast, _⟩ | later
  · omega
  · exact not_covers_of_lt tail (by omega) later

/-- The head of a spaced list goes on to the first code point behind it that is not covered. -/
theorem not_covers_head_limit
    {bound : Nat}
    {head : Interval}
    {rest : List Interval}
    (spaced : Spaced bound (head :: rest)) :
    ¬ Covers (head :: rest) head.limit := by
  obtain ⟨_, _, _, tail⟩ := spaced
  rw [covers_cons]
  rintro (⟨_, below⟩ | later)
  · exact Nat.lt_irrefl _ below
  · exact not_covers_of_lt tail (Nat.lt_succ_self _) later

/-- The head's own code points are covered. -/
theorem covers_head
    {codePoint : Nat}
    {head : Interval}
    {rest : List Interval}
    (atLeast : head.first ≤ codePoint)
    (below : codePoint < head.limit) :
    Covers (head :: rest) codePoint :=
  (covers_cons ..).mpr (Or.inl ⟨atLeast, below⟩)

/-- Where two spaced lists cover the same code points, neither head ends before the other. -/
theorem head_limit_le
    {bound : Nat}
    {head otherHead : Interval}
    {rest otherRest : List Interval}
    (spaced : Spaced bound (head :: rest))
    (same :
      ∀ codePoint,
        Covers (head :: rest) codePoint ↔ Covers (otherHead :: otherRest) codePoint)
    (sameFirst : head.first = otherHead.first) :
    otherHead.limit ≤ head.limit := by
  by_contra shorter
  have nonempty := spaced.2.1
  exact not_covers_head_limit spaced
    ((same head.limit).mpr (covers_head (by omega) (by omega)))

/-- Spaced lists that cover the same code points are equal. -/
theorem intervals_unique
    {bound otherBound : Nat}
    {intervals others : List Interval}
    (spaced : Spaced bound intervals)
    (otherSpaced : Spaced otherBound others)
    (same : ∀ codePoint, Covers intervals codePoint ↔ Covers others codePoint) :
    intervals = others := by
  induction intervals generalizing bound otherBound others with
  | nil =>
      cases others with
      | nil =>
          rfl
      | cons otherHead otherRest =>
          have covered : Covers (otherHead :: otherRest) otherHead.first :=
            covers_head (Nat.le_refl _) otherSpaced.2.1
          exact absurd ((same _).mpr covered) (covers_nil _)
  | cons head rest inductionHypothesis =>
      cases others with
      | nil =>
          have covered : Covers (head :: rest) head.first :=
            covers_head (Nat.le_refl _) spaced.2.1
          exact absurd ((same _).mp covered) (covers_nil _)
      | cons otherHead otherRest =>
          have sameFirst : head.first = otherHead.first :=
            Nat.le_antisymm
              (head_first_le spaced
                ((same _).mpr (covers_head (Nat.le_refl _) otherSpaced.2.1)))
              (head_first_le otherSpaced
                ((same _).mp (covers_head (Nat.le_refl _) spaced.2.1)))
          have sameLimit : head.limit = otherHead.limit :=
            Nat.le_antisymm
              (head_limit_le otherSpaced (fun codePoint => (same codePoint).symm) sameFirst.symm)
              (head_limit_le spaced same sameFirst)
          have sameHead : head = otherHead := by
            cases head
            cases otherHead
            simp_all
          subst sameHead
          have sameRest :
              ∀ codePoint, Covers rest codePoint ↔ Covers otherRest codePoint := by
            intro codePoint
            rw [covers_rest_iff spaced, covers_rest_iff otherSpaced, same codePoint]
          rw [inductionHypothesis spaced.2.2.2 otherSpaced.2.2.2 sameRest]

/-- Sets with the same members are equal. -/
@[ext] theorem ext
    {left right : CodePointSet}
    (same : ∀ codePoint, codePoint ∈ left ↔ codePoint ∈ right) :
    left = right := by
  have sameIntervals := intervals_unique left.spaced right.spaced same
  cases left
  cases right
  congr

/-- The full set has every code point of the domain. -/
@[simp] theorem mem_full
    {codePoint : Nat} :
    codePoint ∈ full ↔ codePoint < codePointLimit := by
  simp [full, span]

/-- The complement of the complement is the set itself. -/
@[simp] theorem compl_compl
    (set : CodePointSet) :
    set.compl.compl = set := by
  ext codePoint
  have bounded : codePoint ∈ set → codePoint < codePointLimit := lt_codePointLimit
  simp only [mem_compl]
  tauto

/-- The lengths of spaced intervals add up to the number of code points they cover. -/
theorem encard_covers
    {bound : Nat}
    {intervals : List Interval}
    (spaced : Spaced bound intervals) :
    {codePoint | Covers intervals codePoint}.encard =
      (intervals.foldr (fun interval size => interval.size + size) 0 : Nat) := by
  induction intervals generalizing bound with
  | nil =>
      simp
  | cons head rest inductionHypothesis =>
      obtain ⟨_, _, _, tail⟩ := spaced
      have split :
          {codePoint | Covers (head :: rest) codePoint} =
            Set.Ico head.first head.limit ∪ {codePoint | Covers rest codePoint} := by
        ext codePoint
        simp [Interval.Contains]
      have apart :
          Disjoint (Set.Ico head.first head.limit) {codePoint | Covers rest codePoint} := by
        rw [Set.disjoint_left]
        rintro codePoint ⟨_, below⟩
        exact not_covers_of_lt tail (by omega)
      have headSize : (Set.Ico head.first head.limit).encard = (head.size : Nat) := by
        rw [← Finset.coe_Ico, Set.encard_coe_eq_coe_finsetCard, Nat.card_Ico]
        rfl
      rw [split, Set.encard_union_eq apart, headSize, inductionHypothesis tail, List.foldr_cons,
        Nat.cast_add]

/-- The size of a set is the number of its members. -/
theorem encard_eq_size
    (set : CodePointSet) :
    {codePoint | codePoint ∈ set}.encard = (set.size : Nat) :=
  encard_covers set.spaced

/-- The folded form of a character adds the character and its counterpart. -/
@[simp] theorem mem_addCharFolded
    {set : CodePointSet}
    {char : Char}
    {codePoint : Nat} :
    codePoint ∈ set.addCharFolded char ↔
      codePoint = char.toNat ∨
        (∃ counterpart, Unicode.caseCounterpart? char = some counterpart ∧
          codePoint = counterpart.toNat) ∨
        codePoint ∈ set := by
  simp only [addCharFolded, mem_addCounterpart, mem_addChar]
  exact or_left_comm

/-- Adding the counterpart at a code point adds the counterpart of the character there. -/
theorem mem_addCounterpartAt
    {set : CodePointSet}
    {place codePoint : Nat} :
    codePoint ∈ set.addCounterpartAt place ↔
      (∃ char counterpart, char.toNat = place ∧
        Unicode.caseCounterpart? char = some counterpart ∧
        codePoint = counterpart.toNat) ∨
        codePoint ∈ set := by
  unfold addCounterpartAt
  cases found : charOfCodePoint? place with
  | none =>
      have noChar : ∀ char : Char, char.toNat ≠ place := by
        intro char same
        rw [charOfCodePoint?_eq_some_iff.mpr same] at found
        contradiction
      simp [noChar]
  | some char =>
      have same : ∀ other : Char, other.toNat = place ↔ other = char := by
        intro other
        rw [← charOfCodePoint?_eq_some_iff, found, Option.some_inj, eq_comm]
      simp [same]

/-- Adding the counterparts at some code points adds those of the characters there. -/
theorem mem_foldl_addCounterpartAt
    {set : CodePointSet}
    {places : List Nat}
    {codePoint : Nat} :
    codePoint ∈ places.foldl addCounterpartAt set ↔
      (∃ char counterpart, char.toNat ∈ places ∧
        Unicode.caseCounterpart? char = some counterpart ∧
        codePoint = counterpart.toNat) ∨
        codePoint ∈ set := by
  induction places generalizing set with
  | nil =>
      simp
  | cons place rest inductionHypothesis =>
      rw [List.foldl_cons, inductionHypothesis, mem_addCounterpartAt]
      simp only [List.mem_cons]
      constructor
      · rintro (⟨char, counterpart, inRest, rest⟩ | ⟨char, counterpart, here, rest⟩ | old)
        · exact Or.inl ⟨char, counterpart, Or.inr inRest, rest⟩
        · exact Or.inl ⟨char, counterpart, Or.inl here, rest⟩
        · exact Or.inr old
      · rintro (⟨char, counterpart, here | inRest, rest⟩ | old)
        · exact Or.inr (Or.inl ⟨char, counterpart, here, rest⟩)
        · exact Or.inl ⟨char, counterpart, inRest, rest⟩
        · exact Or.inr (Or.inr old)

/-- The folded form of a span adds the span and the counterparts of its characters. -/
@[simp] theorem mem_addSpanFolded
    {set : CodePointSet}
    {first limit codePoint : Nat} :
    codePoint ∈ set.addSpanFolded first limit ↔
      (first ≤ codePoint ∧ codePoint < limit ∧ codePoint < codePointLimit) ∨
        (∃ char counterpart, first ≤ char.toNat ∧ char.toNat < limit ∧
          Unicode.caseCounterpart? char = some counterpart ∧
          codePoint = counterpart.toNat) ∨
        codePoint ∈ set := by
  have place :
      ∀ char : Char,
        char.toNat ∈ List.range' first (min limit codePointLimit - first) ↔
          first ≤ char.toNat ∧ char.toNat < limit := by
    intro char
    have bounded := toNat_lt_codePointLimit char
    rw [List.mem_range'_1]
    omega
  simp only [addSpanFolded, mem_foldl_addCounterpartAt, place, mem_addSpan, and_assoc]
  exact or_left_comm

end CodePointSet

end LexicalAutomata
