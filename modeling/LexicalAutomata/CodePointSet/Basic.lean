import LexicalAutomata.Ascending
import LexicalAutomata.CodePoint

namespace LexicalAutomata

/-!
# Sets of code points

A set is stored as the list of its maximal intervals, in ascending order.  Two
neighbours always leave a gap, so a set has exactly one representation.  The
main statements say what the operations do to membership: `mem_addSpan`,
`mem_union`, `mem_compl` and `mem_inter`.
-/

/-- The code points from `first` up to, but not including, `limit`. -/
structure Interval where
  first : Nat
  limit : Nat
  deriving Repr, DecidableEq

namespace Interval

/-- Membership of one code point. -/
def Contains
    (interval : Interval)
    (codePoint : Nat) :
    Prop :=
  interval.first ≤ codePoint ∧ codePoint < interval.limit

instance
    (interval : Interval)
    (codePoint : Nat) :
    Decidable (interval.Contains codePoint) :=
  inferInstanceAs (Decidable (_ ∧ _))

/-- The number of code points in an interval. -/
def size
    (interval : Interval) :
    Nat :=
  interval.limit - interval.first

end Interval

/--
Non-empty intervals of the domain in ascending order, the first one not below
`bound`, each one with a gap in front of the next.
-/
def Spaced : Nat → List Interval → Prop
  | _, [] =>
      True
  | bound, interval :: rest =>
      bound ≤ interval.first ∧
        interval.first < interval.limit ∧
        interval.limit ≤ codePointLimit ∧
        Spaced (interval.limit + 1) rest

/-- A lower bound may be lowered. -/
theorem Spaced.mono
    {low high : Nat}
    {intervals : List Interval}
    (spaced : Spaced high intervals)
    (le : low ≤ high) :
    Spaced low intervals := by
  cases intervals with
  | nil =>
      trivial
  | cons interval rest =>
      obtain ⟨above, nonempty, inside, tail⟩ := spaced
      exact ⟨by omega, nonempty, inside, tail⟩

/-- No interval of a spaced list reaches below its bound. -/
theorem Spaced.bound_le
    {bound : Nat}
    {intervals : List Interval}
    (spaced : Spaced bound intervals)
    {interval : Interval}
    (member : interval ∈ intervals) :
    bound ≤ interval.first := by
  induction intervals generalizing bound with
  | nil =>
      simp at member
  | cons head rest inductionHypothesis =>
      obtain ⟨above, nonempty, inside, tail⟩ := spaced
      rcases List.mem_cons.mp member with same | later
      · subst same
        exact above
      · have := inductionHypothesis tail later
        omega

/-- No interval of a spaced list reaches beyond the domain. -/
theorem Spaced.limit_le
    {bound : Nat}
    {intervals : List Interval}
    (spaced : Spaced bound intervals)
    {interval : Interval}
    (member : interval ∈ intervals) :
    interval.limit ≤ codePointLimit := by
  induction intervals generalizing bound with
  | nil =>
      simp at member
  | cons head rest inductionHypothesis =>
      obtain ⟨_, _, inside, tail⟩ := spaced
      rcases List.mem_cons.mp member with same | later
      · subst same
        exact inside
      · exact inductionHypothesis tail later

/-- The intervals of a spaced list are not empty. -/
theorem Spaced.first_lt_limit
    {bound : Nat}
    {intervals : List Interval}
    (spaced : Spaced bound intervals)
    {interval : Interval}
    (member : interval ∈ intervals) :
    interval.first < interval.limit := by
  induction intervals generalizing bound with
  | nil =>
      simp at member
  | cons head rest inductionHypothesis =>
      obtain ⟨_, nonempty, _, tail⟩ := spaced
      rcases List.mem_cons.mp member with same | later
      · subst same
        exact nonempty
      · exact inductionHypothesis tail later

/-- A set of code points, kept as its maximal intervals. -/
structure CodePointSet where
  intervals : List Interval
  spaced : Spaced 0 intervals
  deriving DecidableEq

namespace CodePointSet

/-- Some interval of the list contains the code point. -/
def Covers
    (intervals : List Interval)
    (codePoint : Nat) :
    Prop :=
  ∃ interval ∈ intervals, interval.Contains codePoint

instance : Membership Nat CodePointSet where
  mem set codePoint :=
    Covers set.intervals codePoint

/-- All members of a set belong to the domain. -/
theorem lt_codePointLimit
    {set : CodePointSet}
    {codePoint : Nat}
    (member : codePoint ∈ set) :
    codePoint < codePointLimit := by
  obtain ⟨interval, intervalMember, contained⟩ := member
  exact Nat.lt_of_lt_of_le contained.2 (set.spaced.limit_le intervalMember)

@[simp] theorem covers_nil
    (codePoint : Nat) :
    ¬ Covers [] codePoint := by
  simp [Covers]

@[simp] theorem covers_cons
    (interval : Interval)
    (rest : List Interval)
    (codePoint : Nat) :
    Covers (interval :: rest) codePoint ↔
      interval.Contains codePoint ∨ Covers rest codePoint := by
  simp [Covers]

/-- Code points below the bound of a spaced list are not covered. -/
theorem not_covers_of_lt
    {bound codePoint : Nat}
    {intervals : List Interval}
    (spaced : Spaced bound intervals)
    (below : codePoint < bound) :
    ¬ Covers intervals codePoint := by
  rintro ⟨interval, member, atLeast, _⟩
  have := spaced.bound_le member
  omega

/-- In ascending intervals, the first one that ends after a code point decides its membership. -/
def containsIn
    (codePoint : Nat) :
    List Interval → Bool
  | [] =>
      false
  | interval :: rest =>
      if codePoint < interval.limit then
        decide (interval.first ≤ codePoint)
      else
        containsIn codePoint rest

theorem containsIn_iff
    {bound codePoint : Nat}
    {intervals : List Interval}
    (spaced : Spaced bound intervals) :
    containsIn codePoint intervals = true ↔ Covers intervals codePoint := by
  induction intervals generalizing bound with
  | nil =>
      simp [containsIn]
  | cons interval rest inductionHypothesis =>
      obtain ⟨above, nonempty, inside, tail⟩ := spaced
      by_cases before : codePoint < interval.limit
      · have outside : ¬ Covers rest codePoint :=
          not_covers_of_lt tail (by omega)
        simp [containsIn, before, outside, Interval.Contains]
      · simp [containsIn, before, inductionHypothesis tail, Interval.Contains]

/-- Decide membership of a code point. -/
def contains
    (set : CodePointSet)
    (codePoint : Nat) :
    Bool :=
  containsIn codePoint set.intervals

/-- The membership test is exact. -/
theorem contains_iff
    (set : CodePointSet)
    (codePoint : Nat) :
    set.contains codePoint = true ↔ codePoint ∈ set :=
  containsIn_iff set.spaced

instance
    (set : CodePointSet)
    (codePoint : Nat) :
    Decidable (codePoint ∈ set) :=
  decidable_of_iff _ (contains_iff set codePoint)

/-- The set without members. -/
def empty : CodePointSet where
  intervals :=
    []
  spaced :=
    trivial

instance : Inhabited CodePointSet :=
  ⟨empty⟩

@[simp] theorem not_mem_empty
    (codePoint : Nat) :
    codePoint ∉ empty :=
  covers_nil codePoint

/--
Add the code points from `first` to below `limit`: the intervals that are met or
touched are spliced out, and one interval is put in their place.
-/
def insertSpan
    (first limit : Nat)
    (intervals : List Interval) :
    List Interval :=
  let start := partitionPoint (fun interval => interval.limit < first) intervals
  let stop := partitionPoint (fun interval => interval.first ≤ limit) intervals
  have inside : stop ≤ intervals.length := partitionPoint_le_length _ _
  if met : start < stop then
    intervals.take start ++
      ⟨min first intervals[start].first, max limit intervals[stop - 1].limit⟩ ::
        intervals.drop stop
  else
    intervals.take start ++ ⟨first, limit⟩ :: intervals.drop start

/-- Add a span in one pass, absorbing every interval that is met or touched. -/
def absorbSpan
    (first limit : Nat) :
    List Interval → List Interval
  | [] =>
      [⟨first, limit⟩]
  | interval :: rest =>
      if limit < interval.first then
        ⟨first, limit⟩ :: interval :: rest
      else if interval.limit < first then
        interval :: absorbSpan first limit rest
      else
        absorbSpan (min first interval.first) (max limit interval.limit) rest

section InsertSpan

variable {first limit : Nat} {interval : Interval} {rest : List Interval}

/-- In front of an interval that it does not touch, a span is inserted as it is. -/
theorem insertSpan_cons_of_below
    (ordered : first ≤ interval.limit)
    (below : limit < interval.first) :
    insertSpan first limit (interval :: rest) = ⟨first, limit⟩ :: interval :: rest := by
  have start : partitionPoint (fun interval => interval.limit < first) (interval :: rest) = 0 :=
    partitionPoint_cons_of_neg rest (decide_eq_false (Nat.not_lt.mpr ordered))
  have stop : partitionPoint (fun interval => interval.first ≤ limit) (interval :: rest) = 0 :=
    partitionPoint_cons_of_neg rest (decide_eq_false (Nat.not_le.mpr below))
  simp only [insertSpan, start, stop]
  rfl

/-- Behind an interval that it does not touch, a span is inserted further on. -/
theorem insertSpan_cons_of_above
    (ordered : interval.first ≤ limit)
    (above : interval.limit < first) :
    insertSpan first limit (interval :: rest) = interval :: insertSpan first limit rest := by
  have start :
      partitionPoint (fun interval => interval.limit < first) (interval :: rest) =
        partitionPoint (fun interval => interval.limit < first) rest + 1 :=
    partitionPoint_cons_of_pos rest (decide_eq_true above)
  have stop :
      partitionPoint (fun interval => interval.first ≤ limit) (interval :: rest) =
        partitionPoint (fun interval => interval.first ≤ limit) rest + 1 :=
    partitionPoint_cons_of_pos rest (decide_eq_true ordered)
  simp only [insertSpan, start, stop, Nat.add_lt_add_iff_right]
  split
  · rename_i met
    obtain ⟨last, isLast⟩ := Nat.exists_eq_add_one_of_ne_zero (Nat.ne_zero_of_lt met)
    simp only [isLast]
    rfl
  · rfl

/-- The intervals behind one that is met are spliced out as they would be by the grown span. -/
theorem insertSpan_cons_of_met
    (spaced : Spaced (interval.limit + 1) rest)
    (fromBelow : interval.first ≤ limit)
    (fromAbove : first ≤ interval.limit) :
    insertSpan first limit (interval :: rest) =
      insertSpan (min first interval.first) (max limit interval.limit) rest := by
  have start : partitionPoint (fun interval => interval.limit < first) (interval :: rest) = 0 :=
    partitionPoint_cons_of_neg rest (decide_eq_false (Nat.not_lt.mpr fromAbove))
  have stop :
      partitionPoint (fun interval => interval.first ≤ limit) (interval :: rest) =
        partitionPoint (fun interval => interval.first ≤ limit) rest + 1 :=
    partitionPoint_cons_of_pos rest (decide_eq_true fromBelow)
  -- The grown span meets no interval that the span itself does not meet.
  have sameStop :
      partitionPoint (fun next => next.first ≤ max limit interval.limit) rest =
        partitionPoint (fun next => next.first ≤ limit) rest := by
    refine partitionPoint_congr fun next member => decide_eq_decide.mpr ?_
    have := spaced.bound_le member
    omega
  have sameStart :
      partitionPoint (fun next => next.limit < min first interval.first) rest = 0 := by
    cases rest with
    | nil =>
        rfl
    | cons next others =>
        have := spaced.bound_le List.mem_cons_self
        have := spaced.first_lt_limit List.mem_cons_self
        exact partitionPoint_cons_of_neg others (decide_eq_false (by omega))
  simp only [insertSpan, start, stop, sameStart, sameStop, Nat.zero_lt_succ, dif_pos]
  split
  · rename_i met
    obtain ⟨last, isLast⟩ := Nat.exists_eq_add_one_of_ne_zero (Nat.ne_zero_of_lt met)
    have inside : last < rest.length := by
      have := partitionPoint_le_length (fun next => decide (next.first ≤ limit)) rest
      omega
    have := spaced.bound_le (List.getElem_mem (Nat.zero_lt_of_lt inside))
    have := spaced.bound_le (List.getElem_mem inside)
    have := spaced.first_lt_limit (List.getElem_mem inside)
    simp [isLast]
    omega
  · rename_i notMet
    simp [Nat.eq_zero_of_not_pos notMet]

/-- The two partition points delimit what one pass over the intervals absorbs. -/
theorem insertSpan_eq_absorbSpan
    {bound : Nat}
    {intervals : List Interval}
    (spaced : Spaced bound intervals)
    (nonempty : first < limit) :
    insertSpan first limit intervals = absorbSpan first limit intervals := by
  induction intervals generalizing bound first limit with
  | nil =>
      rfl
  | cons interval rest inductionHypothesis =>
      obtain ⟨_, headNonempty, _, tail⟩ := spaced
      unfold absorbSpan
      split
      · exact insertSpan_cons_of_below (by omega) ‹_›
      · split
        · rw [insertSpan_cons_of_above (by omega) ‹_›, inductionHypothesis tail nonempty]
        · rw [insertSpan_cons_of_met tail (by omega) (by omega),
            inductionHypothesis tail (by omega)]

end InsertSpan

/-- The intervals stay apart when a span absorbs those that it meets. -/
theorem absorbSpan_spaced
    {bound first limit : Nat}
    {intervals : List Interval}
    (spaced : Spaced bound intervals)
    (above : bound ≤ first)
    (nonempty : first < limit)
    (inside : limit ≤ codePointLimit) :
    Spaced bound (absorbSpan first limit intervals) := by
  induction intervals generalizing bound first limit with
  | nil =>
      exact ⟨above, nonempty, inside, trivial⟩
  | cons interval rest inductionHypothesis =>
      obtain ⟨headAbove, headNonempty, headInside, tail⟩ := spaced
      unfold absorbSpan
      split
      · exact ⟨above, nonempty, inside, Nat.succ_le_of_lt ‹_›, headNonempty, headInside, tail⟩
      · split
        · exact ⟨headAbove, headNonempty, headInside,
            inductionHypothesis tail (by omega) nonempty inside⟩
        · apply inductionHypothesis (tail.mono (by omega)) <;> omega

/-- A span that absorbs intervals adds its own code points to theirs, and no others. -/
theorem covers_absorbSpan
    {bound first limit : Nat}
    {intervals : List Interval}
    (spaced : Spaced bound intervals)
    (nonempty : first < limit)
    (codePoint : Nat) :
    Covers (absorbSpan first limit intervals) codePoint ↔
      (first ≤ codePoint ∧ codePoint < limit) ∨ Covers intervals codePoint := by
  induction intervals generalizing bound first limit with
  | nil =>
      simp [absorbSpan, Interval.Contains]
  | cons interval rest inductionHypothesis =>
      obtain ⟨_, headNonempty, _, tail⟩ := spaced
      unfold absorbSpan
      split
      · simp [Interval.Contains]
      · split
        · rw [covers_cons, covers_cons, inductionHypothesis tail nonempty]
          constructor <;> (rintro (found | found | found) <;> simp [found])
        · rw [covers_cons, inductionHypothesis tail (by omega)]
          unfold Interval.Contains
          constructor
          · rintro (⟨atLeast, below⟩ | found)
            · by_cases old : interval.first ≤ codePoint ∧ codePoint < interval.limit
              · simp [old]
              · left
                omega
            · simp [found]
          · rintro (found | found | found)
            · left
              omega
            · left
              omega
            · simp [found]

/-- Add the code points of the domain from `first` to below `limit`. -/
def addSpan
    (set : CodePointSet)
    (first limit : Nat) :
    CodePointSet :=
  if nonempty : first < min limit codePointLimit then
    {
      intervals := insertSpan first (min limit codePointLimit) set.intervals
      spaced := by
        rw [insertSpan_eq_absorbSpan set.spaced nonempty]
        exact absorbSpan_spaced set.spaced (Nat.zero_le first) nonempty (Nat.min_le_right _ _)
    }
  else
    set

/-- A span adds exactly its code points that lie in the domain. -/
@[simp] theorem mem_addSpan
    {set : CodePointSet}
    {first limit codePoint : Nat} :
    codePoint ∈ set.addSpan first limit ↔
      (first ≤ codePoint ∧ codePoint < limit ∧ codePoint < codePointLimit) ∨
        codePoint ∈ set := by
  unfold addSpan
  split
  · rename_i nonempty
    have covered := covers_absorbSpan set.spaced nonempty codePoint
    rw [← insertSpan_eq_absorbSpan set.spaced nonempty] at covered
    simp only [Nat.lt_min] at covered
    exact covered
  · constructor
    · exact Or.inr
    · rintro (⟨_, _, _⟩ | found)
      · omega
      · exact found

/-- The set of the code points of the domain from `first` to below `limit`. -/
def span
    (first limit : Nat) :
    CodePointSet :=
  empty.addSpan first limit

/-- The whole domain. -/
def full : CodePointSet :=
  span 0 codePointLimit

/-- Add one character. -/
def addChar
    (set : CodePointSet)
    (char : Char) :
    CodePointSet :=
  set.addSpan char.toNat (char.toNat + 1)

@[simp] theorem mem_addChar
    {set : CodePointSet}
    {char : Char}
    {codePoint : Nat} :
    codePoint ∈ set.addChar char ↔ codePoint = char.toNat ∨ codePoint ∈ set := by
  have := toNat_lt_codePointLimit char
  simp only [addChar, mem_addSpan]
  constructor
  · rintro (found | found)
    · left
      omega
    · exact Or.inr found
  · rintro (found | found)
    · left
      omega
    · exact Or.inr found

/-- The characters of a list. -/
def ofChars
    (chars : List Char) :
    CodePointSet :=
  chars.foldl addChar empty

/-- Add every interval of another set. -/
def union
    (set other : CodePointSet) :
    CodePointSet :=
  other.intervals.foldl (fun sum interval => sum.addSpan interval.first interval.limit) set

theorem mem_foldl_addSpan
    {bound codePoint : Nat}
    {intervals : List Interval}
    (spaced : Spaced bound intervals)
    (set : CodePointSet) :
    codePoint ∈ intervals.foldl (fun sum interval => sum.addSpan interval.first interval.limit) set ↔
      codePoint ∈ set ∨ Covers intervals codePoint := by
  induction intervals generalizing bound set with
  | nil =>
      simp
  | cons interval rest inductionHypothesis =>
      obtain ⟨_, _, inside, tail⟩ := spaced
      rw [List.foldl_cons, inductionHypothesis tail, mem_addSpan, covers_cons]
      unfold Interval.Contains
      constructor
      · rintro ((⟨atLeast, below, _⟩ | found) | found)
        · exact Or.inr (Or.inl ⟨atLeast, below⟩)
        · exact Or.inl found
        · exact Or.inr (Or.inr found)
      · rintro (found | ⟨atLeast, below⟩ | found)
        · exact Or.inl (Or.inr found)
        · exact Or.inl (Or.inl ⟨atLeast, below, by omega⟩)
        · exact Or.inr found

@[simp] theorem mem_union
    {set other : CodePointSet}
    {codePoint : Nat} :
    codePoint ∈ set.union other ↔ codePoint ∈ set ∨ codePoint ∈ other :=
  mem_foldl_addSpan other.spaced set

/-- The gaps that a list of ascending intervals leaves from `point` on. -/
def gapsFrom
    (point : Nat) :
    List Interval → List Interval
  | [] =>
      if point < codePointLimit then
        [⟨point, codePointLimit⟩]
      else
        []
  | interval :: rest =>
      if point < interval.first then
        ⟨point, interval.first⟩ :: gapsFrom interval.limit rest
      else
        gapsFrom interval.limit rest

theorem gapsFrom_spaced
    {bound point : Nat}
    {intervals : List Interval}
    (spaced : Spaced bound intervals)
    (le : point ≤ bound) :
    Spaced point (gapsFrom point intervals) := by
  induction intervals generalizing bound point with
  | nil =>
      unfold gapsFrom
      split
      · exact ⟨Nat.le_refl _, by assumption, Nat.le_refl _, trivial⟩
      · trivial
  | cons interval rest inductionHypothesis =>
      obtain ⟨above, nonempty, inside, tail⟩ := spaced
      have later := inductionHypothesis tail (Nat.le_succ interval.limit)
      unfold gapsFrom
      split
      · exact ⟨Nat.le_refl _, ‹_›, Nat.le_of_lt (Nat.lt_of_lt_of_le nonempty inside),
          later.mono (Nat.succ_le_of_lt nonempty)⟩
      · exact later.mono (by omega)

theorem covers_gapsFrom
    {bound point codePoint : Nat}
    {intervals : List Interval}
    (spaced : Spaced bound intervals)
    (le : point ≤ bound) :
    Covers (gapsFrom point intervals) codePoint ↔
      point ≤ codePoint ∧ codePoint < codePointLimit ∧ ¬ Covers intervals codePoint := by
  induction intervals generalizing bound point with
  | nil =>
      unfold gapsFrom
      split
      · simp [Interval.Contains]
      · simp
        omega
  | cons interval rest inductionHypothesis =>
      obtain ⟨above, nonempty, inside, tail⟩ := spaced
      have later := inductionHypothesis tail (Nat.le_succ interval.limit)
      have early : codePoint < interval.limit → ¬ Covers rest codePoint :=
        fun below => not_covers_of_lt tail (by omega)
      unfold gapsFrom
      rw [covers_cons]
      unfold Interval.Contains
      split
      · rw [covers_cons, later]
        unfold Interval.Contains
        by_cases below : codePoint < interval.limit
        · simp only [early below, or_false, not_false_eq_true, and_true]
          omega
        · by_cases covered : Covers rest codePoint
          · simp only [covered, or_true, not_true_eq_false, and_false, or_false, iff_false]
            omega
          · simp only [covered, or_false, not_false_eq_true, and_true]
            omega
      · rw [later]
        by_cases below : codePoint < interval.limit
        · simp only [early below, or_false, not_false_eq_true, and_true]
          omega
        · by_cases covered : Covers rest codePoint
          · simp [covered]
          · simp only [covered, or_false, not_false_eq_true, and_true]
            omega

/-- The code points of the domain that are not in the set. -/
def compl
    (set : CodePointSet) :
    CodePointSet where
  intervals :=
    gapsFrom 0 set.intervals
  spaced :=
    gapsFrom_spaced set.spaced (Nat.le_refl 0)

@[simp] theorem mem_compl
    {set : CodePointSet}
    {codePoint : Nat} :
    codePoint ∈ set.compl ↔ codePoint < codePointLimit ∧ codePoint ∉ set := by
  have covered :
      Covers (gapsFrom 0 set.intervals) codePoint ↔ _ :=
    covers_gapsFrom set.spaced (Nat.le_refl 0)
  simp only [Nat.zero_le, true_and] at covered
  exact covered

/-- Put a span in front of a list unless the span is empty. -/
def consSpan
    (first limit : Nat)
    (intervals : List Interval) :
    List Interval :=
  if first < limit then
    ⟨first, limit⟩ :: intervals
  else
    intervals

/--
The common part of two ascending lists of intervals: meet the two heads, then
drop the one that ends first.
-/
def meet : List Interval → List Interval → List Interval
  | [], _ =>
      []
  | _ :: _, [] =>
      []
  | left :: lefts, right :: rights =>
      consSpan (max left.first right.first) (min left.limit right.limit)
        (if left.limit < right.limit then
          meet lefts (right :: rights)
        else
          meet (left :: lefts) rights)
  termination_by lefts rights => lefts.length + rights.length

/-- What two spaced lists have in common is spaced above both of their bounds. -/
theorem meet_spaced
    {leftBound rightBound : Nat}
    {lefts rights : List Interval}
    (leftSpaced : Spaced leftBound lefts)
    (rightSpaced : Spaced rightBound rights) :
    Spaced (max leftBound rightBound) (meet lefts rights) := by
  fun_induction meet lefts rights generalizing leftBound rightBound with
  | case1 =>
      trivial
  | case2 =>
      trivial
  | case3 left lefts right rights dropLeft dropRight =>
      obtain ⟨leftAbove, leftNonempty, leftInside, leftTail⟩ := leftSpaced
      obtain ⟨rightAbove, rightNonempty, rightInside, rightTail⟩ := rightSpaced
      have later :
          Spaced (max leftBound (max rightBound (min left.limit right.limit + 1)))
            (if left.limit < right.limit then
              meet lefts (right :: rights)
            else
              meet (left :: lefts) rights) := by
        split
        · exact (dropLeft leftTail
            ⟨rightAbove, rightNonempty, rightInside, rightTail⟩).mono (by omega)
        · exact (dropRight
            ⟨leftAbove, leftNonempty, leftInside, leftTail⟩ rightTail).mono (by omega)
      unfold consSpan
      split
      · exact ⟨by simp only; omega, ‹_›, by simp only; omega, later.mono (by simp only; omega)⟩
      · exact later.mono (by omega)

theorem covers_meet
    {leftBound rightBound : Nat}
    {lefts rights : List Interval}
    (leftSpaced : Spaced leftBound lefts)
    (rightSpaced : Spaced rightBound rights)
    (codePoint : Nat) :
    Covers (meet lefts rights) codePoint ↔
      Covers lefts codePoint ∧ Covers rights codePoint := by
  fun_induction meet lefts rights generalizing leftBound rightBound with
  | case1 =>
      simp
  | case2 =>
      simp
  | case3 left lefts right rights dropLeft dropRight =>
      obtain ⟨leftAbove, leftNonempty, leftInside, leftTail⟩ := leftSpaced
      obtain ⟨rightAbove, rightNonempty, rightInside, rightTail⟩ := rightSpaced
      have leftEarly : codePoint < left.limit + 1 → ¬ Covers lefts codePoint :=
        not_covers_of_lt leftTail
      have rightEarly : codePoint < right.limit + 1 → ¬ Covers rights codePoint :=
        not_covers_of_lt rightTail
      have later :
          Covers
              (if left.limit < right.limit then
                meet lefts (right :: rights)
              else
                meet (left :: lefts) rights) codePoint ↔
            min left.limit right.limit ≤ codePoint ∧
              Covers (left :: lefts) codePoint ∧ Covers (right :: rights) codePoint := by
        split
        · rw [dropLeft leftTail ⟨rightAbove, rightNonempty, rightInside, rightTail⟩]
          simp only [covers_cons, Interval.Contains]
          by_cases below : codePoint < left.limit
          · simp [leftEarly (by omega)]
            omega
          · have : ¬ (codePoint < left.limit) := below
            simp [this]
            omega
        · rw [dropRight ⟨leftAbove, leftNonempty, leftInside, leftTail⟩ rightTail]
          simp only [covers_cons, Interval.Contains]
          by_cases below : codePoint < right.limit
          · simp [rightEarly (by omega)]
            omega
          · have : ¬ (codePoint < right.limit) := below
            simp [this]
            omega
      have heads :
          (max left.first right.first ≤ codePoint ∧ codePoint < min left.limit right.limit) ↔
            codePoint < min left.limit right.limit ∧
              Covers (left :: lefts) codePoint ∧ Covers (right :: rights) codePoint := by
        simp only [covers_cons, Interval.Contains]
        by_cases below : codePoint < min left.limit right.limit
        · simp only [leftEarly (by omega), rightEarly (by omega), or_false]
          omega
        · simp [below]
      unfold consSpan
      split
      · rw [covers_cons, later]
        unfold Interval.Contains
        rw [heads]
        constructor
        · rintro (⟨_, both⟩ | ⟨_, both⟩) <;> exact both
        · intro both
          by_cases below : codePoint < min left.limit right.limit
          · exact Or.inl ⟨below, both⟩
          · exact Or.inr ⟨by omega, both⟩
      · rw [later]
        constructor
        · rintro ⟨_, both⟩
          exact both
        · intro both
          refine ⟨?_, both⟩
          by_cases below : codePoint < min left.limit right.limit
          · have := heads.mpr ⟨below, both⟩
            omega
          · omega

/-- The code points that both sets contain. -/
def inter
    (set other : CodePointSet) :
    CodePointSet where
  intervals :=
    meet set.intervals other.intervals
  spaced :=
    meet_spaced set.spaced other.spaced

@[simp] theorem mem_inter
    {set other : CodePointSet}
    {codePoint : Nat} :
    codePoint ∈ set.inter other ↔ codePoint ∈ set ∧ codePoint ∈ other :=
  covers_meet set.spaced other.spaced codePoint

/-- A set without intervals has no members. -/
def isEmpty
    (set : CodePointSet) :
    Bool :=
  set.intervals.isEmpty

/-- The number of code points in the set. -/
def size
    (set : CodePointSet) :
    Nat :=
  set.intervals.foldr (fun interval size => interval.size + size) 0

end CodePointSet

end LexicalAutomata
