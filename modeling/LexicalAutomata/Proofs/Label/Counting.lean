import LexicalAutomata.Proofs.Label.Assembly
import Mathlib.Algebra.Order.BigOperators.Group.List
import Mathlib.Order.CompletePartialOrder
import Mathlib.Order.Interval.Set.Disjoint

namespace LexicalAutomata

/-!
# Counting the code points of spans

The size of a span is the distance between its ends, of which only the upper one is cut off
at the end of the domain.  So the size is the number of the code points that the span
contains as long as the span begins in the domain.  A span that begins beyond contains
nothing, and there the distance wraps around.  A label counts no code point twice, so it
has as many as its spans together, if these are apart.
-/

namespace Label

theorem finite_pointSet
    (label : Label) :
    label.pointSet.Finite :=
  Set.finite_of_encard_eq_coe (CodePointSet.encard_eq_size label.points)

/-- What is counted is the number of code points. -/
theorem ncard_pointSet
    (label : Label) :
    label.pointSet.ncard = label.points.size := by
  have counted := CodePointSet.encard_eq_size label.points
  rw [Set.ncard, pointSet, counted]
  rfl

namespace Material

theorem finite_points
    (material : Material) :
    material.points.Finite := by
  cases material with
  | ofSpan first limit =>
      exact (Set.finite_Ico _ _).subset Set.inter_subset_left
  | ofChar char =>
      exact Set.finite_singleton _
  | ofBoundary boundary =>
      exact Set.finite_empty

/-- The code points of a span are those between its ends, the upper one cut off. -/
theorem points_ofSpan
    (first limit : UInt32) :
    (ofSpan first limit).points = Set.Ico first.toNat (min limit.toNat codePointLimit) := by
  ext codePoint
  simp only [points, Set.mem_inter_iff, Set.mem_Ico, Set.mem_Iio, Nat.lt_min]
  tauto

theorem ncard_points_ofSpan
    (first limit : UInt32) :
    (ofSpan first limit).points.ncard = min limit.toNat codePointLimit - first.toNat := by
  rw [points_ofSpan, ← Finset.coe_Ico, Set.ncard_coe_finset, Nat.card_Ico]

end Material

/-- Adding entries counts no code point that none of them means, and none of them twice. -/
theorem size_addEntries_le
    (label : Label)
    (materials : List Material) :
    (label.addEntries (materials.map Material.entry)).points.size ≤
      label.points.size + (materials.map fun material => material.points.ncard).sum := by
  induction materials generalizing label with
  | nil =>
      exact Nat.le_refl _
  | cons head rest inductionHypothesis =>
      have added :
          (label.addEntry head.entry).points.size ≤ label.points.size + head.points.ncard := by
        rw [← ncard_pointSet, ← ncard_pointSet, pointSet_addEntry]
        exact Set.ncard_union_le _ _
      have later := inductionHypothesis (label.addEntry head.entry)
      rw [List.map_cons, List.map_cons, List.sum_cons, ← Nat.add_assoc]
      exact later.trans (Nat.add_le_add_right added _)

/-- Adding entries that are apart from the label and from each other counts all they mean. -/
theorem size_addEntries_of_disjoint
    (label : Label)
    {materials : List Material}
    (apart :
      materials.Pairwise fun former latter => Disjoint former.points latter.points)
    (outside : ∀ material ∈ materials, Disjoint label.pointSet material.points) :
    (label.addEntries (materials.map Material.entry)).points.size =
      label.points.size + (materials.map fun material => material.points.ncard).sum := by
  induction materials generalizing label with
  | nil =>
      rfl
  | cons head rest inductionHypothesis =>
      obtain ⟨headApart, restApart⟩ := List.pairwise_cons.mp apart
      obtain ⟨headOutside, restOutside⟩ := List.forall_mem_cons.mp outside
      have added :
          (label.addEntry head.entry).points.size = label.points.size + head.points.ncard := by
        rw [← ncard_pointSet, ← ncard_pointSet, pointSet_addEntry]
        exact Set.ncard_union_eq headOutside label.finite_pointSet head.finite_points
      have later :=
        inductionHypothesis (label.addEntry head.entry) restApart fun material member => by
          rw [pointSet_addEntry, Set.disjoint_union_left]
          exact ⟨restOutside material member, headApart material member⟩
      rw [List.map_cons, List.map_cons, List.sum_cons, ← Nat.add_assoc, ← added]
      exact later

end Label

namespace Entry

section Span

variable {first limit : UInt32}

/-- A span contains the words between its ends, the upper one cut off. -/
theorem contains_ofSpan_iff
    {codePoint : UInt32} :
    (ofSpan first limit).contains codePoint = true ↔
      codePoint.toNat ∈ (Label.Material.ofSpan first limit).points := by
  rw [Label.Material.points_ofSpan, Set.mem_Ico, ofSpan, contains]
  simp only [Bool.and_eq_true, decide_eq_true_eq, UInt32.le_iff_toNat_le,
    UInt32.lt_iff_toNat_lt, Label.toNat_min_codePointLimit]

/-- Every code point that a span means is the value of a word that it contains. -/
theorem image_contains_ofSpan
    (first limit : UInt32) :
    UInt32.toNat '' {codePoint | (ofSpan first limit).contains codePoint = true} =
      (Label.Material.ofSpan first limit).points := by
  ext place
  simp only [Set.mem_image, Set.mem_ofPred_eq, contains_ofSpan_iff]
  constructor
  · rintro ⟨codePoint, inside, rfl⟩
    exact inside
  · intro inside
    have below : place < UInt32.size := by
      have inDomain : place < codePointLimit := inside.2
      exact inDomain.trans (by decide)
    have same : (UInt32.ofNat place).toNat = place := UInt32.toNat_ofNat_of_lt below
    exact ⟨UInt32.ofNat place, by rwa [same], same⟩

/-- As many words are contained as there are code points between the ends. -/
theorem ncard_contains_ofSpan
    (first limit : UInt32) :
    {codePoint | (ofSpan first limit).contains codePoint = true}.ncard =
      (Label.Material.ofSpan first limit).points.ncard := by
  have injective : Function.Injective UInt32.toNat :=
    fun _ _ same => UInt32.toNat_inj.mp same
  rw [← image_contains_ofSpan, Set.ncard_image_of_injective _ injective]

/-- Spans contain no word in common just when they mean no code point in common. -/
theorem disjoint_points_iff
    {otherFirst otherLimit : UInt32} :
    Disjoint (Label.Material.ofSpan first limit).points
        (Label.Material.ofSpan otherFirst otherLimit).points ↔
      ∀ codePoint,
        ¬ ((ofSpan first limit).contains codePoint = true ∧
          (ofSpan otherFirst otherLimit).contains codePoint = true) := by
  rw [← image_contains_ofSpan, ← image_contains_ofSpan,
    Set.disjoint_image_iff fun _ _ same => UInt32.toNat_inj.mp same, Set.disjoint_left]
  simp only [Set.mem_ofPred_eq, not_and]

/-- The size of a span that begins in the domain is the number of its code points. -/
theorem toNat_size_ofSpan
    (ordered : first ≤ limit)
    (inDomain : first.toNat ≤ codePointLimit) :
    (ofSpan first limit).size.toNat = (Label.Material.ofSpan first limit).points.ncard := by
  have le : first ≤ min limit (UInt32.ofNat codePointLimit) := by
    rw [UInt32.le_iff_toNat_le, Label.toNat_min_codePointLimit]
    exact Nat.le_min.mpr ⟨UInt32.le_iff_toNat_le.mp ordered, inDomain⟩
  rw [Label.Material.ncard_points_ofSpan, ofSpan, size, UInt32.toNat_sub_of_le _ _ le,
    Label.toNat_min_codePointLimit]

/-- A span that begins beyond the domain has no code points. -/
theorem points_ofSpan_beyond
    (beyond : codePointLimit < first.toNat) :
    (Label.Material.ofSpan first limit).points = ∅ := by
  rw [Label.Material.points_ofSpan, Set.Ico_eq_empty_iff]
  omega

/-- The size of a span that begins beyond the domain wraps around. -/
theorem toNat_size_ofSpan_beyond
    (ordered : first ≤ limit)
    (beyond : codePointLimit < first.toNat) :
    (ofSpan first limit).size.toNat = UInt32.size - (first.toNat - codePointLimit) := by
  have cut : min limit.toNat codePointLimit = codePointLimit :=
    Nat.min_eq_right (beyond.le.trans (UInt32.le_iff_toNat_le.mp ordered))
  have bounded := first.toNat_lt
  rw [ofSpan, size, UInt32.toNat_sub, Label.toNat_min_codePointLimit, cut]
  unfold UInt32.size
  omega

/-- The size of a span is not less than the number of its code points. -/
theorem ncard_points_le
    (ordered : first ≤ limit) :
    (Label.Material.ofSpan first limit).points.ncard ≤ (ofSpan first limit).size.toNat := by
  rcases Nat.lt_or_ge codePointLimit first.toNat with beyond | inDomain
  · rw [points_ofSpan_beyond beyond, Set.ncard_empty]
    exact Nat.zero_le _
  · exact (toNat_size_ofSpan ordered inDomain).ge

/-- The size of a span is the number of its code points unless it begins beyond the domain. -/
theorem toNat_size_eq_ncard_iff
    (ordered : first ≤ limit) :
    (ofSpan first limit).size.toNat = (Label.Material.ofSpan first limit).points.ncard ↔
      first.toNat ≤ codePointLimit := by
  refine ⟨fun same => ?_, toNat_size_ofSpan ordered⟩
  by_contra beyond
  have bounded := first.toNat_lt
  rw [points_ofSpan_beyond (by omega), Set.ncard_empty,
    toNat_size_ofSpan_beyond ordered (by omega)] at same
  unfold UInt32.size at same
  omega

/-- A span is empty just when its size is zero. -/
theorem isEmpty_iff
    {entry : Entry} :
    entry.isEmpty = true ↔ entry.size.toNat = 0 := by
  rw [isEmpty, beq_iff_eq, ← UInt32.toNat_inj, UInt32.toNat_zero]

/-- A span means no code point just when it contains no word. -/
theorem ncard_points_eq_zero_iff :
    (Label.Material.ofSpan first limit).points.ncard = 0 ↔
      ∀ codePoint, (ofSpan first limit).contains codePoint = false := by
  rw [Set.ncard_eq_zero (Label.Material.finite_points _), ← image_contains_ofSpan,
    Set.image_eq_empty, Set.eq_empty_iff_forall_notMem]
  simp only [Set.mem_ofPred_eq, Bool.not_eq_true]

end Span

end Entry

namespace Label

section Spans

variable {spans : List (UInt32 × UInt32)}

/-- A label of spans counts no more than their code points together. -/
theorem size_spans_le
    (spans : List (UInt32 × UInt32)) :
    (ofEntries (spans.map fun span => .ofSpan span.1 span.2)).points.size ≤
      (spans.map fun span => (Material.ofSpan span.1 span.2).points.ncard).sum := by
  have counted :=
    size_addEntries_le empty (spans.map fun span => Material.ofSpan span.1 span.2)
  have nothing : empty.points.size = 0 := rfl
  rw [nothing, Nat.zero_add, List.map_map, List.map_map] at counted
  exact counted

/-- A label of spans that are apart counts their code points together. -/
theorem size_spans_of_disjoint
    (apart :
      spans.Pairwise fun former latter =>
        Disjoint (Material.ofSpan former.1 former.2).points
          (Material.ofSpan latter.1 latter.2).points) :
    (ofEntries (spans.map fun span => .ofSpan span.1 span.2)).points.size =
      (spans.map fun span => (Material.ofSpan span.1 span.2).points.ncard).sum := by
  have counted :=
    size_addEntries_of_disjoint empty (List.pairwise_map.mpr apart) (by simp)
  have nothing : empty.points.size = 0 := rfl
  rw [nothing, Nat.zero_add, List.map_map, List.map_map] at counted
  exact counted

/-- The sizes of spans add up to no less than the numbers of their code points. -/
theorem sum_ncard_le
    (ordered : ∀ span ∈ spans, span.1 ≤ span.2) :
    (spans.map fun span => (Material.ofSpan span.1 span.2).points.ncard).sum ≤
      (spans.map fun span => (Entry.ofSpan span.1 span.2).size.toNat).sum :=
  List.sum_le_sum fun span member => Entry.ncard_points_le (ordered span member)

/-- They add up to the same just when every span begins in the domain. -/
theorem sum_ncard_eq_iff
    (ordered : ∀ span ∈ spans, span.1 ≤ span.2) :
    (spans.map fun span => (Material.ofSpan span.1 span.2).points.ncard).sum =
        (spans.map fun span => (Entry.ofSpan span.1 span.2).size.toNat).sum ↔
      ∀ span ∈ spans, span.1.toNat ≤ codePointLimit := by
  constructor
  · intro same span member
    rw [← Entry.toNat_size_eq_ncard_iff (ordered span member)]
    by_contra differs
    have less :=
      List.sum_lt_sum _ _ (fun other inside => Entry.ncard_points_le (ordered other inside))
        ⟨span, member,
          lt_of_le_of_ne (Entry.ncard_points_le (ordered span member)) (Ne.symm differs)⟩
    exact less.ne same
  · intro inDomain
    congr 1
    apply List.map_congr_left
    intro span member
    exact (Entry.toNat_size_ofSpan (ordered span member) (inDomain span member)).symm

end Spans

/--
A span contains the words between its ends, the upper one cut off at the end of the domain.
If it begins in the domain, then its size is the number of words it contains; if it begins
beyond, it contains none, and its size is not zero but wraps around.  A label of spans never
counts more than the sizes together.  When no word is contained in two of the spans, it counts
exactly as much if all of them begin in the domain, and less if one does not.
-/
theorem counts_spans
    (spans : List (UInt32 × UInt32))
    (ordered : ∀ span ∈ spans, span.1 ≤ span.2) :
    (∀ span ∈ spans,
      (∀ codePoint : UInt32,
        (Entry.ofSpan span.1 span.2).contains codePoint = true ↔
          span.1 ≤ codePoint ∧ codePoint < min span.2 (UInt32.ofNat codePointLimit)) ∧
      (span.1.toNat ≤ codePointLimit →
        (Entry.ofSpan span.1 span.2).size.toNat =
            {codePoint | (Entry.ofSpan span.1 span.2).contains codePoint = true}.ncard ∧
          ((Entry.ofSpan span.1 span.2).isEmpty = true ↔
            ∀ codePoint, (Entry.ofSpan span.1 span.2).contains codePoint = false)) ∧
      (codePointLimit < span.1.toNat →
        (∀ codePoint, (Entry.ofSpan span.1 span.2).contains codePoint = false) ∧
          (Entry.ofSpan span.1 span.2).size.toNat =
            UInt32.size - (span.1.toNat - codePointLimit) ∧
          (Entry.ofSpan span.1 span.2).isEmpty = false)) ∧
    (ofEntries (spans.map fun span => .ofSpan span.1 span.2)).points.size ≤
        (spans.map fun span => (Entry.ofSpan span.1 span.2).size.toNat).sum ∧
      (spans.Pairwise (fun former latter =>
          ∀ codePoint,
            ¬ ((Entry.ofSpan former.1 former.2).contains codePoint = true ∧
              (Entry.ofSpan latter.1 latter.2).contains codePoint = true)) →
        ((ofEntries (spans.map fun span => .ofSpan span.1 span.2)).points.size =
            (spans.map fun span => (Entry.ofSpan span.1 span.2).size.toNat).sum ↔
          ∀ span ∈ spans, span.1.toNat ≤ codePointLimit)) := by
  constructor
  · intro span member
    refine ⟨?contains, ?inDomain, ?beyond⟩
    case contains =>
      intro codePoint
      rw [Entry.ofSpan, Entry.contains, Bool.and_eq_true, decide_eq_true_eq, decide_eq_true_eq]
    case inDomain =>
      intro inDomain
      have counted := Entry.toNat_size_ofSpan (ordered span member) inDomain
      rw [Entry.isEmpty_iff, counted, Entry.ncard_contains_ofSpan]
      exact ⟨rfl, Entry.ncard_points_eq_zero_iff⟩
    case beyond =>
      intro beyond
      have wrapped := Entry.toNat_size_ofSpan_beyond (ordered span member) beyond
      have none : (Material.ofSpan span.1 span.2).points.ncard = 0 := by
        rw [Entry.points_ofSpan_beyond beyond, Set.ncard_empty]
      refine ⟨Entry.ncard_points_eq_zero_iff.mp none, wrapped, ?_⟩
      have bounded := span.1.toNat_lt
      rw [← Bool.not_eq_true, Entry.isEmpty_iff, wrapped]
      unfold UInt32.size
      omega
  · refine ⟨(size_spans_le spans).trans (sum_ncard_le ordered), fun apart => ?_⟩
    have disjoint := apart.imp fun none => Entry.disjoint_points_iff.mpr none
    rw [size_spans_of_disjoint disjoint]
    exact sum_ncard_eq_iff ordered

/-- The lower case letters, and a span across the end of the domain. -/
def letterSpans : List (UInt32 × UInt32) :=
  [(0x61, 0x7B), (0x10FFFF, 0x110005)]

theorem counts_letterSpans :
    (∀ span ∈ letterSpans, span.1 ≤ span.2) ∧
      {codePoint | (Entry.ofSpan 0x61 0x7B).contains codePoint = true}.ncard = 26 ∧
        (ofEntries (letterSpans.map fun span => .ofSpan span.1 span.2)).points.size = 27 := by
  have ordered : ∀ span ∈ letterSpans, span.1 ≤ span.2 :=
    List.forall_mem_cons.mpr ⟨by decide, List.forall_mem_singleton.mpr (by decide)⟩
  have inDomain : ∀ span ∈ letterSpans, span.1.toNat ≤ codePointLimit :=
    List.forall_mem_cons.mpr ⟨by decide, List.forall_mem_singleton.mpr (by decide)⟩
  have apart :
      letterSpans.Pairwise fun former latter =>
        ∀ codePoint,
          ¬ ((Entry.ofSpan former.1 former.2).contains codePoint = true ∧
            (Entry.ofSpan latter.1 latter.2).contains codePoint = true) := by
    refine List.pairwise_pair.mpr (Entry.disjoint_points_iff.mp ?_)
    rw [Material.points_ofSpan, Material.points_ofSpan, Set.Ico_disjoint_Ico]
    decide
  obtain ⟨each, _, sums⟩ := counts_spans letterSpans ordered
  have counted := ((each (0x61, 0x7B) List.mem_cons_self).2.1 (by decide)).1
  exact ⟨ordered, counted.symm, (sums apart).mpr inDomain⟩

/-- A span that begins beyond the domain has nothing in it and is not called empty. -/
theorem isEmpty_spanBeyond :
    (0x110001 : UInt32) ≤ 0x110002 ∧
      (∀ codePoint, (Entry.ofSpan 0x110001 0x110002).contains codePoint = false) ∧
        (Entry.ofSpan 0x110001 0x110002).size = 0xFFFFFFFF ∧
          (Entry.ofSpan 0x110001 0x110002).isEmpty = false ∧
            (ofEntries [.ofSpan 0x110001 0x110002]).points.size = 0 := by
  have none : (Material.ofSpan 0x110001 0x110002).points.ncard = 0 := by
    rw [Entry.points_ofSpan_beyond (by decide), Set.ncard_empty]
  exact ⟨by decide, Entry.ncard_points_eq_zero_iff.mp none, by decide, by decide, by decide⟩

end Label

end LexicalAutomata
