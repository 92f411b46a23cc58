import LexicalAutomata.Label.Basic
import LexicalAutomata.Proofs.CodePointSet.Canonical
import Mathlib.Data.Set.Lattice

namespace LexicalAutomata.Label

/-!
# Putting labels together

An assembly is any way to arrive at a label: from nothing or from a list of
entries, by adding, by the complement and by the common part.  Next to the
label it builds stands the set of code points and the set of boundaries it
means, in the language of sets: the label is the one representation of these
two sets.
-/

/-- The code points of a label, as a set. -/
def pointSet
    (label : Label) :
    Set Nat :=
  {codePoint | codePoint ∈ label.points}

/-- The boundaries of a label, as a set. -/
def boundarySet
    (label : Label) :
    Set Boundary :=
  {boundary | boundary ∈ label.boundaries}

/-- Labels with the same code points and the same boundaries are equal. -/
theorem eq_iff
    {left right : Label} :
    left = right ↔
      left.pointSet = right.pointSet ∧ left.boundarySet = right.boundarySet := by
  constructor
  · rintro rfl
    exact ⟨rfl, rfl⟩
  · rintro ⟨samePoints, sameBoundaries⟩
    obtain ⟨leftPoints, leftBoundaries⟩ := left
    obtain ⟨rightPoints, rightBoundaries⟩ := right
    have points : leftPoints = rightPoints :=
      CodePointSet.ext fun codePoint => Set.ext_iff.mp samePoints codePoint
    have boundaries : leftBoundaries = rightBoundaries :=
      BoundarySet.ext fun boundary => Set.ext_iff.mp sameBoundaries boundary
    rw [points, boundaries]

@[simp] theorem pointSet_empty :
    empty.pointSet = ∅ := by
  ext codePoint
  simp [pointSet, empty]

@[simp] theorem boundarySet_empty :
    empty.boundarySet = ∅ := by
  ext boundary
  simp [boundarySet, empty]

@[simp] theorem pointSet_union
    (label other : Label) :
    (label.union other).pointSet = label.pointSet ∪ other.pointSet := by
  ext codePoint
  simp [pointSet, union]

@[simp] theorem boundarySet_union
    (label other : Label) :
    (label.union other).boundarySet = label.boundarySet ∪ other.boundarySet := by
  ext boundary
  simp [boundarySet, union]

@[simp] theorem pointSet_compl
    (label : Label) :
    label.compl.pointSet = Set.Iio codePointLimit \ label.pointSet := by
  ext codePoint
  simp [pointSet, compl]

@[simp] theorem boundarySet_compl
    (label : Label) :
    label.compl.boundarySet = label.boundarySet :=
  rfl

@[simp] theorem pointSet_inter
    (label other : Label) :
    (label.inter other).pointSet = label.pointSet ∩ other.pointSet := by
  ext codePoint
  simp [pointSet, inter]

@[simp] theorem boundarySet_inter
    (label other : Label) :
    (label.inter other).boundarySet = label.boundarySet ∩ other.boundarySet := by
  ext boundary
  simp [boundarySet, inter]

/-- How an entry is made: from the ends of a span, from a character or from a boundary. -/
inductive Material where
  | ofSpan (first limit : UInt32)
  | ofChar (char : Char)
  | ofBoundary (boundary : Boundary)

namespace Material

/-- The entry made. -/
def entry : Material → Entry
  | .ofSpan first limit =>
      .ofSpan first limit
  | .ofChar char =>
      .ofChar char
  | .ofBoundary boundary =>
      .boundary boundary

/-- The code points meant. -/
def points : Material → Set Nat
  | .ofSpan first limit =>
      Set.Ico first.toNat limit.toNat ∩ Set.Iio codePointLimit
  | .ofChar char =>
      {char.toNat}
  | .ofBoundary _ =>
      ∅

/-- The boundaries meant. -/
def boundaries : Material → Set Boundary
  | .ofSpan .. =>
      ∅
  | .ofChar _ =>
      ∅
  | .ofBoundary boundary =>
      {boundary}

end Material

/-- The upper end of a span, cut off at the end of the domain. -/
theorem toNat_min_codePointLimit
    (limit : UInt32) :
    (min limit (UInt32.ofNat codePointLimit)).toNat = min limit.toNat codePointLimit := by
  have domain : (UInt32.ofNat codePointLimit).toNat = codePointLimit := rfl
  rw [UInt32.toNat_min, domain]

/-- Adding an entry adds the code points it means. -/
@[simp] theorem pointSet_addEntry
    (label : Label)
    (material : Material) :
    (label.addEntry material.entry).pointSet = label.pointSet ∪ material.points := by
  cases material with
  | ofSpan first limit =>
      ext codePoint
      simp only [pointSet, Material.entry, Material.points, Entry.ofSpan, addEntry, addSpan,
        toNat_min_codePointLimit, CodePointSet.mem_addSpan, Set.mem_ofPred_eq, Set.mem_union,
        Set.mem_inter_iff, Set.mem_Ico, Set.mem_Iio, Nat.lt_min]
      tauto
  | ofChar char =>
      have next : (char.val + 1).toNat = char.toNat + 1 := by
        have bounded := toNat_lt_codePointLimit char
        unfold codePointLimit at bounded
        have one : (1 : UInt32).toNat = 1 := rfl
        rw [UInt32.toNat_add, one]
        exact Nat.mod_eq_of_lt (Nat.lt_of_le_of_lt bounded (by decide))
      ext codePoint
      simp only [pointSet, Material.entry, Material.points, Entry.ofChar, addEntry, addSpan, next]
      exact CodePointSet.mem_addChar.trans Or.comm
  | ofBoundary boundary =>
      simp [Material.entry, Material.points, addEntry, pointSet]

/-- Adding an entry adds the boundaries it means. -/
@[simp] theorem boundarySet_addEntry
    (label : Label)
    (material : Material) :
    (label.addEntry material.entry).boundarySet = label.boundarySet ∪ material.boundaries := by
  cases material with
  | ofSpan first limit =>
      simp [Material.entry, Material.boundaries, Entry.ofSpan, addEntry, addSpan, boundarySet]
  | ofChar char =>
      simp [Material.entry, Material.boundaries, Entry.ofChar, addEntry, addSpan, boundarySet]
  | ofBoundary boundary =>
      ext other
      simp [boundarySet, Material.entry, Material.boundaries, addEntry, or_comm]

/-- Adding entries adds the code points that any of them means. -/
theorem pointSet_addEntries
    (label : Label)
    (materials : List Material) :
    (label.addEntries (materials.map Material.entry)).pointSet =
      label.pointSet ∪ {codePoint | ∃ material ∈ materials, codePoint ∈ material.points} := by
  induction materials generalizing label with
  | nil =>
      simp [addEntries]
  | cons head rest inductionHypothesis =>
      have first :
          label.addEntries ((head :: rest).map Material.entry) =
            (label.addEntry head.entry).addEntries (rest.map Material.entry) :=
        rfl
      rw [first, inductionHypothesis, pointSet_addEntry, Set.union_assoc]
      congr 1
      ext codePoint
      simp

/-- Adding entries adds the boundaries that any of them means. -/
theorem boundarySet_addEntries
    (label : Label)
    (materials : List Material) :
    (label.addEntries (materials.map Material.entry)).boundarySet =
      label.boundarySet ∪ {boundary | ∃ material ∈ materials, boundary ∈ material.boundaries} := by
  induction materials generalizing label with
  | nil =>
      simp [addEntries]
  | cons head rest inductionHypothesis =>
      have first :
          label.addEntries ((head :: rest).map Material.entry) =
            (label.addEntry head.entry).addEntries (rest.map Material.entry) :=
        rfl
      rw [first, inductionHypothesis, boundarySet_addEntry, Set.union_assoc]
      congr 1
      ext boundary
      simp

/-- What can be added to a label without another label at hand. -/
inductive Addend where
  | entry (material : Material)
  | entries (materials : List Material)
  | char (value : Char)
  | charFolded (value : Char)
  | span (first limit : Nat)
  | spanFolded (first limit : Nat)

namespace Addend

/-- The label with the addend. -/
def addTo
    (label : Label) :
    Addend → Label
  | .entry material =>
      label.addEntry material.entry
  | .entries materials =>
      label.addEntries (materials.map Material.entry)
  | .char value =>
      label.addChar value
  | .charFolded value =>
      label.addCharFolded value
  | .span first limit =>
      label.addSpan first limit
  | .spanFolded first limit =>
      label.addSpanFolded first limit

/-- The code points of the counterparts that the characters of a set have. -/
def counterparts
    (points : Set Nat) :
    Set Nat :=
  {codePoint |
    ∃ char counterpart, char.toNat ∈ points ∧
      Unicode.caseCounterpart? char = some counterpart ∧
      codePoint = counterpart.toNat}

/-- The code points meant. -/
def points : Addend → Set Nat
  | .entry material =>
      material.points
  | .entries materials =>
      {codePoint | ∃ material ∈ materials, codePoint ∈ material.points}
  | .char value =>
      {value.toNat}
  | .charFolded value =>
      {value.toNat} ∪ counterparts {value.toNat}
  | .span first limit =>
      Set.Ico first limit ∩ Set.Iio codePointLimit
  | .spanFolded first limit =>
      Set.Ico first limit ∩ Set.Iio codePointLimit ∪ counterparts (Set.Ico first limit)

/-- The boundaries meant. -/
def boundaries : Addend → Set Boundary
  | .entry material =>
      material.boundaries
  | .entries materials =>
      {boundary | ∃ material ∈ materials, boundary ∈ material.boundaries}
  | .char _ =>
      ∅
  | .charFolded _ =>
      ∅
  | .span .. =>
      ∅
  | .spanFolded .. =>
      ∅

/-- An addend adds the code points it means. -/
theorem pointSet_addTo
    (label : Label)
    (addend : Addend) :
    (addend.addTo label).pointSet = label.pointSet ∪ addend.points := by
  cases addend with
  | entry material =>
      exact pointSet_addEntry label material
  | entries materials =>
      exact pointSet_addEntries label materials
  | char value =>
      ext codePoint
      exact CodePointSet.mem_addChar.trans Or.comm
  | charFolded value =>
      ext codePoint
      simp only [addTo, addCharFolded, pointSet, points, counterparts, Char.toNat_inj,
        CodePointSet.mem_addCharFolded, Set.mem_ofPred_eq, Set.mem_union, Set.mem_singleton_iff,
        exists_eq_left, exists_and_left]
      exact or_rotate.symm
  | span first limit =>
      ext codePoint
      simp only [addTo, addSpan, pointSet, points, CodePointSet.mem_addSpan, Set.mem_ofPred_eq,
        Set.mem_union, Set.mem_inter_iff, Set.mem_Ico, Set.mem_Iio]
      tauto
  | spanFolded first limit =>
      ext codePoint
      simp only [addTo, addSpanFolded, pointSet, points, counterparts,
        CodePointSet.mem_addSpanFolded, Set.mem_ofPred_eq, Set.mem_union, Set.mem_inter_iff,
        Set.mem_Ico, Set.mem_Iio, and_assoc]
      exact or_rotate.symm

/-- An addend adds the boundaries it means. -/
theorem boundarySet_addTo
    (label : Label)
    (addend : Addend) :
    (addend.addTo label).boundarySet = label.boundarySet ∪ addend.boundaries := by
  cases addend with
  | entry material =>
      exact boundarySet_addEntry label material
  | entries materials =>
      exact boundarySet_addEntries label materials
  | char value =>
      exact (Set.union_empty _).symm
  | charFolded value =>
      exact (Set.union_empty _).symm
  | span first limit =>
      exact (Set.union_empty _).symm
  | spanFolded first limit =>
      exact (Set.union_empty _).symm

end Addend

/-- A way to arrive at a label. -/
inductive Assembly where
  | empty
  | ofEntries (materials : List Material)
  | add (assembly : Assembly) (addend : Addend)
  | union (assembly other : Assembly)
  | compl (assembly : Assembly)
  | inter (assembly other : Assembly)

namespace Assembly

/-- The label arrived at. -/
def label : Assembly → Label
  | .empty =>
      .empty
  | .ofEntries materials =>
      .ofEntries (materials.map Material.entry)
  | .add assembly addend =>
      addend.addTo assembly.label
  | .union assembly other =>
      assembly.label.union other.label
  | .compl assembly =>
      assembly.label.compl
  | .inter assembly other =>
      assembly.label.inter other.label

/-- The code points meant. -/
def points : Assembly → Set Nat
  | .empty =>
      ∅
  | .ofEntries materials =>
      {codePoint | ∃ material ∈ materials, codePoint ∈ material.points}
  | .add assembly addend =>
      assembly.points ∪ addend.points
  | .union assembly other =>
      assembly.points ∪ other.points
  | .compl assembly =>
      Set.Iio codePointLimit \ assembly.points
  | .inter assembly other =>
      assembly.points ∩ other.points

/-- The boundaries meant: kept by the complement. -/
def boundaries : Assembly → Set Boundary
  | .empty =>
      ∅
  | .ofEntries materials =>
      {boundary | ∃ material ∈ materials, boundary ∈ material.boundaries}
  | .add assembly addend =>
      assembly.boundaries ∪ addend.boundaries
  | .union assembly other =>
      assembly.boundaries ∪ other.boundaries
  | .compl assembly =>
      assembly.boundaries
  | .inter assembly other =>
      assembly.boundaries ∩ other.boundaries

/-- The label has the code points that its assembly means. -/
theorem pointSet_label
    (assembly : Assembly) :
    assembly.label.pointSet = assembly.points := by
  induction assembly with
  | empty =>
      exact pointSet_empty
  | ofEntries materials =>
      rw [label, Label.ofEntries, pointSet_addEntries, pointSet_empty, Set.empty_union, points]
  | add assembly addend inductionHypothesis =>
      rw [label, Addend.pointSet_addTo, inductionHypothesis, points]
  | union assembly other inductionHypothesis otherHypothesis =>
      rw [label, pointSet_union, inductionHypothesis, otherHypothesis, points]
  | compl assembly inductionHypothesis =>
      rw [label, pointSet_compl, inductionHypothesis, points]
  | inter assembly other inductionHypothesis otherHypothesis =>
      rw [label, pointSet_inter, inductionHypothesis, otherHypothesis, points]

/-- The label has the boundaries that its assembly means. -/
theorem boundarySet_label
    (assembly : Assembly) :
    assembly.label.boundarySet = assembly.boundaries := by
  induction assembly with
  | empty =>
      exact boundarySet_empty
  | ofEntries materials =>
      rw [label, Label.ofEntries, boundarySet_addEntries, boundarySet_empty, Set.empty_union,
        boundaries]
  | add assembly addend inductionHypothesis =>
      rw [label, Addend.boundarySet_addTo, inductionHypothesis, boundaries]
  | union assembly other inductionHypothesis otherHypothesis =>
      rw [label, boundarySet_union, inductionHypothesis, otherHypothesis, boundaries]
  | compl assembly inductionHypothesis =>
      rw [label, boundarySet_compl, inductionHypothesis, boundaries]
  | inter assembly other inductionHypothesis otherHypothesis =>
      rw [label, boundarySet_inter, inductionHypothesis, otherHypothesis, boundaries]

/-- Assemblies arrive at one label exactly when they mean the same. -/
theorem label_eq_iff
    {left right : Assembly} :
    left.label = right.label ↔
      left.points = right.points ∧ left.boundaries = right.boundaries := by
  simp only [Label.eq_iff, pointSet_label, boundarySet_label]

/-- One step that adds, with an addend or with another assembly. -/
def join
    (assembly : Assembly) :
    Addend ⊕ Assembly → Assembly
  | .inl addend =>
      .add assembly addend
  | .inr other =>
      .union assembly other

/-- Two steps that add may change places. -/
theorem label_join_comm
    (assembly : Assembly)
    (first second : Addend ⊕ Assembly) :
    ((assembly.join first).join second).label = ((assembly.join second).join first).label := by
  rw [label_eq_iff]
  cases first <;> cases second <;> exact ⟨Set.union_right_comm .., Set.union_right_comm ..⟩

/-- A step that adds depends on the label only. -/
theorem label_join_congr
    {left right : Assembly}
    (same : left.label = right.label)
    (step : Addend ⊕ Assembly) :
    (left.join step).label = (right.join step).label := by
  cases step <;> simp only [join, label, same]

/-- So do several steps. -/
theorem label_foldl_join_congr
    {left right : Assembly}
    (same : left.label = right.label)
    (steps : List (Addend ⊕ Assembly)) :
    (steps.foldl join left).label = (steps.foldl join right).label := by
  induction steps generalizing left right with
  | nil =>
      exact same
  | cons step rest inductionHypothesis =>
      exact inductionHypothesis (label_join_congr same step)

/-- The order of steps that add does not matter. -/
theorem label_foldl_join_perm
    {steps shuffled : List (Addend ⊕ Assembly)}
    (shuffle : steps.Perm shuffled)
    (assembly : Assembly) :
    (steps.foldl join assembly).label = (shuffled.foldl join assembly).label := by
  induction shuffle generalizing assembly with
  | nil =>
      rfl
  | cons step _ inductionHypothesis =>
      exact inductionHypothesis (assembly.join step)
  | swap first second rest =>
      exact label_foldl_join_congr (label_join_comm assembly second first) rest
  | trans _ _ firstHypothesis secondHypothesis =>
      exact (firstHypothesis assembly).trans (secondHypothesis assembly)

/--
Whatever way a label is arrived at, its intervals are not empty, lie in the
domain and leave a gap between neighbours.  It contains exactly the code points
and boundaries meant and counts the former, so labels are equal exactly when
they mean the same: the order of additions does not matter, and the complement
undoes itself.
-/
theorem label_canonical
    (assembly : Assembly) :
    (∀ interval ∈ assembly.label.points.intervals,
      interval.first < interval.limit ∧ interval.limit ≤ codePointLimit) ∧
    assembly.label.points.intervals.Pairwise
      (fun earlier later => earlier.limit < later.first) ∧
    (∀ codePoint,
      assembly.label.points.contains codePoint = true ↔ codePoint ∈ assembly.points) ∧
    (∀ boundary,
      assembly.label.boundaries.contains boundary = true ↔ boundary ∈ assembly.boundaries) ∧
    assembly.points.encard = assembly.label.points.size ∧
    (∀ other : Assembly,
      assembly.label = other.label ↔
        assembly.points = other.points ∧ assembly.boundaries = other.boundaries) ∧
    (∀ steps shuffled : List (Addend ⊕ Assembly),
      steps.Perm shuffled →
        (steps.foldl join assembly).label = (shuffled.foldl join assembly).label) ∧
    assembly.label.compl.compl = assembly.label := by
  have spaced := assembly.label.points.spaced
  refine ⟨fun interval member => ⟨spaced.first_lt_limit member, spaced.limit_le member⟩,
    spaced.pairwise, ?contains, ?containsBoundary, ?size, fun other => label_eq_iff,
    fun steps shuffled shuffle => label_foldl_join_perm shuffle assembly, ?involution⟩
  case contains =>
    intro codePoint
    rw [CodePointSet.contains_iff, ← pointSet_label]
    rfl
  case containsBoundary =>
    intro boundary
    rw [BoundarySet.contains_iff, ← boundarySet_label]
    rfl
  case size =>
    rw [← pointSet_label]
    exact CodePointSet.encard_eq_size assembly.label.points
  case involution =>
    simp only [Label.compl, CodePointSet.compl_compl]

end Assembly

end LexicalAutomata.Label
