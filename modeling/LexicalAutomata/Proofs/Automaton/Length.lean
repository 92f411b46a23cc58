import LexicalAutomata.Proofs.Automaton.Distances
import LexicalAutomata.Proofs.Automaton.PostOrder
import Mathlib.Data.Finset.Lattice.Fold
import Mathlib.Data.Int.LeastGreatest

namespace LexicalAutomata.Automaton

/-!
# The least and the greatest length

The two searches together find the least and the greatest length of the accepted runs, and
whether there is a greatest one.  A least one there always is, because enders are bounded.
-/

variable {τ : Type} {automaton : Automaton τ}

/-- The enders of an automaton are bounded. -/
theorem exists_enderLimit
    (automaton : Automaton τ) :
    ∃ most,
      ∀ id acceptance,
        automaton.acceptance id = some acceptance → acceptance.enderLength ≤ most := by
  let ender (id : Nat) : Nat := ((automaton.acceptance id).map Acceptance.enderLength).getD 0
  refine ⟨(Finset.range automaton.size).sup ender, ?_⟩
  intro id acceptance accepted
  have inside := lt_size_of_acceptance (Option.ne_none_iff_exists'.mpr ⟨acceptance, accepted⟩)
  have below := Finset.le_sup (f := ender) (Finset.mem_range.mpr inside)
  simpa only [ender, accepted, Option.map_some, Option.getD_some] using below

/-- There is a least accepted length if there is any. -/
theorem exists_isLeast
    (nonempty : (automaton.acceptedLengths automaton.start).Nonempty) :
    ∃ least, IsLeast (automaton.acceptedLengths automaton.start) least := by
  obtain ⟨most, atMost⟩ := automaton.exists_enderLimit
  have bounded :
      ∀ length, length ∈ automaton.acceptedLengths automaton.start → -(most : Int) ≤ length := by
    rintro _ ⟨_, characters, last, acceptance, _, accepted, rfl⟩
    have := atMost last acceptance accepted
    omega
  obtain ⟨least, member, isLeast⟩ := Int.exists_least_of_bdd ⟨_, bounded⟩ nonempty
  exact ⟨least, member, isLeast⟩

section Shortest

/-- The lengths to choose from are those of shortest runs to accepting states. -/
theorem shortestTo?_eq_some_iff
    {distances : Array (Option Nat)}
    {id length : Nat} :
    automaton.shortestTo? distances id = some length ↔
      ∃ distance acceptance,
        distances[id]?.join = some distance ∧
          automaton.acceptance id = some acceptance ∧
            distance - acceptance.enderLength = length := by
  unfold shortestTo?
  split
  · rename_i distance acceptance entered accepted
    simp [entered, accepted]
  · rename_i missing
    refine iff_of_false (by simp) ?_
    rintro ⟨distance, acceptance, entered, accepted, _⟩
    exact missing distance acceptance entered accepted

/-- The search finds the least length, if anything is accepted. -/
theorem shortest?_cases
    (automaton : Automaton τ) :
    (automaton.shortest? = none ∧ automaton.acceptedLengths automaton.start = ∅) ∨
      ∃ least,
        automaton.shortest? = some least ∧
          IsLeast (Int.toNat '' automaton.acceptedLengths automaton.start) least := by
  have candidate :
      ∀ length ∈ automaton.acceptedLengths automaton.start,
        ∃ shorter ≤ length.toNat,
          shorter ∈
            (List.range automaton.size).filterMap
              (automaton.shortestTo? automaton.distances) := by
    rintro _ ⟨edges, characters, last, acceptance, run, accepted, rfl⟩
    have inside := lt_size_of_acceptance (Option.ne_none_iff_exists'.mpr ⟨acceptance, accepted⟩)
    obtain ⟨distance, entered, le⟩ := exists_distance_le run inside
    refine ⟨distance - acceptance.enderLength, by omega, ?_⟩
    exact List.mem_filterMap.mpr ⟨last, List.mem_range.mpr inside,
      shortestTo?_eq_some_iff.mpr ⟨distance, acceptance, entered, accepted, rfl⟩⟩
  cases found : automaton.shortest? with
  | none =>
      refine Or.inl ⟨rfl, Set.eq_empty_iff_forall_notMem.mpr fun length member => ?_⟩
      obtain ⟨_, _, listed⟩ := candidate length member
      rw [List.min?_eq_none_iff.mp found] at listed
      contradiction
  | some least =>
      obtain ⟨listed, lowest⟩ := List.min?_eq_some_iff.mp found
      refine Or.inr ⟨least, rfl, ?_, ?_⟩
      · obtain ⟨id, _, isShortest⟩ := List.mem_filterMap.mp listed
        obtain ⟨distance, acceptance, entered, accepted, rfl⟩ :=
          shortestTo?_eq_some_iff.mp isShortest
        obtain ⟨edges, run⟩ := (isLeast_of_distances entered).1
        exact ⟨_, ⟨edges, distance, id, acceptance, run, accepted, rfl⟩, by omega⟩
      · rintro _ ⟨length, member, rfl⟩
        obtain ⟨shorter, le, among⟩ := candidate length member
        exact (lowest shorter among).trans le

end Shortest

/--
The lengths of an automaton are the least and the greatest one of its accepted runs.  There
is no greatest one when runs go on and on, and both are zero when nothing is accepted.
-/
theorem lengths_cases
    (automaton : Automaton τ) :
    (automaton.acceptedLengths automaton.start = ∅ ∧ automaton.lengths = (0, some 0)) ∨
      ∃ least,
        IsLeast (Int.toNat '' automaton.acceptedLengths automaton.start) least ∧
          ((¬ automaton.Bounded automaton.start ∧ automaton.lengths = (least, none)) ∨
            (automaton.Bounded automaton.start ∧
              ∃ most,
                IsGreatest (automaton.acceptedLengths automaton.start) most ∧
                  automaton.lengths = (least, some most.toNat))) := by
  unfold lengths
  rcases automaton.shortest?_cases with ⟨none, empty⟩ | ⟨least, found, isLeast⟩
  · rw [none]
    exact Or.inl ⟨empty, rfl⟩
  · rw [found]
    refine Or.inr ⟨least, isLeast, ?_⟩
    cases ordered : automaton.postOrder? with
    | none =>
        exact Or.inl ⟨automaton.postOrder?_eq_none_iff.mp ordered, rfl⟩
    | some order =>
        obtain ⟨postOrder, member⟩ := postOrder_of_postOrder? ordered
        have greatest := postOrder.longestLengths.2 _ member
        refine Or.inr ⟨postOrder.bounded _ member, ?_⟩
        cases longest : (automaton.longestLengths order.toList)[automaton.start]?.join with
        | none =>
            rw [longest] at greatest
            have empty : automaton.acceptedLengths automaton.start = ∅ := greatest
            obtain ⟨_, nonempty, _⟩ := isLeast.1
            rw [empty] at nonempty
            contradiction
        | some most =>
            rw [longest] at greatest
            refine ⟨most, greatest, ?_⟩
            simp only [longest]
            rfl

section Limits

/-- The least length is the least accepted one, unless an ender is longer than its run. -/
theorem minLength_eq_of_isLeast
    {least : Int}
    (isLeast : IsLeast (automaton.acceptedLengths automaton.start) least) :
    automaton.minLength = least.toNat := by
  have monotone : Monotone Int.toNat := fun _ _ le => Int.toNat_le_toNat le
  have image := monotone.map_isLeast isLeast
  rcases automaton.lengths_cases with ⟨empty, _⟩ | ⟨other, otherLeast, ⟨_, same⟩ | ⟨_, _, _, same⟩⟩
  · rw [empty] at isLeast
    exact isLeast.1.elim
  · rw [minLength, same, image.unique otherLeast]
  · rw [minLength, same, image.unique otherLeast]

/-- Nothing that is accepted is shorter than the least length. -/
theorem minLength_le
    {length : Int}
    (member : length ∈ automaton.acceptedLengths automaton.start) :
    automaton.minLength ≤ length.toNat := by
  obtain ⟨least, isLeast⟩ := exists_isLeast ⟨length, member⟩
  rw [minLength_eq_of_isLeast isLeast]
  exact Int.toNat_le_toNat (isLeast.2 member)

/-- There is no greatest length when runs go on and on, if anything is accepted. -/
theorem maxLength_eq_none_iff
    (nonempty : (automaton.acceptedLengths automaton.start).Nonempty) :
    automaton.maxLength = none ↔ ¬ automaton.Bounded automaton.start := by
  rcases automaton.lengths_cases with
    ⟨empty, _⟩ | ⟨_, _, ⟨unbounded, same⟩ | ⟨bounded, _, _, same⟩⟩
  · rw [empty] at nonempty
    exact (Set.not_nonempty_empty nonempty).elim
  · simp [maxLength, same, unbounded]
  · simp [maxLength, same, bounded]

/-- The greatest length is the greatest accepted one, if all runs come to an end. -/
theorem exists_isGreatest
    (nonempty : (automaton.acceptedLengths automaton.start).Nonempty)
    (bounded : automaton.Bounded automaton.start) :
    ∃ most,
      IsGreatest (automaton.acceptedLengths automaton.start) most ∧
        automaton.maxLength = some most.toNat := by
  rcases automaton.lengths_cases with
    ⟨empty, _⟩ | ⟨_, _, ⟨unbounded, _⟩ | ⟨_, most, isGreatest, same⟩⟩
  · rw [empty] at nonempty
    exact (Set.not_nonempty_empty nonempty).elim
  · exact (unbounded bounded).elim
  · exact ⟨most, isGreatest, by rw [maxLength, same]⟩

/-- Nothing that is accepted is longer than the greatest length. -/
theorem le_maxLength
    {length : Int}
    (member : length ∈ automaton.acceptedLengths automaton.start)
    {limit : Nat}
    (limited : automaton.maxLength = some limit) :
    length.toNat ≤ limit := by
  have bounded : automaton.Bounded automaton.start := by
    by_contra unbounded
    rw [(maxLength_eq_none_iff ⟨length, member⟩).mpr unbounded] at limited
    contradiction
  obtain ⟨most, isGreatest, same⟩ := exists_isGreatest ⟨length, member⟩ bounded
  rw [limited, Option.some.injEq] at same
  rw [same]
  exact Int.toNat_le_toNat (isGreatest.2 member)

/-- Both lengths are zero when nothing is accepted. -/
theorem lengths_of_acceptedLengths_eq_empty
    (empty : automaton.acceptedLengths automaton.start = ∅) :
    automaton.minLength = 0 ∧ automaton.maxLength = some 0 := by
  rcases automaton.lengths_cases with ⟨_, same⟩ | ⟨_, isLeast, _⟩
  · rw [minLength, maxLength, same]
    exact ⟨rfl, rfl⟩
  · rw [empty, Set.image_empty] at isLeast
    exact isLeast.1.elim

end Limits

end LexicalAutomata.Automaton
