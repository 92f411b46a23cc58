import LexicalAutomata.Proofs.Automaton.Resolutions
import LexicalAutomata.Proofs.Automaton.Segments

namespace LexicalAutomata

/-!
# Splitting the code points

Between two neighbouring cuts all spans contain the same code points, so one transition
does for all of them.  The transitions of a list of nodes are ascending and disjoint,
they contain exactly the code points that some edge reads, and each leads to the key of
what is reached by reading any of its code points.
-/

/-- A transition is taken by reading a code point. -/
def Transition.Contains
    (transition : Transition)
    (codePoint : Nat) :
    Prop :=
  transition.first ≤ codePoint ∧ codePoint < transition.limit

namespace Graph

variable {τ : Type} {graph : Graph τ}

theorem mem_spans_iff
    {members : List Nat}
    {span : Transition} :
    span ∈ graph.spans members ↔
      ∃ id ∈ members,
        ∃ label,
          Edge.labelled label span.target ∈ (graph.node id).edges ∧
            ⟨span.first, span.limit⟩ ∈ label.points.intervals := by
  obtain ⟨first, limit, target⟩ := span
  simp only [spans, List.mem_flatMap]
  constructor
  · rintro ⟨id, member, edge, edgeMember, spanMember⟩
    cases edge with
    | silent _ =>
        simp [spansOf] at spanMember
    | labelled label other =>
        obtain ⟨interval, intervalMember, same⟩ := List.mem_map.mp spanMember
        cases same
        exact ⟨id, member, label, edgeMember, intervalMember⟩
  · rintro ⟨id, member, label, edgeMember, intervalMember⟩
    exact ⟨id, member, _, edgeMember, List.mem_map.mpr ⟨_, intervalMember, rfl⟩⟩

theorem mem_targetsAt
    {spans : List Transition}
    {codePoint target : Nat} :
    target ∈ targetsAt spans codePoint ↔
      ∃ span ∈ spans, span.Contains codePoint ∧ span.target = target := by
  simp only [targetsAt, mem_ascending, List.mem_map, List.mem_filter, Bool.and_eq_true,
    decide_eq_true_eq, Transition.Contains, and_assoc]

/-- The targets at a code point are the nodes that are reached by reading it. -/
theorem mem_targetsAt_spans
    {members : List Nat}
    {codePoint target : Nat} :
    target ∈ targetsAt (graph.spans members) codePoint ↔
      target ∈ graph.afterReading codePoint { id | id ∈ members } := by
  rw [mem_targetsAt]
  constructor
  · rintro ⟨span, member, contained, rfl⟩
    obtain ⟨id, listed, label, edgeMember, intervalMember⟩ := mem_spans_iff.mp member
    exact ⟨id, listed, label, edgeMember, _, intervalMember, contained⟩
  · rintro ⟨id, listed, label, edgeMember, interval, intervalMember, contained⟩
    exact ⟨⟨interval.first, interval.limit, target⟩,
      mem_spans_iff.mpr ⟨id, listed, label, edgeMember, intervalMember⟩, contained, rfl⟩

/-- A code point is read by some of the nodes when there are nodes behind it. -/
theorem targetsAt_spans_ne_nil_iff
    {members : List Nat}
    {codePoint : Nat} :
    targetsAt (graph.spans members) codePoint ≠ [] ↔
      (graph.afterReading codePoint { id | id ∈ members }).Nonempty := by
  constructor
  · intro read
    obtain ⟨target, member⟩ := List.exists_mem_of_ne_nil _ read
    exact ⟨target, mem_targetsAt_spans.mp member⟩
  · rintro ⟨target, member⟩
    exact List.ne_nil_of_mem (mem_targetsAt_spans.mpr member)

/-- Nothing is reached by reading from numbers that the graph does not have. -/
theorem Lists.mem_targetsAt_iff
    {members : List Nat}
    {nodes : Set Nat}
    (lists : graph.Lists members nodes)
    {codePoint target : Nat} :
    target ∈ targetsAt (graph.spans members) codePoint ↔
      target ∈ graph.afterReading codePoint nodes := by
  rw [mem_targetsAt_spans]
  constructor
  · rintro ⟨id, listed, reads⟩
    exact ⟨id, ((lists id).mp listed).2, reads⟩
  · rintro ⟨id, member, label, edgeMember, contained⟩
    exact ⟨id, (lists id).mpr ⟨lt_size_of_mem_edges edgeMember, member⟩, label, edgeMember,
      contained⟩

theorem Lists.targetsAt_ne_nil_iff
    {members : List Nat}
    {nodes : Set Nat}
    (lists : graph.Lists members nodes)
    (codePoint : Nat) :
    targetsAt (graph.spans members) codePoint ≠ [] ↔
      (graph.afterReading codePoint nodes).Nonempty := by
  rw [targetsAt_spans_ne_nil_iff]
  exact exists_congr fun target => mem_targetsAt_spans.symm.trans lists.mem_targetsAt_iff

/-- Between two neighbouring cuts the targets are the same everywhere. -/
theorem targetsAt_eq_of_between
    {spans : List Transition}
    {first limit codePoint : Nat}
    (uncut :
      ∀ span ∈ spans, ∀ cut ∈ [span.first, span.limit], cut ≤ first ∨ limit ≤ cut)
    (above : first ≤ codePoint)
    (below : codePoint < limit) :
    targetsAt spans codePoint = targetsAt spans first := by
  unfold targetsAt
  congr 2
  apply List.filter_congr
  intro span member
  have start := uncut span member span.first (by simp)
  have stop := uncut span member span.limit (by simp)
  rw [Bool.eq_iff_iff]
  simp only [Bool.and_eq_true, decide_eq_true_eq]
  omega

/-- The transitions for spans, as far as code points from `low` on are concerned. -/
structure SplitsInto
    (graph : Graph τ)
    (keys : Array Key)
    (spans : List Transition)
    (low : Nat)
    (transitions : List Transition) : Prop where
  ordered :
    transitions.Pairwise fun former latter => former.limit ≤ latter.first
  nonempty :
    ∀ transition ∈ transitions, transition.first < transition.limit
  above :
    ∀ transition ∈ transitions, low ≤ transition.first
  target :
    ∀ transition ∈ transitions, ∀ codePoint, transition.Contains codePoint →
      targetsAt spans codePoint ≠ [] ∧
        keys[transition.target]? =
          some ⟨graph.closure .empty (targetsAt spans codePoint), false⟩
  complete :
    ∀ codePoint, low ≤ codePoint → targetsAt spans codePoint ≠ [] →
      ∃ transition ∈ transitions, transition.Contains codePoint

section SplitsInto

variable {keys later : Array Key} {spans transitions : List Transition} {low : Nat}

theorem SplitsInto.mono
    (splits : graph.SplitsInto keys spans low transitions)
    (kept : KeyTable.Keeps keys later) :
    graph.SplitsInto later spans low transitions where
  ordered :=
    splits.ordered
  nonempty :=
    splits.nonempty
  above :=
    splits.above
  target transition member codePoint contained :=
    ⟨(splits.target transition member codePoint contained).1,
      kept _ _ (splits.target transition member codePoint contained).2⟩
  complete :=
    splits.complete

/-- The bound may be lowered over code points that no edge reads. -/
theorem SplitsInto.lower
    {lower : Nat}
    (splits : graph.SplitsInto keys spans low transitions)
    (le : lower ≤ low)
    (unread :
      ∀ codePoint, lower ≤ codePoint → codePoint < low → targetsAt spans codePoint = []) :
    graph.SplitsInto keys spans lower transitions where
  ordered :=
    splits.ordered
  nonempty :=
    splits.nonempty
  above transition member :=
    le.trans (splits.above transition member)
  target :=
    splits.target
  complete codePoint above read := by
    rcases Nat.lt_or_ge codePoint low with below | within
    · exact (read (unread codePoint above below)).elim
    · exact splits.complete codePoint within read

theorem splitsInto_nil
    (unread : ∀ codePoint, low ≤ codePoint → targetsAt spans codePoint = []) :
    graph.SplitsInto keys spans low [] where
  ordered :=
    .nil
  nonempty := by
    simp
  above := by
    simp
  target := by
    simp
  complete codePoint above read :=
    (read (unread codePoint above)).elim

/-- Up to the next transition, code points lead to one key. -/
def LeadsTo
    (graph : Graph τ)
    (keys : Array Key)
    (spans : List Transition)
    (first low number : Nat) :
    Prop :=
  ∀ codePoint, first ≤ codePoint → codePoint < low →
    targetsAt spans codePoint ≠ [] ∧
      keys[number]? = some ⟨graph.closure .empty (targetsAt spans codePoint), false⟩

/-- What is read from `first` on is read below `low`, or by one of the transitions. -/
theorem SplitsInto.below_or_contained
    (splits : graph.SplitsInto keys spans low transitions)
    {codePoint : Nat}
    (read : targetsAt spans codePoint ≠ []) :
    codePoint < low ∨ ∃ transition ∈ transitions, transition.Contains codePoint := by
  rcases Nat.lt_or_ge codePoint low with below | within
  · exact Or.inl below
  · exact Or.inr (splits.complete codePoint within read)

/-- A transition up to `low` is put in front. -/
theorem SplitsInto.cons
    (splits : graph.SplitsInto keys spans low transitions)
    {first number : Nat}
    (nonempty : first < low)
    (leads : graph.LeadsTo keys spans first low number) :
    graph.SplitsInto keys spans first (⟨first, low, number⟩ :: transitions) where
  ordered :=
    List.pairwise_cons.mpr ⟨fun transition member => splits.above transition member,
      splits.ordered⟩
  nonempty transition member := by
    rcases List.mem_cons.mp member with rfl | other
    · exact nonempty
    · exact splits.nonempty transition other
  above transition member := by
    rcases List.mem_cons.mp member with rfl | other
    · exact Nat.le_refl _
    · exact (Nat.le_of_lt nonempty).trans (splits.above transition other)
  target transition member codePoint contained := by
    rcases List.mem_cons.mp member with rfl | other
    · exact leads codePoint contained.1 contained.2
    · exact splits.target transition other codePoint contained
  complete codePoint above read := by
    rcases splits.below_or_contained read with below | ⟨transition, member, contained⟩
    · exact ⟨_, List.mem_cons_self, above, below⟩
    · exact ⟨transition, List.mem_cons_of_mem _ member, contained⟩

/-- A transition that leads to the same key is widened down to `first`. -/
theorem SplitsInto.widen
    {next : Transition}
    {others : List Transition}
    (splits : graph.SplitsInto keys spans low (next :: others))
    {first : Nat}
    (nonempty : first < low)
    (leads : graph.LeadsTo keys spans first low next.target)
    (touches : low = next.first) :
    graph.SplitsInto keys spans first (⟨first, next.limit, next.target⟩ :: others) where
  ordered :=
    List.pairwise_cons.mpr (List.pairwise_cons.mp splits.ordered)
  nonempty transition member := by
    rcases List.mem_cons.mp member with rfl | other
    · have := splits.nonempty next List.mem_cons_self
      simp only
      omega
    · exact splits.nonempty transition (List.mem_cons_of_mem _ other)
  above transition member := by
    rcases List.mem_cons.mp member with rfl | other
    · exact Nat.le_refl _
    · exact (Nat.le_of_lt nonempty).trans
        (splits.above transition (List.mem_cons_of_mem _ other))
  target transition member codePoint contained := by
    rcases List.mem_cons.mp member with rfl | other
    · rcases Nat.lt_or_ge codePoint low with below | within
      · exact leads codePoint contained.1 below
      · exact splits.target next List.mem_cons_self codePoint
          ⟨touches ▸ within, contained.2⟩
    · exact splits.target transition (List.mem_cons_of_mem _ other) codePoint contained
  complete codePoint above read := by
    rcases splits.below_or_contained read with below | ⟨transition, member, contained⟩
    · have := splits.nonempty next List.mem_cons_self
      exact ⟨_, List.mem_cons_self, above, by simp only; omega⟩
    · rcases List.mem_cons.mp member with rfl | other
      · exact ⟨_, List.mem_cons_self, above, contained.2⟩
      · exact ⟨transition, List.mem_cons_of_mem _ other, contained⟩

/-- A transition up to `low` is put in front, or joined with the one that it touches. -/
theorem SplitsInto.join
    (splits : graph.SplitsInto keys spans low transitions)
    {first number : Nat}
    (nonempty : first < low)
    (leads : graph.LeadsTo keys spans first low number) :
    graph.SplitsInto keys spans first
      (joinTransition ⟨first, low, number⟩ transitions) := by
  unfold joinTransition
  split
  · exact splits.cons nonempty leads
  · split
    · rename_i touching
      obtain ⟨touches, same⟩ := touching
      dsimp only at touches same
      rw [same] at leads
      exact splits.widen nonempty leads touches
    · exact splits.cons nonempty leads

end SplitsInto

/-- The transitions between cuts split what lies behind the first cut. -/
theorem splitsInto_transitionsBetween
    (graph : Graph τ)
    {table : KeyTable}
    {spans : List Transition}
    (consistent : table.Consistent)
    (first : Nat)
    (rest : List Nat)
    (ordered : (first :: rest).Pairwise (· < ·))
    (ends :
      ∀ span ∈ spans, ∀ cut ∈ [span.first, span.limit], cut ≤ first ∨ cut ∈ rest)
    {expected : Key → Prop}
    (asExpected :
      ∀ codePoint,
        targetsAt spans codePoint ≠ [] →
          expected ⟨graph.closure .empty (targetsAt spans codePoint), false⟩) :
    let result := graph.transitionsBetween spans (first :: rest) table
    KeyTable.Grows expected table result.2 ∧
      graph.SplitsInto result.2.keys spans first result.1 := by
  induction rest generalizing first table with
  | nil =>
      refine ⟨consistent.grows, splitsInto_nil ?_⟩
      intro codePoint above
      rw [List.eq_nil_iff_forall_not_mem]
      intro target member
      obtain ⟨span, spanMember, contained, _⟩ := mem_targetsAt.mp member
      have stop := ends span spanMember span.limit (by simp)
      simp only [List.not_mem_nil, or_false] at stop
      have := contained.2
      omega
  | cons limit rest inductionHypothesis =>
      obtain ⟨leads, restOrdered⟩ := List.pairwise_cons.mp ordered
      have less : first < limit :=
        leads limit List.mem_cons_self
      have later : ∀ cut ∈ limit :: rest, limit ≤ cut := by
        intro cut member
        rcases List.mem_cons.mp member with rfl | behind
        · exact Nat.le_refl _
        · exact Nat.le_of_lt ((List.pairwise_cons.mp restOrdered).1 cut behind)
      have uncut :
          ∀ span ∈ spans, ∀ cut ∈ [span.first, span.limit], cut ≤ first ∨ limit ≤ cut :=
        fun span spanMember cut cutMember =>
          (ends span spanMember cut cutMember).imp_right (later cut)
      have restEnds :
          ∀ span ∈ spans, ∀ cut ∈ [span.first, span.limit], cut ≤ limit ∨ cut ∈ rest := by
        intro span spanMember cut cutMember
        rcases ends span spanMember cut cutMember with before | member
        · exact Or.inl (before.trans (Nat.le_of_lt less))
        · rcases List.mem_cons.mp member with rfl | behind
          · exact Or.inl (Nat.le_refl _)
          · exact Or.inr behind
      by_cases unread : targetsAt spans first = []
      · have unfolded :
            graph.transitionsBetween spans (first :: limit :: rest) table =
              graph.transitionsBetween spans (limit :: rest) table := by
          rw [transitionsBetween]
          simp [unread]
        rw [unfolded]
        obtain ⟨grows, splits⟩ := inductionHypothesis consistent limit restOrdered restEnds
        refine ⟨grows, splits.lower (Nat.le_of_lt less) ?_⟩
        intro codePoint above below
        rw [targetsAt_eq_of_between uncut above below]
        exact unread
      · obtain ⟨grown, numbered⟩ :=
          consistent.intern expected
            ⟨graph.closure .empty (targetsAt spans first), false⟩
            (asExpected first unread)
        have unfolded :
            graph.transitionsBetween spans (first :: limit :: rest) table =
              let number :=
                KeyTable.intern ⟨graph.closure .empty (targetsAt spans first), false⟩ table
              let others := graph.transitionsBetween spans (limit :: rest) number.2
              (joinTransition ⟨first, limit, number.1⟩ others.1, others.2) := by
          rw [transitionsBetween]
          simp only [List.isEmpty_iff, unread, ↓reduceIte]
          rfl
        rw [unfolded]
        obtain ⟨grows, splits⟩ :=
          inductionHypothesis grown.consistent limit restOrdered restEnds
        refine ⟨grown.trans grows, splits.join less ?_⟩
        intro codePoint above below
        rw [targetsAt_eq_of_between uncut above below]
        exact ⟨unread, grows.keeps _ _ numbered⟩

/-- The transitions of a list of nodes split all code points. -/
theorem splitsInto_transitions
    (graph : Graph τ)
    {table : KeyTable}
    (consistent : table.Consistent)
    (members : List Nat)
    {expected : Key → Prop}
    (asExpected :
      ∀ codePoint,
        targetsAt (graph.spans members) codePoint ≠ [] →
          expected ⟨graph.closure .empty (targetsAt (graph.spans members) codePoint), false⟩) :
    let result := graph.transitions members table
    KeyTable.Grows expected table result.2 ∧
      graph.SplitsInto result.2.keys (graph.spans members) 0 result.1 := by
  rw [transitions_eq]
  have cutMember :
      ∀ span ∈ graph.spans members, ∀ cut ∈ [span.first, span.limit],
        cut ∈ cuts (graph.spans members) := by
    intro span spanMember cut member
    rw [cuts, mem_ascending, List.mem_flatMap]
    exact ⟨span, spanMember, member⟩
  have ordered : (cuts (graph.spans members)).Pairwise (· < ·) :=
    pairwise_ascending _
  cases found : cuts (graph.spans members) with
  | nil =>
      refine ⟨consistent.grows, splitsInto_nil ?_⟩
      intro codePoint _
      rw [List.eq_nil_iff_forall_not_mem]
      intro target member
      obtain ⟨span, spanMember, _⟩ := mem_targetsAt.mp member
      have := cutMember span spanMember span.first (by simp)
      rw [found] at this
      simp at this
  | cons first rest =>
      rw [found] at ordered cutMember
      obtain ⟨grows, splits⟩ :=
        graph.splitsInto_transitionsBetween consistent first rest ordered (by
          intro span spanMember cut member
          rcases List.mem_cons.mp (cutMember span spanMember cut member) with rfl | behind
          · exact Or.inl (Nat.le_refl _)
          · exact Or.inr behind) asExpected
      refine ⟨grows, splits.lower (Nat.zero_le _) ?_⟩
      intro codePoint _ below
      rw [List.eq_nil_iff_forall_not_mem]
      intro target member
      obtain ⟨span, spanMember, contained, _⟩ := mem_targetsAt.mp member
      have := contained.1
      rcases List.mem_cons.mp (cutMember span spanMember span.first (by simp)) with same | behind
      · omega
      · have := (List.pairwise_cons.mp ordered).1 _ behind
        omega

end Graph

namespace State

variable {τ : Type}

/-- In ascending transitions the first one that ends behind a code point is the one with it. -/
theorem find?_of_contains
    {transitions : List Transition}
    {transition : Transition}
    {codePoint : Nat}
    (ordered : transitions.Pairwise fun former latter => former.limit ≤ latter.first)
    (member : transition ∈ transitions)
    (contained : transition.Contains codePoint) :
    (transitions.find? fun other => decide (codePoint < other.limit)) = some transition := by
  induction transitions with
  | nil =>
      simp at member
  | cons head rest inductionHypothesis =>
      obtain ⟨before, restOrdered⟩ := List.pairwise_cons.mp ordered
      rcases List.mem_cons.mp member with rfl | later
      · rw [List.find?_cons_of_pos (by simpa using contained.2)]
      · have := before transition later
        have := contained.1
        rw [List.find?_cons_of_neg (by simp; omega)]
        exact inductionHypothesis restOrdered later

/-- A state reads a code point along the transition with it, and no other code point. -/
theorem next?_eq_some_iff
    {state : State τ}
    (ordered : state.transitions.Pairwise fun former latter => former.limit ≤ latter.first)
    {codePoint target : Nat} :
    state.next? codePoint = some target ↔
      ∃ transition ∈ state.transitions,
        transition.Contains codePoint ∧ transition.target = target := by
  unfold next?
  constructor
  · intro found
    split at found
    · contradiction
    · rename_i transition first
      split at found
      · rename_i above
        cases found
        exact ⟨transition, List.mem_of_find?_eq_some first,
          ⟨above, by simpa using List.find?_some first⟩, rfl⟩
      · contradiction
  · rintro ⟨transition, member, contained, rfl⟩
    rw [find?_of_contains ordered member contained]
    simp [contained.1]

end State

end LexicalAutomata
