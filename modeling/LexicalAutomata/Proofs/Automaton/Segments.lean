import LexicalAutomata.Automaton.OfGraph
import Mathlib.Data.List.Sort

namespace LexicalAutomata

/-!
# From segments to transitions

The nodes behind the spans are collected segment by segment, and the transitions are put
together from the front, with a memo of the keys that have been numbered.  All of that comes to
one sweep over the cuts: the nodes of a segment are those behind the spans that contain its first
code point, a key has the number that the memo remembers, and joining transitions from the front
is joining them from the back.
-/

/-- In an ascending list, the partition point of a bound is behind the numbers below it. -/
theorem lt_partitionPoint_iff
    {numbers : List Nat}
    (ordered : numbers.Pairwise (· < ·))
    {place number bound : Nat}
    (present : numbers[place]? = some number) :
    place < partitionPoint (· < bound) numbers ↔ number < bound := by
  induction numbers generalizing place with
  | nil =>
      simp at present
  | cons first rest inductionHypothesis =>
      obtain ⟨least, restOrdered⟩ := List.pairwise_cons.mp ordered
      by_cases below : first < bound
      · rw [partitionPoint_cons_of_pos rest (decide_eq_true below)]
        cases place with
        | zero =>
            cases present
            exact iff_of_true (Nat.zero_lt_succ _) below
        | succ place =>
            rw [Nat.add_lt_add_iff_right]
            exact inductionHypothesis restOrdered present
      · rw [partitionPoint_cons_of_neg rest (decide_eq_false below)]
        refine iff_of_false (Nat.not_lt_zero _) fun less => below ?_
        cases place with
        | zero =>
            cases present
            exact less
        | succ place =>
            exact (least number (List.mem_of_getElem? present)).trans less

/-- Lists with the same members have the same ascending list. -/
theorem ascending_congr
    {numbers others : List Nat}
    (same : ∀ number, number ∈ numbers ↔ number ∈ others) :
    ascending numbers = ascending others :=
  List.Pairwise.eq_of_mem_iff (pairwise_ascending _) (pairwise_ascending _) (by simp [same])

namespace Graph

variable {τ : Type} {graph : Graph τ}

/-- The nodes behind the spans that contain a code point. -/
def targetsAt
    (spans : List Transition)
    (codePoint : Nat) :
    List Nat :=
  ascending
    ((spans.filter fun span => span.first ≤ codePoint && codePoint < span.limit).map
      Transition.target)

/-- Put a transition in front of others; two that touch and have one target become one. -/
def joinTransition
    (transition : Transition)
    (rest : List Transition) :
    List Transition :=
  match rest with
  | [] =>
      [transition]
  | next :: others =>
      if transition.limit = next.first ∧ transition.target = next.target then
        ⟨transition.first, next.limit, next.target⟩ :: others
      else
        transition :: next :: others

/-- The transitions from one cut to the next, in one sweep. -/
def transitionsBetween
    (graph : Graph τ)
    (spans : List Transition) :
    List Nat →
    StateM KeyTable (List Transition)
  | first :: limit :: rest =>
      let targets := targetsAt spans first
      if targets.isEmpty then
        graph.transitionsBetween spans (limit :: rest)
      else do
        let target ← KeyTable.intern ⟨graph.closure .empty targets, false⟩
        return joinTransition ⟨first, limit, target⟩
          (← graph.transitionsBetween spans (limit :: rest))
  | _ =>
      return []

section Segments

variable (spans : List Transition) {place cut : Nat}

/-- A node is added to a list once. -/
theorem mem_addTarget
    {target other : Nat}
    {targets : List Nat} :
    other ∈ addTarget target targets ↔ other ∈ targets ∨ other = target := by
  unfold addTarget
  split
  · rename_i present
    exact ⟨Or.inl, fun found => found.elim id fun same => same ▸ present⟩
  · simp

/-- A span adds its node to the segments whose code points it contains. -/
theorem exists_fillSegments
    {cuts : List Nat}
    (ordered : cuts.Pairwise (· < ·))
    (isCut : cuts[place]? = some cut)
    {segments : List (List Nat)}
    {before : List Nat}
    (isSegment : segments[place]? = some before)
    (span : Transition) :
    ∃ after,
      (fillSegments cuts segments span)[place]? = some after ∧
        ∀ target,
          target ∈ after ↔
            target ∈ before ∨ (span.first ≤ cut ∧ cut < span.limit) ∧ span.target = target := by
  have covered :
      (partitionPoint (· < span.first) cuts ≤ place ∧
          place < partitionPoint (· < span.limit) cuts) ↔
        span.first ≤ cut ∧ cut < span.limit := by
    rw [← Nat.not_lt, lt_partitionPoint_iff ordered isCut, lt_partitionPoint_iff ordered isCut,
      Nat.not_lt]
  simp only [fillSegments, List.getElem?_mapIdx, isSegment, Option.map_some, covered]
  refine ⟨_, rfl, fun target => ?_⟩
  split
  · rename_i inside
    rw [mem_addTarget]
    exact or_congr_right (by simp [inside, eq_comm])
  · rename_i outside
    simp [outside]

/-- All spans together add the nodes behind those that contain the code points of a segment. -/
theorem exists_foldl_fillSegments
    {cuts : List Nat}
    (ordered : cuts.Pairwise (· < ·))
    (isCut : cuts[place]? = some cut)
    {segments : List (List Nat)}
    {before : List Nat}
    (isSegment : segments[place]? = some before) :
    ∃ after,
      (spans.foldl (fillSegments cuts) segments)[place]? = some after ∧
        ∀ target,
          target ∈ after ↔
            target ∈ before ∨
              ∃ span ∈ spans, (span.first ≤ cut ∧ cut < span.limit) ∧ span.target = target := by
  induction spans generalizing segments before with
  | nil =>
      exact ⟨before, isSegment, by simp⟩
  | cons span rest inductionHypothesis =>
      obtain ⟨between, isBetween, mem_between⟩ := exists_fillSegments ordered isCut isSegment span
      obtain ⟨after, isAfter, mem_after⟩ := inductionHypothesis isBetween
      refine ⟨after, isAfter, fun target => ?_⟩
      rw [mem_after, mem_between, List.exists_mem_cons_iff, or_assoc]

/-- Adding nodes makes no segments. -/
theorem length_foldl_fillSegments
    (cuts : List Nat)
    (segments : List (List Nat)) :
    (spans.foldl (fillSegments cuts) segments).length = segments.length := by
  induction spans generalizing segments with
  | nil =>
      rfl
  | cons span rest inductionHypothesis =>
      rw [List.foldl_cons, inductionHypothesis, fillSegments, List.length_mapIdx]

/-- There is a segment from each cut to the next. -/
theorem length_segments :
    (segments spans).length = (cuts spans).length - 1 := by
  rw [segments, length_foldl_fillSegments, List.length_replicate]

variable {spans}

/-- The nodes of a segment are those behind the spans that contain its first code point. -/
theorem ascending_segments
    {targets : List Nat}
    (isCut : (cuts spans)[place]? = some cut)
    (isSegment : (segments spans)[place]? = some targets) :
    ascending targets = targetsAt spans cut := by
  have inside := (List.getElem?_eq_some_iff.mp isSegment).1
  rw [length_segments] at inside
  have blank : (List.replicate ((cuts spans).length - 1) ([] : List Nat))[place]? = some [] := by
    rw [List.getElem?_replicate, if_pos inside]
  obtain ⟨after, isAfter, mem_after⟩ :=
    exists_foldl_fillSegments spans (pairwise_ascending _) isCut blank
  cases isSegment.symm.trans isAfter
  refine ascending_congr fun target => ?_
  rw [mem_after]
  simp [and_assoc]

/-- The segments of a span lie between the cuts, so that none of them is missing. -/
theorem partitionPoint_limit_le
    {span : Transition}
    (member : span ∈ spans)
    (ordered : span.first ≤ span.limit) :
    partitionPoint (· < span.first) (cuts spans) ≤ partitionPoint (· < span.limit) (cuts spans) ∧
      partitionPoint (· < span.limit) (cuts spans) ≤ (segments spans).length := by
  have isCut : span.limit ∈ cuts spans :=
    mem_ascending.mpr (List.mem_flatMap.mpr ⟨span, member, by simp⟩)
  have inside : partitionPoint (· < span.limit) (cuts spans) < (cuts spans).length :=
    List.findIdx_lt_length_of_exists ⟨_, isCut, by simp⟩
  constructor
  · refine Nat.le_of_not_lt fun less => ?_
    -- The cut there would be below the beginning of the span, but not below its end.
    have present := List.getElem?_eq_getElem inside
    have below := (lt_partitionPoint_iff (pairwise_ascending _) present).mp less
    exact Nat.lt_irrefl _ ((lt_partitionPoint_iff (pairwise_ascending _) present).mpr
      (below.trans_le ordered))
  · rw [length_segments]
    exact Nat.le_sub_one_of_lt inside

end Segments

section Joining

variable {last transition : Transition}

/-- What is put in front of a transition that was joined to others is joined to it first. -/
theorem joinTransition_of_touches
    (touches : last.limit = transition.first)
    (same : last.target = transition.target)
    (later : List Transition) :
    joinTransition last (joinTransition transition later) =
      joinTransition ⟨last.first, transition.limit, last.target⟩ later := by
  cases later with
  | nil =>
      simp [joinTransition, touches, same]
  | cons next others =>
      by_cases goesOn : transition.limit = next.first ∧ transition.target = next.target
      · simp [joinTransition, touches, same, goesOn]
      · simp [joinTransition, touches, same, goesOn]

/-- A transition that does not touch another one is put in front of it, joined or not. -/
theorem joinTransition_of_apart
    (apart : ¬ (last.limit = transition.first ∧ last.target = transition.target))
    (later : List Transition) :
    joinTransition last (joinTransition transition later) =
      last :: joinTransition transition later := by
  cases later with
  | nil =>
      exact if_neg apart
  | cons next others =>
      by_cases goesOn : transition.limit = next.first ∧ transition.target = next.target
      · obtain ⟨meets, same⟩ := goesOn
        rw [same] at apart
        simp [joinTransition, meets, same, apart]
      · simp [joinTransition, goesOn, apart]

/-- What has been put together, the last transition first, with what is still to come. -/
def joinBehind
    (done later : List Transition) :
    List Transition :=
  match done with
  | [] =>
      later
  | last :: others =>
      others.reverse ++ joinTransition last later

/-- Nothing is left to be joined. -/
theorem joinBehind_nil
    (done : List Transition) :
    joinBehind done [] = done.reverse := by
  cases done <;> simp [joinBehind, joinTransition]

/-- A transition may be joined to what is behind it before it is joined to what is in front. -/
theorem joinBehind_extendTransitions
    (done later : List Transition)
    (transition : Transition) :
    joinBehind (extendTransitions done transition) later =
      joinBehind done (joinTransition transition later) := by
  cases done with
  | nil =>
      rfl
  | cons last others =>
      rw [extendTransitions]
      split
      · rename_i touches
        rw [joinBehind, joinBehind, joinTransition_of_touches touches.1 touches.2]
      · rename_i apart
        rw [joinBehind, joinBehind, joinTransition_of_apart apart, List.reverse_cons,
          List.append_assoc, List.singleton_append]

end Joining

/-- The memo remembers numbers that the table has given to keys. -/
def Remembers
    (graph : Graph τ)
    (memo : Std.TreeMap (List Nat) Nat)
    (table : KeyTable) :
    Prop :=
  ∀ (targets : List Nat) (number : Nat),
    memo[targets]? = some number →
      table.numbers[Key.mk (graph.closure .empty targets) false]? = some number

section Sweep

variable {spans : List Transition} {memo : Std.TreeMap (List Nat) Nat} {table : KeyTable}

/-- A key that has been numbered keeps its number. -/
theorem intern_of_numbered
    {key : Key}
    {number : Nat}
    (numbered : table.numbers[key]? = some number) :
    KeyTable.intern key table = (number, table) := by
  simp only [KeyTable.intern, numbered]

/-- The number of a key is in the table from then on, and no other number has changed. -/
theorem numbers_intern
    (key : Key)
    (table : KeyTable) :
    (KeyTable.intern key table).2.numbers[key]? = some (KeyTable.intern key table).1 ∧
      ∀ (other : Key) (number : Nat),
        table.numbers[other]? = some number →
          (KeyTable.intern key table).2.numbers[other]? = some number := by
  unfold KeyTable.intern
  split
  · rename_i number numbered
    exact ⟨numbered, fun _ _ => id⟩
  · rename_i new
    refine ⟨by simp, fun other number numbered => ?_⟩
    rw [Std.TreeMap.getElem?_insert]
    split
    · rename_i same
      rw [Std.LawfulEqCmp.eq_of_compare same, numbered] at new
      contradiction
    · exact numbered

/-- Numbering the key of a list of nodes may be remembered. -/
theorem Remembers.insert
    (remembers : graph.Remembers memo table)
    (targets : List Nat) :
    let result := KeyTable.intern ⟨graph.closure .empty targets, false⟩ table
    graph.Remembers (memo.insert targets result.1) result.2 := by
  intro result other number remembered
  obtain ⟨isNumbered, keeps⟩ := numbers_intern ⟨graph.closure .empty targets, false⟩ table
  rw [Std.TreeMap.getElem?_insert] at remembered
  split at remembered
  · rename_i same
    cases remembered
    rw [← Std.LawfulEqCmp.eq_of_compare same]
    exact isNumbered
  · exact keeps _ _ (remembers other number remembered)

/-- A segment without nodes is passed over, as a cut without targets is. -/
theorem isEmpty_ascending
    (numbers : List Nat) :
    (ascending numbers).isEmpty = numbers.isEmpty := by
  rw [Bool.eq_iff_iff, List.isEmpty_iff, List.isEmpty_iff, List.eq_nil_iff_forall_not_mem,
    List.eq_nil_iff_forall_not_mem]
  simp

/-- The loop over the segments does what the sweep over the cuts does. -/
theorem transitionsFrom_eq
    {cuts : List Nat}
    {segments : List (List Nat)}
    (fills :
      List.Forall₂ (fun cut targets => ascending targets = targetsAt spans cut) cuts.dropLast
        segments)
    (remembers : graph.Remembers memo table)
    (done : List Transition) :
    graph.transitionsFrom memo done cuts segments table =
      (joinBehind done (graph.transitionsBetween spans cuts table).1,
        (graph.transitionsBetween spans cuts table).2) := by
  induction cuts generalizing segments memo table done with
  | nil =>
      cases fills
      exact congrArg (·, table) (joinBehind_nil done).symm
  | cons first behind inductionHypothesis =>
      cases behind with
      | nil =>
          cases fills
          exact congrArg (·, table) (joinBehind_nil done).symm
      | cons limit rest =>
          cases fills with
          | @cons _ targets _ segments filled fills =>
              rw [transitionsFrom, transitionsBetween, ← filled, isEmpty_ascending]
              split
              · exact inductionHypothesis fills remembers done
              · let key : Key := ⟨graph.closure .empty (ascending targets), false⟩
                -- Either way the key has the number that the table gives it.
                show _ =
                  (joinBehind done
                    (joinTransition ⟨first, limit, (KeyTable.intern key table).1⟩
                      (graph.transitionsBetween spans (limit :: rest)
                        (KeyTable.intern key table).2).1),
                    (graph.transitionsBetween spans (limit :: rest)
                      (KeyTable.intern key table).2).2)
                rw [← joinBehind_extendTransitions]
                cases remembered : memo[ascending targets]? with
                | some target =>
                    simp only [remembered, intern_of_numbered (remembers _ target remembered), key]
                    exact inductionHypothesis fills remembers _
                | none =>
                    simp only [remembered]
                    exact inductionHypothesis fills (remembers.insert (ascending targets)) _

/-- The transitions for a list of nodes are those of one sweep over the cuts. -/
theorem transitions_eq
    (graph : Graph τ)
    (members : List Nat) :
    graph.transitions members =
      graph.transitionsBetween (graph.spans members) (cuts (graph.spans members)) := by
  funext table
  have fills :
      List.Forall₂ (fun cut targets => ascending targets = targetsAt (graph.spans members) cut)
        (cuts (graph.spans members)).dropLast (segments (graph.spans members)) := by
    refine List.forall₂_iff_get.mpr ⟨by rw [List.length_dropLast, length_segments], ?_⟩
    intro place isCut isSegment
    apply ascending_segments
    · rw [List.get_eq_getElem, List.getElem_dropLast]
      exact List.getElem?_eq_getElem _
    · exact List.getElem?_eq_getElem isSegment
  have nothing : graph.Remembers ∅ table := by
    intro targets number remembered
    simp at remembered
  exact transitionsFrom_eq fills nothing []

end Sweep

end Graph

end LexicalAutomata
