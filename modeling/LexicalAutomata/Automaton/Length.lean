import LexicalAutomata.Automaton.Basic

namespace LexicalAutomata

/-!
# Lengths of accepted runs

The shortest runs are found breadth first, where a resolution costs nothing and a transition
one character.  The longest ones are found depth first: if no edge leads back to a state that
has not been left yet, the states are left in an order in which each of them comes behind its
successors, and the longest run from a state follows from those of its successors.
-/

variable {τ : Type}

/-- The runs that a search has found, and the states whose edges are still to be followed. -/
structure Search where
  /-- For each state, how many characters the shortest run to it has that has been found. -/
  distances : Array (Option Nat)
  queue : List Nat

namespace Search

/-- Nothing has been found but the run that does not leave a state. -/
def start
    (size id : Nat) :
    Search where
  distances :=
    (Array.replicate size none).setIfInBounds id (some 0)
  queue :=
    [id]

/--
Follow an edge that begins at a distance from the start.  If this is a shorter run, the edges
of its target are to be followed: at once if the edge reads nothing, else in their turn.
-/
def relax
    (distance : Nat)
    (search : Search)
    (edge : Nat × Nat) :
    Search :=
  match search.distances[edge.1]? with
  | none =>
      search
  | some known =>
      if known.all fun length => distance + edge.2 < length then
        { distances := search.distances.setIfInBounds edge.1 (some (distance + edge.2))
          queue :=
            if edge.2 = 0 then
              edge.1 :: search.queue
            else
              search.queue ++ [edge.1] }
      else
        search

/-- The number of states to which no run has been found. -/
def missing
    (search : Search) :
    Nat :=
  search.distances.countP Option.isNone

/-- The number of characters of all runs that have been found. -/
def total
    (search : Search) :
    Nat :=
  search.distances.toList.foldr (fun length total => length.getD 0 + total) 0

/-- A search has come further than another one, or it is the same. -/
def Advances
    (former next : Search) :
    Prop :=
  next = former ∨
    next.missing < former.missing ∨ (next.missing = former.missing ∧ next.total < former.total)

/-- Two advances are one. -/
theorem Advances.trans
    {first second third : Search}
    (front : first.Advances second)
    (back : second.Advances third) :
    first.Advances third := by
  rcases front with rfl | front
  · exact back
  · rcases back with rfl | back
    · exact Or.inr front
    · exact Or.inr (by omega)

/-- A shorter run to a state makes all runs together shorter. -/
theorem foldr_set_lt
    {lengths : List (Option Nat)}
    {id former length : Nat}
    (known : lengths[id]? = some (some former))
    (less : length < former) :
    (lengths.set id (some length)).foldr (fun length total => length.getD 0 + total) 0 <
      lengths.foldr (fun length total => length.getD 0 + total) 0 := by
  induction lengths generalizing id with
  | nil =>
      simp at known
  | cons first rest inductionHypothesis =>
      cases id with
      | zero =>
          simp only [List.getElem?_cons_zero, Option.some.injEq] at known
          simp [known, less]
      | succ id =>
          have := inductionHypothesis (by simpa using known)
          simp only [List.set_cons_succ, List.foldr_cons]
          omega

/-- A search advances by each edge that it follows. -/
theorem advances_relax
    (distance : Nat)
    (search : Search)
    (edge : Nat × Nat) :
    search.Advances (search.relax distance edge) := by
  unfold relax
  split
  · exact Or.inl rfl
  · rename_i known entered
    obtain ⟨inside, same⟩ := Array.getElem?_eq_some_iff.mp entered
    split
    · rename_i shorter
      right
      cases known with
      | none =>
          exact Or.inl (countP_setIfInBounds_lt entered rfl rfl)
      | some former =>
          right
          simp only [missing, total, Array.setIfInBounds_def, dif_pos inside, Array.countP_set,
            same, Array.toList_set]
          refine ⟨by simp, foldr_set_lt ?_ (by simpa using shorter)⟩
          rw [Array.getElem?_toList]
          exact entered
    · exact Or.inl rfl

/-- A search advances by all edges of a state. -/
theorem advances_foldl
    (distance : Nat)
    (search : Search)
    (edges : List (Nat × Nat)) :
    search.Advances (edges.foldl (relax distance) search) := by
  induction edges generalizing search with
  | nil =>
      exact Or.inl rfl
  | cons edge rest inductionHypothesis =>
      exact (search.advances_relax distance edge).trans (inductionHypothesis _)

end Search

namespace Automaton

/-- Follow the edges of the states in the queue until there are no more of them. -/
def distancesFrom
    (automaton : Automaton τ) :
    Search →
    Array (Option Nat)
  | ⟨distances, []⟩ =>
      distances
  | ⟨distances, id :: rest⟩ =>
      match distances[id]?.join with
      | none =>
          automaton.distancesFrom ⟨distances, rest⟩
      | some distance =>
          automaton.distancesFrom
            ((automaton.state id).edges.foldl (Search.relax distance) ⟨distances, rest⟩)
  termination_by search => (search.missing, search.total, search.queue.length)
  decreasing_by
    · exact .right _ (.right _ (by simp))
    · rcases Search.advances_foldl distance ⟨distances, rest⟩ (automaton.state id).edges with
        same | less | ⟨same, less⟩
      · rw [same]
        exact .right _ (.right _ (by simp))
      · exact .left _ _ less
      · exact .right' _ (Nat.le_of_eq same) (.left _ _ less)

/-- The number of characters of the shortest run to each state. -/
def distances
    (automaton : Automaton τ) :
    Array (Option Nat) :=
  automaton.distancesFrom (.start automaton.size automaton.start)

/-- The number of characters that a run to a state has at least, if its ender is taken off. -/
def shortestTo?
    (automaton : Automaton τ)
    (distances : Array (Option Nat))
    (id : Nat) :
    Option Nat :=
  match distances[id]?.join, automaton.acceptance id with
  | some distance, some acceptance =>
      some (distance - acceptance.enderLength)
  | _, _ =>
      none

/-- The length of the shortest accepted run with its ender taken off, if there is such a run. -/
def shortest?
    (automaton : Automaton τ) :
    Option Nat :=
  ((List.range automaton.size).filterMap (automaton.shortestTo? automaton.distances)).min?

/-- What a depth-first search has done with a state. -/
inductive Mark where
  | new
  /-- It has not followed all edges of the state. -/
  | entered
  | left
  deriving DecidableEq

/-- The number of states that have not been entered. -/
def unvisited
    (marks : Array Mark) :
    Nat :=
  marks.countP (· == .new)

/-- The number of edges that are still to be followed from the states of a path. -/
def pendingEdges
    (automaton : Automaton τ)
    (path : List (Nat × Nat)) :
    Nat :=
  path.foldr
    (fun entry pending => (automaton.state entry.1).edges.length - entry.2 + 1 + pending) 0

/-- A state that is entered is no longer unvisited. -/
theorem unvisited_enter_lt
    {marks : Array Mark}
    {id : Nat}
    (new : marks[id]? = some .new) :
    unvisited (marks.setIfInBounds id .entered) < unvisited marks :=
  countP_setIfInBounds_lt new rfl rfl

/-- Leaving a state makes no other one unvisited. -/
theorem unvisited_leave_le
    (marks : Array Mark)
    (id : Nat) :
    unvisited (marks.setIfInBounds id .left) ≤ unvisited marks := by
  simp only [unvisited, Array.setIfInBounds_def]
  split
  · simp [Array.countP_set]
  · exact Nat.le_refl _

/--
Follow edges from the first state of a path, which leads to it from its last one; beside each
state stands the number of its edges that have been followed.  The states are listed in the
order in which they are left, unless an edge leads back into the path.
-/
def postOrderFrom
    (automaton : Automaton τ)
    (marks : Array Mark)
    (order : Array Nat) :
    (path : List (Nat × Nat)) →
    Option (Array Nat)
  | [] =>
      some order
  | (id, count) :: rest =>
      match _ : (automaton.state id).edges[count]? with
      | none =>
          automaton.postOrderFrom (marks.setIfInBounds id .left) (order.push id) rest
      | some edge =>
          match _ : marks[edge.1]? with
          | some .new =>
              automaton.postOrderFrom (marks.setIfInBounds edge.1 .entered) order
                ((edge.1, 0) :: (id, count + 1) :: rest)
          | some .entered =>
              none
          | some .left | none =>
              automaton.postOrderFrom marks order ((id, count + 1) :: rest)
  termination_by path => (unvisited marks, automaton.pendingEdges path)
  decreasing_by
    · exact .right' _ (unvisited_leave_le marks id) (by simp [pendingEdges])
    · exact .left _ _ (unvisited_enter_lt ‹_›)
    all_goals
      have := (List.getElem?_eq_some_iff.mp ‹(automaton.state id).edges[count]? = some edge›).1
      exact .right _ (by simp [pendingEdges]; omega)

/-- The states that the start leads to, each behind its successors, unless there is a cycle. -/
def postOrder?
    (automaton : Automaton τ) :
    Option (Array Nat) :=
  automaton.postOrderFrom
    ((Array.replicate automaton.size .new).setIfInBounds automaton.start .entered) #[]
    [(automaton.start, 0)]

/-- Of two lengths the greater one, or the one that there is. -/
def longer
    (best : Option Int) :
    Option Int →
    Option Int
  | none =>
      best
  | some length =>
      some (best.elim length fun known => max known length)

/--
The length of the longest accepted run from a state, if there is one, when those of its
successors are known.  An ender is taken off, so that a length may be negative.
-/
def longestFrom
    (automaton : Automaton τ)
    (table : Array (Option Int))
    (id : Nat) :
    Option Int :=
  (automaton.state id).edges.foldl
    (fun best edge => longer best (table[edge.1]?.join.map fun length => length + edge.2))
    ((automaton.acceptance id).map fun acceptance => -acceptance.enderLength)

/-- The lengths of the longest accepted runs from the states of a list, one after the other. -/
def longestLengths
    (automaton : Automaton τ)
    (order : List Nat) :
    Array (Option Int) :=
  order.foldl (fun table id => table.setIfInBounds id (automaton.longestFrom table id))
    (Array.replicate automaton.size none)

/--
The lengths of the shortest and of the longest accepted run, where no run is shorter than its
ender.  There is no longest run if there is a cycle, and both lengths are zero if nothing is
accepted at all.
-/
def lengths
    (automaton : Automaton τ) :
    Nat × Option Nat :=
  match automaton.shortest? with
  | none =>
      (0, some 0)
  | some least =>
      match automaton.postOrder? with
      | none =>
          (least, none)
      | some order =>
          let longest := (automaton.longestLengths order.toList)[automaton.start]?.join
          (least, some (longest.getD 0).toNat)

/-- The length of the shortest accepted run; zero if there is none. -/
def minLength
    (automaton : Automaton τ) :
    Nat :=
  automaton.lengths.1

/-- The length of the longest accepted run, if there is a limit; zero if there is no such run. -/
def maxLength
    (automaton : Automaton τ) :
    Option Nat :=
  automaton.lengths.2

end Automaton

end LexicalAutomata
