import LexicalAutomata.Automaton.Length
import LexicalAutomata.Proofs.Automaton.Runs
import Mathlib.Order.Bounds.Basic

namespace LexicalAutomata

/-!
# The shortest runs

Each distance that the search enters is that of a run.  A state whose distance has become
shorter is put into the queue, so that at any moment the edges of the other states lead to
nothing nearer than what is known.  When the queue is empty this is so for all edges, and no
run has fewer characters than the distance of its last state.
-/

variable {τ : Type}

namespace Search

variable {search next : Search}

/-- The number of characters of the shortest run to a state that has been found. -/
def distance?
    (search : Search)
    (id : Nat) :
    Option Nat :=
  search.distances[id]?.join

/-- A run with at most this many characters has been found to a state. -/
def Within
    (search : Search)
    (id most : Nat) :
    Prop :=
  ∃ distance, search.distance? id = some distance ∧ distance ≤ most

/-- Distances become shorter, and where they do, the edges are to be followed again. -/
structure Shortens
    (search next : Search) : Prop where
  size : next.distances.size = search.distances.size
  within : ∀ {id most}, search.Within id most → next.Within id most
  kept :
    ∀ {id distance},
      next.distance? id = some distance →
        search.distance? id = some distance ∨ id ∈ next.queue
  queued : search.queue ⊆ next.queue

/-- A search has come as far as itself. -/
theorem Shortens.refl
    (search : Search) :
    search.Shortens search where
  size :=
    rfl
  within :=
    id
  kept :=
    Or.inl
  queued :=
    List.Subset.refl _

/-- What two parts of a search have shortened, both together have. -/
theorem Shortens.trans
    {last : Search}
    (front : search.Shortens next)
    (back : next.Shortens last) :
    search.Shortens last where
  size :=
    back.size.trans front.size
  within near :=
    back.within (front.within near)
  kept entered :=
    (back.kept entered).elim
      (fun before => (front.kept before).imp_right fun member => back.queued member)
      Or.inr
  queued :=
    List.Subset.trans front.queued back.queued

/-- A shorter run to a state has been found. -/
structure Enters
    (search next : Search)
    (target length : Nat) : Prop where
  inside : target < search.distances.size
  shorter : ∀ former, search.distance? target = some former → length < former
  size : next.distances.size = search.distances.size
  distance? : ∀ id, next.distance? id = if target = id then some length else search.distance? id
  mem_queue : ∀ id, id ∈ next.queue ↔ id = target ∨ id ∈ search.queue

/-- Following an edge does nothing, or it finds a shorter run to its target. -/
theorem relax_cases
    (distance : Nat)
    (search : Search)
    (edge : Nat × Nat) :
    (search.relax distance edge = search ∧
        (edge.1 < search.distances.size → search.Within edge.1 (distance + edge.2))) ∨
      search.Enters (search.relax distance edge) edge.1 (distance + edge.2) := by
  unfold relax
  split
  · rename_i outside
    rw [Array.getElem?_eq_none_iff] at outside
    exact Or.inl ⟨rfl, fun inside => (Nat.not_lt_of_le outside inside).elim⟩
  · rename_i known entered
    have isKnown : search.distance? edge.1 = known := by
      rw [distance?, entered, Option.join_some]
    obtain ⟨inside, _⟩ := Array.getElem?_eq_some_iff.mp entered
    split
    · rename_i shorter
      refine Or.inr ⟨inside, ?_, Array.size_setIfInBounds, ?_, ?_⟩
      · rw [isKnown]
        rintro former rfl
        simpa using shorter
      · intro id
        rw [distance?, Array.getElem?_setIfInBounds]
        split
        · rw [Option.join_some]
        · rfl
      · intro id
        dsimp only
        split
        · exact List.mem_cons
        · rw [List.mem_append, List.mem_singleton, or_comm]
    · rename_i notShorter
      refine Or.inl ⟨rfl, fun _ => ?_⟩
      cases known with
      | none =>
          simp at notShorter
      | some former =>
          exact ⟨former, isKnown, by simpa using notShorter⟩

/-- A shorter run that is entered shortens a search. -/
theorem Enters.shortens
    {target length : Nat}
    (enters : search.Enters next target length) :
    search.Shortens next where
  size :=
    enters.size
  within := by
    rintro id most ⟨former, found, le⟩
    unfold Within
    rw [enters.distance?]
    split
    · rename_i same
      subst same
      exact ⟨_, rfl, (Nat.le_of_lt (enters.shorter former found)).trans le⟩
    · exact ⟨former, found, le⟩
  kept := by
    intro id distance found
    rw [enters.distance?] at found
    split at found
    · rename_i same
      exact Or.inr ((enters.mem_queue id).mpr (Or.inl same.symm))
    · exact Or.inl found
  queued id member :=
    (enters.mem_queue id).mpr (Or.inr member)

/-- An edge that is followed shortens a search, or changes nothing. -/
theorem shortens_relax
    (distance : Nat)
    (search : Search)
    (edge : Nat × Nat) :
    search.Shortens (search.relax distance edge) := by
  rcases search.relax_cases distance edge with ⟨same, _⟩ | enters
  · rw [same]
    exact .refl search
  · exact enters.shortens

/-- Behind an edge that has been followed there is nothing nearer than what is known. -/
theorem within_relax
    (distance : Nat)
    (search : Search)
    {edge : Nat × Nat}
    (inside : edge.1 < search.distances.size) :
    (search.relax distance edge).Within edge.1 (distance + edge.2) := by
  rcases search.relax_cases distance edge with ⟨same, within⟩ | enters
  · rw [same]
    exact within inside
  · exact ⟨_, by rw [enters.distance?, if_pos rfl], Nat.le_refl _⟩

/-- All edges of a list are followed. -/
theorem shortens_foldl
    (distance : Nat)
    (search : Search)
    (edges : List (Nat × Nat)) :
    search.Shortens (edges.foldl (relax distance) search) ∧
      ∀ edge ∈ edges,
        edge.1 < search.distances.size →
          (edges.foldl (relax distance) search).Within edge.1 (distance + edge.2) := by
  induction edges generalizing search with
  | nil =>
      exact ⟨.refl search, by simp⟩
  | cons first rest inductionHypothesis =>
      have step := search.shortens_relax distance first
      obtain ⟨shortens, followed⟩ := inductionHypothesis (search.relax distance first)
      rw [List.foldl_cons]
      refine ⟨step.trans shortens, ?_⟩
      intro edge member inside
      rcases List.mem_cons.mp member with rfl | later
      · exact shortens.within (search.within_relax distance inside)
      · exact followed edge later (by rw [step.size]; exact inside)

end Search

namespace Automaton

variable {automaton : Automaton τ} {search : Search}

/-- Every distance that has been entered is that of a run from the start. -/
def Sound
    (automaton : Automaton τ)
    (search : Search) :
    Prop :=
  ∀ id distance,
    search.distance? id = some distance →
      ∃ edges, automaton.Run Set.univ edges distance automaton.start id

/-- Following edges behind a run enters the distances of runs. -/
theorem Sound.foldl
    (sound : automaton.Sound search)
    {id distance count : Nat}
    (run : automaton.Run Set.univ count distance automaton.start id)
    {edges : List (Nat × Nat)}
    (leads : edges ⊆ (automaton.state id).edges) :
    automaton.Sound (edges.foldl (Search.relax distance) search) := by
  induction edges generalizing search with
  | nil =>
      exact sound
  | cons edge rest inductionHypothesis =>
      obtain ⟨first, others⟩ := List.cons_subset.mp leads
      rw [List.foldl_cons]
      refine inductionHypothesis ?_ others
      rcases search.relax_cases distance edge with ⟨same, _⟩ | enters
      · rw [same]
        exact sound
      · intro other length entered
        rw [enters.distance?] at entered
        split at entered
        · rename_i same
          rw [← same, ← Option.some.inj entered]
          exact ⟨count + 1, run.concat first⟩
        · exact sound other length entered

/-- The edges of a state lead to nothing nearer than what is known. -/
def Relaxed
    (automaton : Automaton τ)
    (search : Search)
    (id distance : Nat) :
    Prop :=
  ∀ edge ∈ (automaton.state id).edges,
    edge.1 < automaton.size → search.Within edge.1 (distance + edge.2)

/-- A search has found runs, and is to follow the edges that may lead to shorter ones. -/
structure Searches
    (automaton : Automaton τ)
    (search : Search) : Prop where
  size : search.distances.size = automaton.size
  sound : automaton.Sound search
  start : automaton.start < automaton.size → search.Within automaton.start 0
  relaxed :
    ∀ id distance,
      search.distance? id = some distance →
        id ∈ search.queue ∨ automaton.Relaxed search id distance

/-- Nothing has been found at the start of a search but the empty run. -/
theorem searches_start
    (automaton : Automaton τ) :
    automaton.Searches (.start automaton.size automaton.start) := by
  have entries :
      ∀ id,
        (Search.start automaton.size automaton.start).distance? id =
          if automaton.start = id ∧ id < automaton.size then some 0 else none := by
    intro id
    rw [Search.distance?, Search.start, Array.getElem?_setIfInBounds, Array.getElem?_replicate,
      Array.size_replicate]
    by_cases same : automaton.start = id <;> by_cases inside : id < automaton.size <;>
      simp [same, inside]
  refine ⟨by simp [Search.start], ?_, ?_, ?_⟩
  · intro id distance entered
    rw [entries] at entered
    split at entered
    · rename_i isStart
      cases entered
      rw [← isStart.1]
      exact ⟨0, .nil (Set.mem_univ _)⟩
    · contradiction
  · intro inside
    exact ⟨0, by rw [entries, if_pos ⟨rfl, inside⟩], Nat.le_refl 0⟩
  · intro id distance entered
    rw [entries] at entered
    split at entered
    · rename_i isStart
      exact Or.inl (List.mem_singleton.mpr isStart.1.symm)
    · contradiction

section Next

variable {distances : Array (Option Nat)} {id : Nat} {rest : List Nat}

/-- A state without a distance leaves the queue. -/
theorem Searches.skip
    (searches : automaton.Searches ⟨distances, id :: rest⟩)
    (missing : distances[id]?.join = none) :
    automaton.Searches ⟨distances, rest⟩ where
  size :=
    searches.size
  sound :=
    searches.sound
  start :=
    searches.start
  relaxed other distance entered := by
    rcases searches.relaxed other distance entered with queued | relaxed
    · rcases List.mem_cons.mp queued with rfl | later
      · rw [Search.distance?, missing] at entered
        contradiction
      · exact Or.inl later
    · exact Or.inr relaxed

/-- A state leaves the queue when its edges have been followed. -/
theorem Searches.follow
    (searches : automaton.Searches ⟨distances, id :: rest⟩)
    {distance : Nat}
    (entered : distances[id]?.join = some distance) :
    automaton.Searches
      ((automaton.state id).edges.foldl (Search.relax distance) ⟨distances, rest⟩) := by
  obtain ⟨count, run⟩ := searches.sound id distance entered
  obtain ⟨shortens, followed⟩ :=
    Search.shortens_foldl distance ⟨distances, rest⟩ (automaton.state id).edges
  have size : distances.size = automaton.size := searches.size
  have sound : automaton.Sound ⟨distances, rest⟩ := searches.sound
  refine ⟨shortens.size.trans size, sound.foldl run (List.Subset.refl _),
    fun inside => shortens.within (searches.start inside), ?_⟩
  intro other length found
  rcases shortens.kept found with before | queued
  · by_cases same : other = id
    · subst same
      have sameLength : distance = length := Option.some.inj (entered.symm.trans before)
      subst sameLength
      exact Or.inr fun edge leads inside => followed edge leads (by rw [size]; exact inside)
    · rcases searches.relaxed other length before with queued | relaxed
      · rcases List.mem_cons.mp queued with isFirst | later
        · exact (same isFirst).elim
        · exact Or.inl (shortens.queued later)
      · exact Or.inr fun edge leads inside => shortens.within (relaxed edge leads inside)
  · exact Or.inl queued

end Next

/-- The search ends with distances that no edge makes shorter. -/
theorem Searches.distancesFrom
    (searches : automaton.Searches search) :
    automaton.Searches ⟨automaton.distancesFrom search, []⟩ := by
  fun_induction Automaton.distancesFrom automaton search with
  | case1 distances =>
      exact searches
  | case2 distances id rest missing inductionHypothesis =>
      exact inductionHypothesis (searches.skip missing)
  | case3 distances id rest distance entered inductionHypothesis =>
      exact inductionHypothesis (searches.follow entered)

/-- At the end, no run has fewer characters than the distance of its last state. -/
theorem Searches.within_of_run
    {distances : Array (Option Nat)}
    (searches : automaton.Searches ⟨distances, []⟩)
    {edges characters id last most : Nat}
    (run : automaton.Run Set.univ edges characters id last)
    (inside : last < automaton.size)
    (near : id < automaton.size → Search.Within ⟨distances, []⟩ id most) :
    Search.Within ⟨distances, []⟩ last (most + characters) := by
  induction run generalizing most with
  | nil _ =>
      exact near inside
  | @cons edges characters id next amount last _ leads rest inductionHypothesis =>
      rw [← Nat.add_assoc]
      refine inductionHypothesis inside fun nextInside => ?_
      obtain ⟨distance, entered, le⟩ := near (lt_size_of_mem_stateEdges leads)
      rcases searches.relaxed id distance entered with queued | relaxed
      · contradiction
      · obtain ⟨further, found, furtherLe⟩ := relaxed (next, amount) leads nextInside
        exact ⟨further, found, furtherLe.trans (Nat.add_le_add_right le amount)⟩

/-- A run has at least as many characters as the distance of its last state, which is known. -/
theorem exists_distance_le
    {edges characters last : Nat}
    (run : automaton.Run Set.univ edges characters automaton.start last)
    (inside : last < automaton.size) :
    ∃ distance, automaton.distances[last]?.join = some distance ∧ distance ≤ characters := by
  have searches := automaton.searches_start.distancesFrom
  have within := searches.within_of_run run inside searches.start
  rw [Nat.zero_add] at within
  exact within

/-- The distance of a state is the least number of characters of a run to it. -/
theorem isLeast_of_distances
    {id distance : Nat}
    (entered : automaton.distances[id]?.join = some distance) :
    IsLeast
      { characters | ∃ edges, automaton.Run Set.univ edges characters automaton.start id }
      distance := by
  have searches := automaton.searches_start.distancesFrom
  refine ⟨searches.sound id distance entered, ?_⟩
  rintro characters ⟨edges, run⟩
  have inside : id < automaton.size := by
    rw [← searches.size]
    exact (Array.getElem?_eq_some_iff.mp (Option.join_eq_some_iff.mp entered)).1
  obtain ⟨known, same, le⟩ := exists_distance_le run inside
  rw [entered] at same
  cases same
  exact le

end Automaton

end LexicalAutomata
