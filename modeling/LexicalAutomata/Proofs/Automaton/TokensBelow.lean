import LexicalAutomata.Abbreviations
import LexicalAutomata.Proofs.Automaton.Liveness
import Mathlib.Data.Set.Insert

namespace LexicalAutomata

/-!
# The tokens below a state

A search visits the states below a state, each of them once, and gives up as soon as it has
met two tokens.  Every state that has been seen is still on the stack, or else it has been
visited: its token is the one that has been found, and its successors have been seen.  So when
the stack is empty, the token that has been found is the only one below the state.
-/

variable {τ : Type}

/-- A state with a token accepts something. -/
theorem Automaton.acceptance_ne_none_of_token?
    {automaton : Automaton τ}
    {id : Nat}
    {token : τ}
    (stored : automaton.token? id = some token) :
    automaton.acceptance id ≠ none := by
  intro none
  rw [token?, none] at stored
  contradiction

namespace Abbreviations

variable {automaton : Automaton τ}

/-- The tokens of the states that a state leads to. -/
def tokensBelow
    (automaton : Automaton τ)
    (id : Nat) :
    Set τ :=
  { token |
    ∃ last,
      Relation.ReflTransGen automaton.LeadsTo id last ∧ automaton.token? last = some token }

namespace Frontier

/-- Some states have been put on the stack, unless they had been seen. -/
structure Discovers
    (before : Frontier)
    (states : List Nat)
    (after : Frontier) : Prop where
  size : after.seen.size = before.seen.size
  keeps : ∀ id : Nat, before.seen[id]? = some true → after.seen[id]? = some true
  waits : ∀ id : Nat, after.seen[id]? = some true → before.seen[id]? = some true ∨ id ∈ after.stack
  grows : ∀ id ∈ before.stack, id ∈ after.stack
  origin : ∀ id ∈ after.stack, id ∈ before.stack ∨ id ∈ states
  seen : ∀ id : Nat, id ∈ states → id < before.seen.size → after.seen[id]? = some true

/-- A state that is discovered is on the stack, or it had been seen. -/
theorem discovers_discover
    (frontier : Frontier)
    (next : Nat) :
    frontier.Discovers [next] (frontier.discover next) := by
  unfold discover
  split
  · rename_i unseen
    have inside := (Array.getElem?_eq_some_iff.mp unseen).1
    refine ⟨Array.size_setIfInBounds, ?_, ?_, fun id => List.mem_cons_of_mem next, ?_, ?_⟩
    · intro id seen
      rw [Array.getElem?_setIfInBounds, seen]
      split <;> simp_all
    · intro id seen
      rw [Array.getElem?_setIfInBounds] at seen
      split at seen
      · rename_i same
        exact Or.inr (same ▸ List.mem_cons_self)
      · exact Or.inl seen
    · intro id member
      exact (List.mem_cons.mp member).symm.imp_right List.mem_singleton.mpr
    · intro id member _
      rw [List.mem_singleton.mp member, Array.getElem?_setIfInBounds_self_of_lt inside]
  · rename_i unseen
    refine ⟨rfl, fun _ seen => seen, fun _ => Or.inl, fun _ => id, fun _ => Or.inl, ?_⟩
    intro id member inside
    rw [List.mem_singleton.mp member] at inside ⊢
    rw [Array.getElem?_eq_getElem inside] at unseen ⊢
    simpa using unseen

/-- Discovering some states and then others discovers them all. -/
theorem Discovers.append
    {first second third : Frontier}
    {front back : List Nat}
    (begins : first.Discovers front second)
    (goesOn : second.Discovers back third) :
    first.Discovers (front ++ back) third where
  size :=
    goesOn.size.trans begins.size
  keeps id seen :=
    goesOn.keeps id (begins.keeps id seen)
  waits id seen := by
    rcases goesOn.waits id seen with before | waiting
    · exact (begins.waits id before).imp_right (goesOn.grows id)
    · exact Or.inr waiting
  grows id member :=
    goesOn.grows id (begins.grows id member)
  origin id member := by
    rw [List.mem_append, ← or_assoc]
    exact (goesOn.origin id member).imp_left (begins.origin id)
  seen id member inside := by
    rcases List.mem_append.mp member with early | late
    · exact goesOn.keeps id (begins.seen id early inside)
    · exact goesOn.seen id late (begins.size ▸ inside)

/-- All states of a list are discovered one after the other. -/
theorem discovers_foldl
    (frontier : Frontier)
    (states : List Nat) :
    frontier.Discovers states (states.foldl discover frontier) := by
  induction states generalizing frontier with
  | nil =>
      exact ⟨rfl, fun _ => id, fun _ => Or.inl, fun _ => id, fun _ => Or.inl,
        fun _ => (absurd · List.not_mem_nil)⟩
  | cons next rest inductionHypothesis =>
      exact (frontier.discovers_discover next).append (inductionHypothesis _)

end Frontier

/-- The token of a state is the one that has been found, and its successors have been seen. -/
def Visited
    (automaton : Automaton τ)
    (found : Option τ)
    (seen : Array Bool)
    (id : Nat) :
    Prop :=
  (∀ token, automaton.token? id = some token → found = some token) ∧
    ∀ next ∈ automaton.successors id, next < automaton.size → seen[next]? = some true

/-- What a search below a state has come to. -/
structure Searches
    (automaton : Automaton τ)
    (start : Nat)
    (found : Option τ)
    (frontier : Frontier) : Prop where
  size : frontier.seen.size = automaton.size
  entered : start < automaton.size → frontier.seen[start]? = some true
  stack : ∀ id ∈ frontier.stack, Relation.ReflTransGen automaton.LeadsTo start id
  known : ∀ token ∈ found, token ∈ tokensBelow automaton start
  visited :
    ∀ id : Nat,
      frontier.seen[id]? = some true →
        id ∈ frontier.stack ∨ Visited automaton found frontier.seen id

/-- In the beginning the state itself is on the stack, and it is all that has been seen. -/
theorem searches_start
    (automaton : Automaton τ)
    (start : Nat) :
    Searches automaton start none (.start automaton.size start) where
  size := by
    simp [Frontier.start]
  entered inside := by
    simp [Frontier.start, inside]
  stack id member := by
    rw [List.mem_singleton.mp member]
  known _ := by
    simp
  visited id seen := by
    refine Or.inl (List.mem_singleton.mpr ?_)
    rw [Frontier.start, Array.getElem?_setIfInBounds] at seen
    split at seen
    · exact Eq.symm ‹start = id›
    · simp [Array.getElem?_replicate] at seen

/-- Visiting a state finds its token, which is the one that had been found if there was one. -/
theorem Searches.visit
    {start id : Nat}
    {found : Option τ}
    {rest : List Nat}
    {seen : Array Bool}
    (searches : Searches automaton start found ⟨id :: rest, seen⟩)
    (agree : ∀ token ∈ found, ∀ other ∈ automaton.token? id, other = token) :
    Searches automaton start ((automaton.token? id).or found)
      ((automaton.successors id).foldl Frontier.discover ⟨rest, seen⟩) := by
  have discovers := Frontier.discovers_foldl ⟨rest, seen⟩ (automaton.successors id)
  have path := searches.stack id List.mem_cons_self
  refine ⟨discovers.size.trans searches.size,
    fun inside => discovers.keeps start (searches.entered inside), ?_, ?_, ?_⟩
  · intro next member
    rcases discovers.origin next member with waiting | leads
    · exact searches.stack next (List.mem_cons_of_mem _ waiting)
    · exact path.tail leads
  · intro token member
    rcases Option.or_eq_some_iff.mp member with stored | ⟨_, known⟩
    · exact ⟨id, path, stored⟩
    · exact searches.known token known
  · -- What had been found is kept, since the token of this state does not differ from it.
    have keeps : ∀ token, found = some token → (automaton.token? id).or found = some token := by
      intro token known
      cases stored : automaton.token? id with
      | none =>
          exact known
      | some other =>
          rw [agree token known other stored]
          rfl
    have visitedHere :
        Visited automaton ((automaton.token? id).or found)
          ((automaton.successors id).foldl Frontier.discover ⟨rest, seen⟩).seen id :=
      ⟨fun token stored => by rw [stored]; rfl,
        fun next leads inside => discovers.seen next leads (searches.size.symm ▸ inside)⟩
    intro other isSeen
    rcases discovers.waits other isSeen with before | waiting
    · rcases searches.visited other before with waiting | ⟨tokens, successors⟩
      · rcases List.mem_cons.mp waiting with rfl | waiting
        · exact Or.inr visitedHere
        · exact Or.inl (discovers.grows other waiting)
      · exact Or.inr ⟨fun token stored => keeps token (tokens token stored),
          fun next leads inside => discovers.keeps next (successors next leads inside)⟩
    · exact Or.inl waiting

/-- When the stack is empty, every token below the state has been found. -/
theorem Searches.found_of_mem
    {start : Nat}
    {found : Option τ}
    {seen : Array Bool}
    (searches : Searches automaton start found ⟨[], seen⟩)
    {token : τ}
    (below : token ∈ tokensBelow automaton start) :
    found = some token := by
  obtain ⟨last, path, stored⟩ := below
  have visited :
      ∀ id, Relation.ReflTransGen automaton.LeadsTo start id →
        id < automaton.size → Visited automaton found seen id := by
    intro id path
    induction path with
    | refl =>
        intro inside
        exact (searches.visited start (searches.entered inside)).resolve_left List.not_mem_nil
    | tail _ leads inductionHypothesis =>
        intro inside
        have seen := (inductionHypothesis (Automaton.lt_size_of_mem_successors leads)).2
        exact (searches.visited _ (seen _ leads inside)).resolve_left List.not_mem_nil
  have inside := Automaton.lt_size_of_acceptance (Automaton.acceptance_ne_none_of_token? stored)
  exact (visited last path inside).1 token stored

variable [DecidableEq τ]

/-- A search finds a token just when it is the only one below the state. -/
theorem Searches.uniqueFrom?_eq_some_iff
    {start : Nat}
    {found : Option τ}
    {frontier : Frontier}
    (searches : Searches automaton start found frontier)
    {token : τ} :
    uniqueFrom? automaton found frontier = some token ↔ tokensBelow automaton start = {token} := by
  fun_induction uniqueFrom? automaton found frontier with
  | case1 found seen =>
      rw [Set.eq_singleton_iff_unique_mem]
      constructor
      · rintro rfl
        refine ⟨searches.known token rfl, fun other below => ?_⟩
        exact (Option.some.inj (searches.found_of_mem below)).symm
      · rintro ⟨below, _⟩
        exact searches.found_of_mem below
  | case2 found id rest seen stored clash =>
      obtain ⟨isStored, isFound, differ⟩ := clash
      obtain ⟨other, isOther⟩ := Option.isSome_iff_exists.mp isStored
      obtain ⟨known, isKnown⟩ := Option.isSome_iff_exists.mp isFound
      refine iff_of_false (Option.some_ne_none token).symm fun only => differ ?_
      have otherBelow : other ∈ tokensBelow automaton start :=
        ⟨id, searches.stack id List.mem_cons_self, isOther⟩
      have knownBelow := searches.known known isKnown
      rw [only] at otherBelow knownBelow
      rw [isOther, isKnown, otherBelow, knownBelow]
  | case3 found id rest seen stored agree inductionHypothesis =>
      refine inductionHypothesis (searches.visit fun known isKnown other isOther => ?_)
      have same : stored = found := by
        by_contra differ
        exact agree ⟨Option.isSome_of_mem isOther, Option.isSome_of_mem isKnown, differ⟩
      rw [← same] at isKnown
      exact Option.mem_unique isOther isKnown

/-- The search below a state finds a token just when it is the only one there. -/
theorem uniqueBelow?_eq_some_iff
    {id : Nat}
    {token : τ} :
    uniqueBelow? automaton id = some token ↔ tokensBelow automaton id = {token} :=
  (searches_start automaton id).uniqueFrom?_eq_some_iff

end Abbreviations

end LexicalAutomata
