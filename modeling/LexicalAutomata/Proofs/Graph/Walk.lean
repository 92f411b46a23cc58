import LexicalAutomata.Proofs.Expression.Matching
import LexicalAutomata.Proofs.Graph.Route
import LexicalAutomata.Proofs.Graph.Simulation
import LexicalAutomata.Proofs.Text.Place

namespace LexicalAutomata

/-!
# Walks

A walk is a route along the edges of a graph and through a text at the same time.  The nodes
that a simulation keeps behind some characters are those to which walks lead that have
read these characters.
-/

variable {τ : Type}

namespace Graph

/-- An edge leads from one node and place to another node and place. -/
def Step
    (graph : Graph τ)
    (searchStart : Nat)
    (source target : Nat × Place) :
    Prop :=
  graph.Moves (Label.Crosses searchStart) source target

/-- Any number of steps, one behind the other. -/
def Walk
    (graph : Graph τ)
    (searchStart : Nat) :
    Nat × Place →
    Nat × Place →
    Prop :=
  Relation.ReflTransGen (graph.Step searchStart)

variable {graph : Graph τ} {searchStart : Nat}

/-- A step reads nothing, or it reads one character. -/
theorem Step.free_or_read
    {source target : Nat}
    {here there : Place}
    (step : graph.Step searchStart (source, here) (target, there)) :
    (there = here ∧
        graph.FreeStep (here.surroundings searchStart).holding source target) ∨
      ∃ char rest,
        here.rest = char :: rest ∧
          there = here.advance 1 ∧ graph.ReadStep char.toNat source target := by
  obtain ⟨edge, member, same, crosses⟩ := step
  cases edge with
  | silent _ =>
      cases crosses
      exact Or.inl ⟨rfl, _, member, rfl, same⟩
  | labelled label other =>
      cases same
      cases crosses with
      | @reading _ _ char rest read =>
          exact Or.inr ⟨char, rest, rfl, rfl, label, member, read⟩
      | holding waits holds =>
          refine Or.inl ⟨rfl, _, member, ?_, rfl⟩
          exact BoundarySet.meets_iff.mpr ⟨_, waits, Surroundings.mem_holding.mpr holds⟩

/-- A step without reading. -/
theorem FreeStep.step
    {place : Place}
    {source target : Nat}
    (free : graph.FreeStep (place.surroundings searchStart).holding source target) :
    graph.Step searchStart (source, place) (target, place) := by
  obtain ⟨edge, member, isFree, same⟩ := free
  refine ⟨edge, member, same, ?_⟩
  cases edge with
  | silent _ =>
      rfl
  | labelled label _ =>
      obtain ⟨boundary, waited, holds⟩ := BoundarySet.meets_iff.mp isFree
      exact .holding waited (Surroundings.mem_holding.mp holds)

/-- A step that reads the next character. -/
theorem ReadStep.step
    {place : Place}
    {char : Char}
    {rest : List Char}
    {source target : Nat}
    (read : graph.ReadStep char.toNat source target)
    (ahead : place.rest = char :: rest) :
    graph.Step searchStart (source, place) (target, place.advance 1) := by
  obtain ⟨label, member, contained⟩ := read
  obtain ⟨before, offset, text⟩ := place
  cases ahead
  exact ⟨_, member, rfl, .reading contained⟩

/-- A walk leads to a place further on in the same text. -/
theorem Walk.exists_advance
    {source target : Nat × Place}
    (walk : graph.Walk searchStart source target) :
    ∃ count ≤ source.2.rest.length, target.2 = source.2.advance count := by
  induction walk using Relation.ReflTransGen.head_induction_on with
  | refl =>
      exact ⟨0, Nat.zero_le _, by simp⟩
  | @head source middle step _ inductionHypothesis =>
      obtain ⟨count, le, same⟩ := inductionHypothesis
      rcases step.free_or_read with ⟨stays, _⟩ | ⟨char, rest, ahead, moves, _⟩
      · rw [stays] at le same
        exact ⟨count, le, same⟩
      · rw [moves] at le same
        rw [Place.advance_advance] at same
        rw [Place.rest_advance, List.length_drop, ahead, List.length_cons] at le
        refine ⟨1 + count, ?_, same⟩
        rw [ahead, List.length_cons]
        omega

/-- Where the text that is left is the same, so is the place. -/
theorem Walk.length_le
    {source target : Nat × Place}
    (walk : graph.Walk searchStart source target) :
    target.2.rest.length ≤ source.2.rest.length := by
  obtain ⟨count, _, same⟩ := walk.exists_advance
  rw [same, Place.rest_advance, List.length_drop]
  omega

/-- A walk spreads to some node and ends there, or reads the next character behind it. -/
theorem Walk.spread_or_read
    {source target : Nat}
    {here there : Place}
    (walk : graph.Walk searchStart (source, here) (target, there)) :
    (there = here ∧ target ∈ graph.spreadAt searchStart here {source}) ∨
      ∃ char rest,
        here.rest = char :: rest ∧
          ∃ next ∈ graph.afterReading char.toNat (graph.spreadAt searchStart here {source}),
            graph.Walk searchStart (next, here.advance 1) (target, there) := by
  generalize first : (source, here) = origin at walk
  induction walk using Relation.ReflTransGen.head_induction_on generalizing source here with
  | refl =>
      cases first
      exact Or.inl ⟨rfl, _, rfl, .refl⟩
  | @head origin middle step path inductionHypothesis =>
      cases first
      obtain ⟨middle, place⟩ := middle
      rcases step.free_or_read with ⟨stays, free⟩ | ⟨char, rest, ahead, moves, read⟩
      · cases stays
        have more :
            graph.spreadAt searchStart here {middle} ⊆
              graph.spreadAt searchStart here {source} := by
          rintro node ⟨_, rfl, reached⟩
          exact ⟨source, rfl, reached.head free⟩
        rcases inductionHypothesis rfl with ⟨same, reached⟩ | ⟨char, rest, ahead, next, read, back⟩
        · exact Or.inl ⟨same, more reached⟩
        · exact Or.inr ⟨char, rest, ahead, next, afterReading_mono more _ read, back⟩
      · cases moves
        exact Or.inr ⟨char, rest, ahead, middle, ⟨source, ⟨source, rfl, .refl⟩, read⟩, path⟩

/-- The nodes to which some nodes lead by reading `count` characters from a place on. -/
def reached
    (graph : Graph τ)
    (searchStart : Nat)
    (nodes : Set Nat)
    (place : Place)
    (count : Nat) :
    Set Nat :=
  { target |
    ∃ source ∈ nodes, graph.Walk searchStart (source, place) (target, place.advance count) }

/-- Without reading a character, nodes lead to what they spread to. -/
theorem reached_zero
    (nodes : Set Nat)
    (place : Place) :
    graph.reached searchStart nodes place 0 = graph.spreadAt searchStart place nodes := by
  ext target
  constructor
  · rintro ⟨source, member, walk⟩
    rw [Place.advance_zero] at walk
    rcases walk.spread_or_read with ⟨_, _, rfl, path⟩ | ⟨char, rest, ahead, _, _, back⟩
    · exact ⟨_, member, path⟩
    · have shorter := back.length_le
      simp only [Place.rest_advance, List.length_drop, ahead, List.length_cons] at shorter
      omega
  · rintro ⟨source, member, path⟩
    refine ⟨source, member, ?_⟩
    rw [Place.advance_zero]
    exact path.lift (fun node => (node, place)) fun _ _ step => step.step

/-- One more character is read by reading it first. -/
theorem reached_succ
    (nodes : Set Nat)
    {place : Place}
    {char : Char}
    {rest : List Char}
    (ahead : place.rest = char :: rest)
    (count : Nat) :
    graph.reached searchStart nodes place (count + 1) =
      graph.reached searchStart
        (graph.afterReading char.toNat (graph.spreadAt searchStart place nodes))
        (place.advance 1) count := by
  ext target
  constructor
  · rintro ⟨source, member, walk⟩
    have subset :
        graph.spreadAt searchStart place {source} ⊆ graph.spreadAt searchStart place nodes := by
      apply spread_mono
      rintro _ rfl
      exact member
    rcases walk.spread_or_read with ⟨same, _⟩ | ⟨other, others, otherAhead, next, read, back⟩
    · have lengths := congrArg (fun place => place.rest.length) same
      simp only [Place.rest_advance, List.length_drop, ahead, List.length_cons] at lengths
      omega
    · rw [ahead] at otherAhead
      cases otherAhead
      refine ⟨next, afterReading_mono subset _ read, ?_⟩
      rw [Place.advance_advance, Nat.add_comm]
      exact back
  · rintro ⟨next, ⟨middle, ⟨source, member, path⟩, read⟩, walk⟩
    refine ⟨source, member, ?_⟩
    rw [Place.advance_advance, Nat.add_comm] at walk
    have front : graph.Walk searchStart (source, place) (middle, place) :=
      path.lift (fun node => (node, place)) fun _ _ step => step.step
    exact (front.tail (read.step ahead)).trans walk

end Graph

end LexicalAutomata
