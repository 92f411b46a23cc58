import LexicalAutomata.Automaton.Length
import LexicalAutomata.Proofs.Automaton.Liveness
import LexicalAutomata.Proofs.Automaton.Runs
import Mathlib.Order.Bounds.Image

namespace LexicalAutomata.Automaton

/-!
# The longest runs

The path of the search leads from the start to the state that it looks at, and has exactly
the states that it has entered and not left.  An edge back into the path closes a cycle, and
then there are runs of any length.  Otherwise each state is left behind all its successors,
so that the longest run from it can be told from theirs.
-/

variable {τ : Type} {automaton : Automaton τ}

/-- The states of a list come behind those that they lead to. -/
inductive PostOrder
    (automaton : Automaton τ) :
    List Nat →
    Prop where
  | nil :
      PostOrder automaton []
  | concat
      {order : List Nat}
      {id : Nat} :
      PostOrder automaton order →
      (∀ edge ∈ (automaton.state id).edges, edge.1 < automaton.size → edge.1 ∈ order) →
      PostOrder automaton (order ++ [id])

/-- Runs from the states of such a list are bounded. -/
theorem PostOrder.bounded
    {order : List Nat}
    (postOrder : automaton.PostOrder order) :
    ∀ id ∈ order, automaton.Bounded id := by
  induction postOrder with
  | nil =>
      simp
  | concat _ behind inductionHypothesis =>
      intro id member
      rcases List.mem_append.mp member with before | last
      · exact inductionHypothesis id before
      · cases List.mem_singleton.mp last
        apply bounded_of_forall
        intro edge leads
        rcases Nat.lt_or_ge edge.1 automaton.size with inside | outside
        · exact inductionHypothesis edge.1 (behind edge leads inside)
        · exact bounded_of_size_le outside

section Explore

/--
Each state of a path leads to the one above it, and the last one is the start.  The edges of
a state that have been followed lead to the state above it or to states that have been left.
-/
def Climbs
    (automaton : Automaton τ)
    (marks : Array Mark) :
    (above : Option Nat) →
    List (Nat × Nat) →
    Prop
  | above, [] =>
      ∀ id ∈ above, id = automaton.start
  | above, (id, count) :: rest =>
      (∀ edge ∈ (automaton.state id).edges.take count,
        edge.1 < automaton.size → marks[edge.1]? = some .left ∨ edge.1 ∈ above) ∧
        (∀ next ∈ above, ∃ amount, (next, amount) ∈ (automaton.state id).edges) ∧
          automaton.Climbs marks (some id) rest

variable {marks others : Array Mark} {order : Array Nat} {above : Option Nat}
  {path rest : List (Nat × Nat)} {id count : Nat} {edge : Nat × Nat}

/-- A path stays one when more states are left. -/
theorem Climbs.mono
    (climbs : automaton.Climbs marks above path)
    (keeps : ∀ id : Nat, marks[id]? = some .left → others[id]? = some .left) :
    automaton.Climbs others above path := by
  induction path generalizing above with
  | nil =>
      exact climbs
  | cons entry rest inductionHypothesis =>
      obtain ⟨followed, leads, below⟩ := climbs
      exact ⟨fun edge member inside => (followed edge member inside).imp_left (keeps edge.1),
        leads, inductionHypothesis below⟩

/-- When the state above a path is left, the path is one without it. -/
theorem Climbs.leave
    (climbs : automaton.Climbs marks (some id) path)
    (keeps : ∀ id : Nat, marks[id]? = some .left → others[id]? = some .left)
    (left : id < automaton.size → others[id]? = some .left) :
    automaton.Climbs others none path := by
  cases path with
  | nil =>
      simp [Climbs]
  | cons entry rest =>
      obtain ⟨followed, _, below⟩ := climbs
      refine ⟨fun edge member inside => Or.inl ?_, by simp, below.mono keeps⟩
      rcases followed edge member inside with before | isAbove
      · exact keeps edge.1 before
      · cases isAbove
        exact left inside

/-- One more edge of the first state is followed. -/
theorem Climbs.follow
    (climbs : automaton.Climbs marks none ((id, count) :: rest))
    (following : (automaton.state id).edges[count]? = some edge)
    (leads : edge.1 < automaton.size → marks[edge.1]? = some .left ∨ edge.1 ∈ above)
    (isAbove : ∀ next ∈ above, next = edge.1) :
    automaton.Climbs marks above ((id, count + 1) :: rest) := by
  obtain ⟨followed, _, below⟩ := climbs
  refine ⟨?_, ?_, below⟩
  · intro other member inside
    rw [List.take_add_one, following, List.mem_append] at member
    rcases member with before | last
    · exact (followed other before inside).imp_right fun none => by cases none
    · cases List.mem_singleton.mp last
      exact leads inside
  · intro next member
    rw [isAbove next member]
    exact ⟨edge.2, List.mem_of_getElem? following⟩

/-- From the start and from the states of a path a run leads to the state above it. -/
theorem Climbs.exists_run
    (climbs : automaton.Climbs marks (some id) path)
    {first : Nat}
    (member : first = automaton.start ∨ first ∈ path.map Prod.fst) :
    ∃ edges characters, automaton.Run Set.univ edges characters first id := by
  induction path generalizing id with
  | nil =>
      rcases member with rfl | member
      · rw [climbs id rfl]
        exact ⟨0, 0, .nil (Set.mem_univ _)⟩
      · contradiction
  | cons entry rest inductionHypothesis =>
      obtain ⟨_, leads, below⟩ := climbs
      obtain ⟨amount, edge⟩ := leads id rfl
      have reaches :
          ∃ edges characters, automaton.Run Set.univ edges characters first entry.1 := by
        rcases member with isStart | member
        · exact inductionHypothesis below (Or.inl isStart)
        · rcases List.mem_cons.mp member with rfl | later
          · exact ⟨0, 0, .nil (Set.mem_univ _)⟩
          · exact inductionHypothesis below (Or.inr later)
      obtain ⟨edges, characters, run⟩ := reaches
      exact ⟨edges + 1, characters + amount, run.concat edge⟩

/-- What a depth-first search knows of the states that it has entered and left. -/
structure Explores
    (automaton : Automaton τ)
    (marks : Array Mark)
    (order : Array Nat)
    (path : List (Nat × Nat)) : Prop where
  size : marks.size = automaton.size
  climbs : automaton.Climbs marks none path
  entered : ∀ id : Nat, marks[id]? = some .entered → id ∈ path.map Prod.fst
  left : ∀ id : Nat, marks[id]? = some .left → id ∈ order.toList
  postOrder : automaton.PostOrder order.toList
  start : automaton.start ∈ order.toList ∨ automaton.start ∈ path.map Prod.fst

/-- The search begins with a path that has the start alone. -/
theorem explores_start
    (automaton : Automaton τ) :
    automaton.Explores
      ((Array.replicate automaton.size .new).setIfInBounds automaton.start .entered) #[]
      [(automaton.start, 0)] where
  size := by
    simp
  climbs := by
    simp [Climbs]
  entered id isEntered := by
    rw [Array.getElem?_setIfInBounds] at isEntered
    split at isEntered
    · rename_i isStart
      simp [isStart]
    · rw [Array.getElem?_replicate] at isEntered
      split at isEntered <;> cases isEntered
  left id isLeft := by
    rw [Array.getElem?_setIfInBounds] at isLeft
    split at isLeft
    · split at isLeft <;> cases isLeft
    · rw [Array.getElem?_replicate] at isLeft
      split at isLeft <;> cases isLeft
  postOrder :=
    .nil
  start :=
    Or.inr List.mem_cons_self

/-- A state without edges to follow is left behind its successors. -/
theorem Explores.leave
    (explores : automaton.Explores marks order ((id, count) :: rest))
    (ended : (automaton.state id).edges[count]? = none) :
    automaton.Explores (marks.setIfInBounds id .left) (order.push id) rest := by
  obtain ⟨followed, _, below⟩ := explores.climbs
  rw [List.take_of_length_le (List.getElem?_eq_none_iff.mp ended)] at followed
  have marked :
      ∀ (other : Nat) (mark : Mark),
        (marks.setIfInBounds id .left)[other]? = some mark →
          (other = id ∧ mark = .left) ∨ (other ≠ id ∧ marks[other]? = some mark) := by
    intro other mark same
    rw [Array.getElem?_setIfInBounds] at same
    split at same
    · rename_i isId
      split at same
      · exact Or.inl ⟨isId.symm, (Option.some.inj same).symm⟩
      · contradiction
    · rename_i isOther
      exact Or.inr ⟨Ne.symm isOther, same⟩
  have isLeft :
      id < automaton.size → (marks.setIfInBounds id Mark.left)[id]? = some .left := by
    intro inside
    rw [Array.getElem?_setIfInBounds, if_pos rfl, if_pos (by rw [explores.size]; exact inside)]
  refine ⟨by rw [Array.size_setIfInBounds]; exact explores.size, below.leave ?_ isLeft, ?_, ?_,
    ?_, ?_⟩
  · intro other before
    by_cases same : other = id
    · subst same
      apply isLeft
      rw [← explores.size]
      exact (Array.getElem?_eq_some_iff.mp before).1
    · rw [Array.getElem?_setIfInBounds, if_neg (Ne.symm same)]
      exact before
  · intro other isEntered
    rcases marked other _ isEntered with ⟨_, impossible⟩ | ⟨different, before⟩
    · contradiction
    · exact (List.mem_cons.mp (explores.entered other before)).resolve_left different
  · intro other isLeft
    rw [Array.toList_push, List.mem_append, List.mem_singleton]
    rcases marked other _ isLeft with ⟨same, _⟩ | ⟨_, before⟩
    · exact Or.inr same
    · exact Or.inl (explores.left other before)
  · rw [Array.toList_push]
    refine .concat explores.postOrder fun edge leads inside => ?_
    rcases followed edge leads inside with before | impossible
    · exact explores.left edge.1 before
    · cases impossible
  · rw [Array.toList_push, List.mem_append, List.mem_singleton, or_assoc]
    exact explores.start.imp_right List.mem_cons.mp

/-- A new state is entered. -/
theorem Explores.enter
    (explores : automaton.Explores marks order ((id, count) :: rest))
    (following : (automaton.state id).edges[count]? = some edge)
    (isNew : marks[edge.1]? = some .new) :
    automaton.Explores (marks.setIfInBounds edge.1 .entered) order
      ((edge.1, 0) :: (id, count + 1) :: rest) := by
  have keeps :
      ∀ other : Nat,
        marks[other]? = some .left ↔
          (marks.setIfInBounds edge.1 Mark.entered)[other]? = some .left := by
    intro other
    rw [Array.getElem?_setIfInBounds]
    split
    · rename_i same
      rw [← same, isNew]
      split <;> simp
    · rfl
  refine ⟨by rw [Array.size_setIfInBounds]; exact explores.size, ?_, ?_,
    fun other isLeft => explores.left other ((keeps other).mpr isLeft), explores.postOrder,
    explores.start.imp_right (List.mem_cons_of_mem _)⟩
  · have climbs :
        automaton.Climbs (marks.setIfInBounds edge.1 Mark.entered) (some edge.1)
          ((id, count + 1) :: rest) :=
      (explores.climbs.mono fun other => (keeps other).mp).follow following
        (fun _ => Or.inr rfl) (fun _ same => (Option.some.inj same).symm)
    exact ⟨by simp, by simp, climbs⟩
  · intro other isEntered
    rw [Array.getElem?_setIfInBounds] at isEntered
    split at isEntered
    · rename_i same
      rw [← same]
      exact List.mem_cons_self
    · exact List.mem_cons_of_mem _ (explores.entered other isEntered)

/-- An edge to a state that has been left is passed over. -/
theorem Explores.pass
    (explores : automaton.Explores marks order ((id, count) :: rest))
    (following : (automaton.state id).edges[count]? = some edge)
    (isLeft : edge.1 < automaton.size → marks[edge.1]? = some .left) :
    automaton.Explores marks order ((id, count + 1) :: rest) where
  size :=
    explores.size
  climbs :=
    explores.climbs.follow following (fun inside => Or.inl (isLeft inside)) (by simp)
  entered :=
    explores.entered
  left :=
    explores.left
  postOrder :=
    explores.postOrder
  start :=
    explores.start

/-- An edge to a state that has been entered and not left closes a cycle. -/
theorem Explores.not_bounded
    (explores : automaton.Explores marks order ((id, count) :: rest))
    (following : (automaton.state id).edges[count]? = some edge)
    (isEntered : marks[edge.1]? = some .entered) :
    ¬ automaton.Bounded automaton.start := by
  intro bounded
  obtain ⟨_, _, below⟩ := explores.climbs
  obtain ⟨_, _, run⟩ := below.exists_run (Or.inl rfl)
  have back : ∃ edges characters, automaton.Run Set.univ edges characters edge.1 id := by
    rcases List.mem_cons.mp (explores.entered _ isEntered) with same | later
    · rw [same]
      exact ⟨0, 0, .nil (Set.mem_univ _)⟩
    · exact below.exists_run (Or.inr later)
  obtain ⟨_, _, cycle⟩ := back
  exact (bounded.of_run run).not_cycle (List.mem_of_getElem? following) cycle

/-- The search finds an order in which the start comes last, or a cycle. -/
theorem Explores.postOrderFrom
    (explores : automaton.Explores marks order path) :
    (automaton.postOrderFrom marks order path = none → ¬ automaton.Bounded automaton.start) ∧
      ∀ result,
        automaton.postOrderFrom marks order path = some result →
          automaton.PostOrder result.toList ∧ automaton.start ∈ result.toList := by
  fun_induction Automaton.postOrderFrom automaton marks order path with
  | case1 marks order =>
      refine ⟨by simp, ?_⟩
      rintro result ⟨⟩
      exact ⟨explores.postOrder, explores.start.resolve_right (by simp)⟩
  | case2 marks order id count rest ended inductionHypothesis =>
      exact inductionHypothesis (explores.leave ended)
  | case3 marks order id count rest edge following isNew inductionHypothesis =>
      exact inductionHypothesis (explores.enter following isNew)
  | case4 marks order id count rest edge following isEntered =>
      exact ⟨fun _ => explores.not_bounded following isEntered, by simp⟩
  | case5 marks order id count rest edge following isLeft inductionHypothesis =>
      exact inductionHypothesis (explores.pass following fun _ => isLeft)
  | case6 marks order id count rest edge following outside inductionHypothesis =>
      rw [Array.getElem?_eq_none_iff, explores.size] at outside
      exact inductionHypothesis
        (explores.pass following fun inside => (Nat.not_lt_of_le outside inside).elim)

end Explore

/-- There is an order for the states just when the runs from the start are bounded. -/
theorem postOrder?_eq_none_iff
    (automaton : Automaton τ) :
    automaton.postOrder? = none ↔ ¬ automaton.Bounded automaton.start := by
  obtain ⟨unbounded, ordered⟩ := automaton.explores_start.postOrderFrom
  refine ⟨unbounded, fun notBounded => ?_⟩
  cases found : automaton.postOrder? with
  | none =>
      rfl
  | some order =>
      obtain ⟨postOrder, member⟩ := ordered order found
      exact (notBounded (postOrder.bounded _ member)).elim

/-- The order that is found has the start behind all states that it leads to. -/
theorem postOrder_of_postOrder?
    {order : Array Nat}
    (found : automaton.postOrder? = some order) :
    automaton.PostOrder order.toList ∧ automaton.start ∈ order.toList :=
  automaton.explores_start.postOrderFrom.2 order found

section Longest

/-- A length is the greatest one of a set, or there is none. -/
def Greatest
    (lengths : Set Int) :
    Option Int →
    Prop
  | none =>
      lengths = ∅
  | some length =>
      IsGreatest lengths length

/-- The lengths of the accepted runs that begin with one of some edges. -/
def lengthsBehind
    (automaton : Automaton τ)
    (edges : List (Nat × Nat)) :
    Set Int :=
  { length |
    ∃ edge ∈ edges, ∃ rest ∈ automaton.acceptedLengths edge.1, length = rest + edge.2 }

/-- The lengths of the accepted runs from a state, of which one may have no edges. -/
theorem acceptedLengths_eq
    (automaton : Automaton τ)
    (id : Nat) :
    automaton.acceptedLengths id =
      { length : Int |
        ∃ acceptance,
          automaton.acceptance id = some acceptance ∧ length = -acceptance.enderLength } ∪
        automaton.lengthsBehind (automaton.state id).edges := by
  ext length
  constructor
  · rintro ⟨edges, characters, last, acceptance, run, accepted, rfl⟩
    cases run with
    | nil _ =>
        exact Or.inl ⟨acceptance, accepted, by simp⟩
    | @cons edges characters _ next amount _ _ leads rest =>
        refine Or.inr ⟨(next, amount), leads, _, ⟨_, _, _, acceptance, rest, accepted, rfl⟩, ?_⟩
        push_cast
        omega
  · rintro (⟨acceptance, accepted, rfl⟩ |
      ⟨⟨next, amount⟩, leads, _, ⟨edges, characters, last, acceptance, run, accepted, rfl⟩, rfl⟩)
    · exact ⟨0, 0, id, acceptance, .nil (Set.mem_univ _), accepted, by simp⟩
    · refine ⟨_, _, last, acceptance, .cons (Set.mem_univ _) leads run, accepted, ?_⟩
      push_cast
      omega

/-- No run from outside of the automaton is accepted. -/
theorem acceptedLengths_of_size_le
    {id : Nat}
    (outside : automaton.size ≤ id) :
    automaton.acceptedLengths id = ∅ := by
  rw [acceptedLengths_eq, Set.union_empty_iff, Set.eq_empty_iff_forall_notMem,
    Set.eq_empty_iff_forall_notMem]
  constructor
  · rintro _ ⟨acceptance, accepted, _⟩
    have := lt_size_of_acceptance (Option.ne_none_iff_exists'.mpr ⟨acceptance, accepted⟩)
    omega
  · rintro _ ⟨edge, leads, _⟩
    have := lt_size_of_mem_stateEdges leads
    omega

variable {table : Array (Option Int)}

/-- The longer one of two greatest lengths is the greatest of both sets. -/
theorem Greatest.longer
    {first second : Set Int}
    {best other : Option Int}
    (greatest : Greatest first best)
    (otherGreatest : Greatest second other) :
    Greatest (first ∪ second) (Automaton.longer best other) := by
  cases other with
  | none =>
      have empty : second = ∅ := otherGreatest
      rw [empty, Set.union_empty]
      exact greatest
  | some length =>
      have isGreatest : IsGreatest second length := otherGreatest
      cases best with
      | none =>
          have empty : first = ∅ := greatest
          rw [empty, Set.empty_union]
          exact isGreatest
      | some known =>
          have knownGreatest : IsGreatest first known := greatest
          exact knownGreatest.union isGreatest

/-- The lengths behind a single edge are those from its target, as much longer as it reads. -/
theorem Greatest.lengthsBehind_singleton
    {edge : Nat × Nat}
    {best : Option Int}
    (greatest : Greatest (automaton.acceptedLengths edge.1) best) :
    Greatest (automaton.lengthsBehind [edge]) (best.map fun length => length + edge.2) := by
  have image :
      automaton.lengthsBehind [edge] =
        (fun length : Int => length + edge.2) '' automaton.acceptedLengths edge.1 := by
    ext length
    constructor
    · rintro ⟨_, member, rest, accepted, rfl⟩
      cases List.mem_singleton.mp member
      exact ⟨rest, accepted, rfl⟩
    · rintro ⟨rest, accepted, rfl⟩
      exact ⟨edge, List.mem_singleton.mpr rfl, rest, accepted, rfl⟩
  rw [image]
  cases best with
  | none =>
      have empty : automaton.acceptedLengths edge.1 = ∅ := greatest
      rw [empty, Set.image_empty]
      rfl
  | some known =>
      have isGreatest : IsGreatest (automaton.acceptedLengths edge.1) known := greatest
      have monotone : Monotone fun length : Int => length + edge.2 :=
        fun _ _ le => Int.add_le_add_right le _
      exact monotone.map_isGreatest isGreatest

/-- The edges of a list are taken into account one after the other. -/
theorem Greatest.foldl
    {edges : List (Nat × Nat)}
    (known :
      ∀ edge ∈ edges, Greatest (automaton.acceptedLengths edge.1) table[edge.1]?.join)
    {lengths : Set Int}
    {best : Option Int}
    (greatest : Greatest lengths best) :
    Greatest (lengths ∪ automaton.lengthsBehind edges)
      (edges.foldl
        (fun best edge =>
          Automaton.longer best (table[edge.1]?.join.map fun length => length + edge.2))
        best) := by
  induction edges generalizing lengths best with
  | nil =>
      simpa [lengthsBehind] using greatest
  | cons edge rest inductionHypothesis =>
      obtain ⟨first, others⟩ := List.forall_mem_cons.mp known
      have split :
          lengths ∪ automaton.lengthsBehind (edge :: rest) =
            (lengths ∪ automaton.lengthsBehind [edge]) ∪ automaton.lengthsBehind rest := by
        rw [Set.union_assoc]
        congr 1
        ext length
        simp [lengthsBehind]
      rw [split, List.foldl_cons]
      exact inductionHypothesis others (greatest.longer first.lengthsBehind_singleton)

/-- What is entered for a state is right if the entries of its successors are. -/
theorem greatest_longestFrom
    {id : Nat}
    (known :
      ∀ edge ∈ (automaton.state id).edges,
        Greatest (automaton.acceptedLengths edge.1) table[edge.1]?.join) :
    Greatest (automaton.acceptedLengths id) (automaton.longestFrom table id) := by
  rw [acceptedLengths_eq]
  refine Greatest.foldl known ?_
  cases accepted : automaton.acceptance id with
  | none =>
      simp [Greatest]
  | some acceptance =>
      simp [Greatest]

/-- The entries of states in post-order are the lengths of the longest accepted runs. -/
theorem PostOrder.longestLengths
    {order : List Nat}
    (postOrder : automaton.PostOrder order) :
    (automaton.longestLengths order).size = automaton.size ∧
      ∀ id ∈ order,
        Greatest (automaton.acceptedLengths id) (automaton.longestLengths order)[id]?.join := by
  induction postOrder with
  | nil =>
      simp [Automaton.longestLengths]
  | @concat order id _ behind inductionHypothesis =>
      obtain ⟨size, right⟩ := inductionHypothesis
      have entered :
          automaton.longestLengths (order ++ [id]) =
            (automaton.longestLengths order).setIfInBounds id
              (automaton.longestFrom (automaton.longestLengths order) id) := by
        simp [Automaton.longestLengths]
      have outside :
          ∀ other,
            automaton.size ≤ other →
              ∀ table : Array (Option Int),
                table.size = automaton.size →
                  Greatest (automaton.acceptedLengths other) table[other]?.join := by
        intro other isOutside table sameSize
        rw [Array.getElem?_eq_none (by rw [sameSize]; exact isOutside)]
        exact acceptedLengths_of_size_le isOutside
      rw [entered, Array.size_setIfInBounds]
      refine ⟨size, fun other member => ?_⟩
      rw [Array.getElem?_setIfInBounds]
      split
      · rename_i same
        subst same
        split
        · refine greatest_longestFrom fun edge leads => ?_
          rcases Nat.lt_or_ge edge.1 automaton.size with inside | isOutside
          · exact right edge.1 (behind edge leads inside)
          · exact outside edge.1 isOutside _ size
        · rename_i isOutside
          rw [size] at isOutside
          exact acceptedLengths_of_size_le (Nat.le_of_not_lt isOutside)
      · rename_i different
        rcases List.mem_append.mp member with before | last
        · exact right other before
        · exact (different (List.mem_singleton.mp last).symm).elim

/-- The entries are 64-bit numbers, as long as the enders are shorter than half of the range. -/
theorem PostOrder.longestLengths_fit
    {order : List Nat}
    (postOrder : automaton.PostOrder order)
    (few : automaton.size < 0x4000000000000000)
    (short :
      ∀ id acceptance,
        automaton.acceptance id = some acceptance → acceptance.enderLength < 0x4000000000000000)
    {id : Nat}
    (member : id ∈ order)
    {length : Int}
    (entered : (automaton.longestLengths order)[id]?.join = some length) :
    -0x4000000000000000 < length ∧ length < 0x4000000000000000 := by
  have greatest := postOrder.longestLengths.2 id member
  rw [entered] at greatest
  obtain ⟨edges, characters, last, acceptance, run, accepted, rfl⟩ := greatest.1
  have inside := lt_size_of_acceptance (Option.ne_none_iff_exists'.mpr ⟨acceptance, accepted⟩)
  have fewEdges := (postOrder.bounded id member).edges_lt_card (run.of_last_lt_size inside)
  rw [Finset.card_range] at fewEdges
  have := run.characters_le
  have := short last acceptance accepted
  omega

end Longest

end LexicalAutomata.Automaton
