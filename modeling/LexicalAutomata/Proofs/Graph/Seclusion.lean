import LexicalAutomata.Proofs.Graph.Assembly
import LexicalAutomata.Proofs.Graph.SameEdges
import LexicalAutomata.Proofs.Result
import LexicalAutomata.Unicode.Property

namespace LexicalAutomata

/-!
# Fragments never leak

The fragment of an expression is built out of isolated copies.  Besides the combinators there
are only the edges that leave out optional labels.  They lead from the entries of copies, which
are no exits, to the exit of the whole piece.  At the end its exit is changed, but no edge.
-/

open LexicalAutomata.Graph (Isolates)

variable {τ : Type} {base graph later : Graph τ}

namespace Build

variable {copy : Build τ Fragment}

theorem Adds.prolongs_mandatoryCopies
    (adds : Adds copy)
    (count : Nat) :
    Prolongs (fun former => mandatoryCopies copy former count) := by
  induction count with
  | zero =>
      exact prolongs_pure
  | succ count inductionHypothesis =>
      exact adds.prolongs_cons inductionHypothesis

theorem Adds.prolongs_optionalCopies
    (adds : Adds copy)
    (count : Nat) :
    Prolongs (fun former => optionalCopies copy former count) :=
  adds.optional.prolongs_mandatoryCopies count

/-- From each of some nodes an edge may lead to the exit of what has been put together so far. -/
def Skipping
    (base graph : Graph τ)
    (whole : Option Fragment)
    (entries : List Nat) :
    Prop :=
  ∀ entry ∈ entries, Graph.MayLeave base graph whole.toList entry

/-- The exit of a new fragment is none of the nodes that there were, and not its own entry. -/
theorem skipping_snoc
    {entries : List Nat}
    {latter : Fragment}
    (front : base.size ≤ graph.size)
    (isolates : Isolates graph later [latter])
    (inside : ∀ entry ∈ entries, entry ∈ base.added graph) :
    Skipping base later (some latter) (entries ++ [latter.first]) := by
  have back : graph.size ≤ later.size := isolates.size_le
  have newLast := isolates.last_mem List.mem_cons_self
  intro entry member
  rcases List.mem_append.mp member with old | new
  · obtain ⟨behind, below⟩ := inside entry old
    refine ⟨⟨behind, Nat.lt_of_lt_of_le below back⟩, ?_⟩
    have different : entry ≠ latter.last :=
      Nat.ne_of_lt (Nat.lt_of_lt_of_le below newLast.1)
    simpa using different
  · cases List.mem_singleton.mp new
    obtain ⟨⟨behind, below⟩, leaves⟩ := isolates.mayLeave_first List.mem_cons_self
    exact ⟨⟨front.trans behind, below⟩, leaves⟩

/-- A copy is put behind what there is, and its entry is one more to skip from. -/
theorem Adds.append_skipping
    (adds : Adds copy)
    {former : Option Fragment}
    {entries : List Nat}
    (isolates : Isolates base graph former.toList)
    (skipping : Skipping base graph former entries) :
    let latter := copy graph
    let whole := Build.append former latter.1 latter.2
    Isolates base whole.2 [whole.1] ∧
      Skipping base whole.2 (some whole.1) (entries ++ [latter.1.first]) := by
  refine ⟨adds.append isolates, ?_⟩
  have behind :=
    skipping_snoc isolates.size_le (adds graph) fun entry member => (skipping entry member).1
  cases former with
  | none =>
      exact behind
  | some former =>
      exact fun entry member => (behind entry member).link _ _

/-- The copies that may be left out, before the edges to the exit are added. -/
theorem Adds.skippableCopies
    (adds : Adds copy)
    {former : Option Fragment}
    {entries : List Nat}
    (isolates : Isolates base graph former.toList)
    (skipping : Skipping base graph former entries)
    (count : Nat) :
    let result := Build.skippableCopies copy former entries count graph
    Isolates base result.2 result.1.1.toList ∧
      Skipping base result.2 result.1.1 result.1.2 := by
  induction count generalizing graph former entries with
  | zero =>
      exact ⟨isolates, skipping⟩
  | succ count inductionHypothesis =>
      obtain ⟨whole, further⟩ := adds.append_skipping isolates skipping
      exact @inductionHypothesis _ (some _) _ whole further

/-- Edges to the exit from nodes that may be left. -/
theorem isolates_linkAll
    {whole : Fragment}
    {entries : List Nat}
    (isolates : Isolates base graph [whole])
    (skipping : Skipping base graph (some whole) entries) :
    Isolates base (linkAll whole.last entries graph).2 [whole] := by
  induction entries generalizing graph with
  | nil =>
      exact isolates
  | cons entry rest inductionHypothesis =>
      obtain ⟨first, others⟩ := List.forall_mem_cons.mp skipping
      have linked : Isolates base (graph.link entry whole.last) [whole] :=
        isolates.addEdge first (isolates.mayEnter_last List.mem_cons_self)
      exact inductionHypothesis linked fun other member => (others other member).link _ _

theorem Adds.prolongs_optionalLabels
    (adds : Adds copy)
    (count : Nat) :
    Prolongs (fun former => optionalLabels copy former count) := by
  intro base graph former isolates
  have none : Skipping base graph former [] :=
    fun _ impossible => (List.not_mem_nil impossible).elim
  obtain ⟨copies, skipping⟩ := adds.skippableCopies isolates none count
  generalize made : Build.skippableCopies copy former [] count graph = result
    at copies skipping
  obtain ⟨⟨whole, entries⟩, built⟩ := result
  cases whole with
  | none =>
      simp only [optionalLabels_eq, made]
      exact copies
  | some whole =>
      simp only [optionalLabels_eq, made]
      exact isolates_linkAll copies skipping

/-- A repeated copy is isolated, whatever the quantifier. -/
theorem Adds.repeated
    (adds : Adds copy)
    {optionalPart : Option Fragment → Nat → Build τ (Option Fragment)}
    (prolongs : ∀ count, Prolongs fun former => optionalPart former count)
    (quantifier : Quantifier) :
    Adds (Build.repeated quantifier copy optionalPart) := by
  unfold Build.repeated
  split
  · exact adds_empty
  · have mandatory := adds.prolongs_mandatoryCopies quantifier.min
    cases quantifier.max with
    | none =>
        intro graph
        exact adds.star.append (mandatory graph graph none (.refl graph))
    | some most =>
        intro graph
        exact isolates_orEmpty
          (prolongs _ graph _ _ (mandatory graph graph none (.refl graph)))

theorem isolates_alternatives
    {fragments : List Fragment}
    (isolates : Isolates base graph fragments) :
    Isolates base (alternatives fragments graph).2 [(alternatives fragments graph).1] := by
  unfold alternatives
  split
  · exact isolates
  · rw [← List.append_nil fragments] at isolates
    exact isolates.union

end Build

mutual

/-- The fragment of a piece is isolated. -/
theorem Piece.adds_build
    (piece : Piece) :
    Build.Adds (piece.build : Build τ Fragment) := by
  match piece with
  | ⟨.label label, quantifier⟩ =>
      rw [Piece.build]
      have adds : Build.Adds (Build.label label : Build τ Fragment) :=
        Build.adds_label label
      exact adds.repeated adds.prolongs_optionalLabels quantifier
  | ⟨.group branches, quantifier⟩ =>
      rw [Piece.build]
      have adds : Build.Adds (buildBranches branches >>= Build.alternatives : Build τ Fragment) :=
        fun graph => Build.isolates_alternatives (isolates_buildBranches branches graph)
      exact adds.repeated adds.prolongs_optionalCopies quantifier

theorem prolongs_buildPieces
    (pieces : List Piece) :
    Build.Prolongs (buildPieces pieces : Option Fragment → Build τ (Option Fragment)) := by
  match pieces with
  | [] =>
      exact Build.prolongs_pure
  | piece :: rest =>
      exact piece.adds_build.prolongs_cons (prolongs_buildPieces rest)

/-- The fragments of branches are isolated from one another. -/
theorem isolates_buildBranches
    (branches : List (List Piece))
    (graph : Graph τ) :
    Isolates graph (buildBranches branches graph).2 (buildBranches branches graph).1 := by
  match branches with
  | [] =>
      exact .refl graph
  | pieces :: rest =>
      have first := (prolongs_buildPieces pieces).adds_orEmpty graph
      have both := first.trans (isolates_buildBranches rest _)
      exact both.perm List.perm_append_comm

end

/-- The fragment of an expression is isolated. -/
theorem Expression.adds_build
    (expression : Expression) :
    Build.Adds (expression.build : Build τ Fragment) :=
  fun graph => Build.isolates_alternatives (isolates_buildBranches expression graph)

/-- Nothing is found at a node, and nothing special happens there. -/
structure Node.Plain
    (node : Node τ) : Prop where
  token : node.token = none
  priority : node.priority = 0
  immediate : node.immediate = false
  enderLength : node.enderLength = 0

/-- A fragment has been added behind the nodes of a graph, and nothing leads in or out. -/
structure Graph.Secludes
    (graph later : Graph τ)
    (fragment : Fragment) : Prop where
  /-- The nodes that were there are as they were, and all others come behind them. -/
  kept : graph.nodes.toList <+: later.nodes.toList
  first_mem : fragment.first ∈ graph.added later
  last_mem : fragment.last ∈ graph.added later
  distinct : fragment.first ≠ fragment.last
  closed : later.Closed (graph.added later)
  entry : later.Unentered (graph.added later) fragment.first
  exit : (later.node fragment.last).edges = []
  /-- In a graph whose edges lead to nodes of its own, no edge at all leads to the entry. -/
  unentered : graph.Closed (Set.Iio graph.size) → later.Unentered Set.univ fragment.first
  /-- Such a graph stays one. -/
  sound : graph.Closed (Set.Iio graph.size) → later.Closed (Set.Iio later.size)

/-- A node is its edges and what is there besides them. -/
theorem Node.eq_of_bare
    {node other : Node τ}
    (sameEdges : node.edges = other.edges)
    (sameBare : node.bare = other.bare) :
    node = other := by
  cases node
  cases other
  simp_all [Node.bare]

section Secludes

variable {loose : List Fragment} {fragment : Fragment}

/-- A graph with the same nodes in front has them in front of its list. -/
theorem Graph.toList_front
    (le : graph.size ≤ later.size)
    (same : ∀ id < graph.size, later.node id = graph.node id) :
    graph.nodes.toList <+: later.nodes.toList := by
  rw [List.prefix_iff_getElem?]
  intro id below
  have inside : id < graph.nodes.size := by
    simpa using below
  have still : id < later.nodes.size := Nat.lt_of_lt_of_le inside le
  have equal := same id inside
  simp only [node, Array.getElem?_eq_getElem inside, Array.getElem?_eq_getElem still,
    Option.getD_some] at equal
  simp [still, equal]

/-- A loose fragment is secluded, whatever may be found at its exit by now. -/
theorem Graph.Isolates.secludes
    (isolates : Isolates base graph loose)
    (member : fragment ∈ loose)
    (same : graph.SameEdges later)
    (bare : ∀ id, id ≠ fragment.last → (later.node id).bare = (base.node id).bare) :
    base.Secludes later fragment := by
  have sameAdded : base.added graph = base.added later := by
    rw [added, added, same.size]
  have firstInside := isolates.first_mem member
  have lastInside := isolates.last_mem member
  have closed := isolates.closed
  have entry := isolates.entry fragment member
  rw [sameAdded] at firstInside lastInside closed entry
  have le : base.size ≤ later.size := by
    rw [← same.size]
    exact isolates.size_le
  have old : ∀ id < base.size, later.node id = base.node id := by
    intro id below
    have different : id ≠ fragment.last :=
      Nat.ne_of_lt (Nat.lt_of_lt_of_le below lastInside.1)
    have sameEdges := isolates.edges id below (Set.notMem_empty id)
    exact Node.eq_of_bare ((same.edges id).symm.trans sameEdges) (bare id different)
  have laterClosed : later.Closed (base.added later) := by
    intro id idMember edge edgeMember
    rw [← same.edges] at edgeMember
    exact closed id idMember edge edgeMember
  have laterEntry : later.Unentered (base.added later) fragment.first := by
    intro id idMember edge edgeMember
    rw [← same.edges] at edgeMember
    exact entry id idMember edge edgeMember
  refine ⟨toList_front le old, firstInside, lastInside, isolates.first_ne_last member member,
    laterClosed, laterEntry, ?_, ?_, ?_⟩
  · rw [← same.edges]
    exact isolates.exit fragment member
  · intro sound id _ edge edgeMember
    rcases Nat.lt_or_ge id base.size with early | late
    · rw [old id early] at edgeMember
      exact Nat.ne_of_lt (Nat.lt_of_lt_of_le (sound id early edge edgeMember) firstInside.1)
    · exact laterEntry id ⟨late, lt_size_of_mem_edges edgeMember⟩ edge edgeMember
  · intro sound id below edge edgeMember
    rcases Nat.lt_or_ge id base.size with early | late
    · rw [old id early] at edgeMember
      exact Nat.lt_of_lt_of_le (sound id early edge edgeMember) le
    · exact (laterClosed id ⟨late, below⟩ edge edgeMember).2

/-- A new node is plain where nothing has been changed besides edges. -/
theorem Node.plain_of_bare
    {id : Nat}
    (bare : (later.node id).bare = (base.node id).bare)
    (new : base.size ≤ id) :
    (later.node id).Plain := by
  rw [Graph.node_of_size_le new] at bare
  exact ⟨congrArg Node.token bare, congrArg Node.priority bare, congrArg Node.immediate bare,
    congrArg Node.enderLength bare⟩

end Secludes

/--
The fragment of an expression is secluded, and of its nodes only the exit bears anything.  A
fragment that combinators have made is secluded as well, if it is made by a tree of them, or
as one of those that have not been used up.
-/
theorem Graph.secludes_built
    [PropertyParser] :
    (∀ (graph later : Graph τ) (text : String) (token : τ) (options : Options)
        (fragment : Fragment),
      Build.expression text token options graph = (.ok fragment, later) →
        graph.Secludes later fragment ∧
          ∀ id ∈ graph.added later, id ≠ fragment.last → (later.node id).Plain) ∧
      (∀ (composition : Composition) (graph : Graph τ),
        graph.Secludes (composition.build graph).2 (composition.build graph).1) ∧
        ∀ (base graph : Graph τ) (loose : List Fragment),
          Assembles base graph loose → ∀ fragment ∈ loose, base.Secludes graph fragment := by
  refine ⟨?_, ?_, ?_⟩
  · intro graph later text token options fragment added
    obtain ⟨expression, parsed, hasEnder⟩ := Build.parse_of_expression added
    obtain ⟨_, _, built, gains⟩ := Build.gains_expression parsed hasEnder token graph
    cases added.symm.trans built
    obtain ⟨rfl, same⟩ := Build.sameEdges_expression parsed added
    -- What the fragment is crossed by plays no part here.
    have others := (@gains Unit fun _ _ _ => False).others
    exact ⟨(expression.adds_build graph).secludes List.mem_cons_self same others,
      fun id member different => Node.plain_of_bare (others id different) member.1⟩
  · intro composition graph
    have assembles := composition.assembles (.start : Assembles graph graph [])
    have isolates := assembles.isolates
    exact isolates.secludes List.mem_cons_self (.refl _) fun id _ => isolates.bare id
  · intro base graph loose assembles fragment member
    have isolates := assembles.isolates
    exact isolates.secludes member (.refl _) fun id _ => isolates.bare id

/-- A node whose only edge is a loop. -/
def loopGraph : Graph Nat :=
  ⟨#[{ edges := [.silent 0], token := some 7, priority := 3 }]⟩

/-- The same optional group as text, as a tree, and put together from its end. -/
theorem secludes_optionalGroup :
    let letter (char : Char) : Label := .ofChar char
    let tree : Composition :=
      .optional (.chain (.star (.label (letter 'a'))) (.label (letter 'b')))
    loopGraph.Closed (Set.Iio loopGraph.size) ∧
      (∃ later,
        Build.expression "(a*b)?" 1 {} loopGraph = (.ok ⟨3, 6⟩, later) ∧
          later.size = 7 ∧
            loopGraph.Secludes later ⟨3, 6⟩ ∧
              later.Unentered Set.univ 3 ∧ (later.node 4).Plain ∧ ¬ (later.node 6).Plain) ∧
        loopGraph.Secludes (tree.build loopGraph).2 (tree.build loopGraph).1 ∧
          ∃ later,
            Assembles loopGraph later [⟨5, 2⟩] ∧
              loopGraph.Secludes later ⟨5, 2⟩ ∧ later.Unentered Set.univ 5 := by
  intro letter tree
  obtain ⟨ofText, ofTree, ofRun⟩ := @Graph.secludes_built Nat _
  have sound : loopGraph.Closed (Set.Iio loopGraph.size) := by
    intro id below edge member
    have first : id = 0 := Nat.lt_one_iff.mp below
    subst first
    cases List.mem_singleton.mp member
    exact Nat.zero_lt_one
  refine ⟨sound, ?_, ofTree tree loopGraph, ?_⟩
  · have built : (Build.expression "(a*b)?" 1 {} loopGraph).1.toOption = some ⟨3, 6⟩ := by
      decide +kernel
    have size : (Build.expression "(a*b)?" 1 {} loopGraph).2.size = 7 := by
      decide +kernel
    have terminal : ((Build.expression "(a*b)?" 1 {} loopGraph).2.node 6).token = some 1 := by
      decide +kernel
    have added :
        Build.expression "(a*b)?" 1 {} loopGraph =
          (.ok ⟨3, 6⟩, (Build.expression "(a*b)?" 1 {} loopGraph).2) :=
      Prod.ext (ok_of_toOption built) rfl
    obtain ⟨secludes, plain⟩ := ofText _ _ _ _ _ _ added
    refine ⟨_, added, size, secludes, secludes.unentered sound, plain 4 ?_ (by decide), ?_⟩
    · rw [Graph.added, size]
      exact ⟨by decide, by decide⟩
    · intro plain
      rw [plain.token] at terminal
      contradiction
  · have begun : Assembles loopGraph loopGraph [] := .start
    have latter := begun.combine (.label (letter 'b'))
    have inner := latter.combine (.label (letter 'a'))
    have former := inner.combine (.star _)
    have whole := former.combine (.chain _ _)
    have run := whole.combine (.optional _)
    have secludes := ofRun _ _ _ run _ List.mem_cons_self
    exact ⟨_, run, secludes, secludes.unentered sound⟩

end LexicalAutomata
