import LexicalAutomata.Proofs.Graph.Isolation

namespace LexicalAutomata

/-!
# Putting fragments together

A combinator makes one fragment, and uses up those that it is made of.  Whatever is put
together in this way, step after step and in any order, the fragments that have not been used
up are loose.  In particular this holds for a tree of combinators, which uses each fragment
once: for the one in which it is an operand.
-/

open LexicalAutomata.Graph (Isolates)

variable {τ : Type} {base graph : Graph τ} {loose rest : List Fragment}

namespace Build

/-- A build adds a loose fragment to every graph, and nothing else. -/
def Adds
    (build : Build τ Fragment) :
    Prop :=
  ∀ graph, Isolates graph (build graph).2 [(build graph).1]

/-- A build uses up the loose fragment that there may be, and leaves another one. -/
def Prolongs
    (build : Option Fragment → Build τ (Option Fragment)) :
    Prop :=
  ∀ base graph former,
    Isolates base graph former.toList →
      Isolates base (build former graph).2 (build former graph).1.toList

section Adds

variable {copy : Build τ Fragment}

/-- The fragments that are loose already stay loose. -/
theorem Adds.isolates
    (adds : Adds copy)
    (isolates : Isolates base graph loose) :
    Isolates base (copy graph).2 ((copy graph).1 :: loose) :=
  isolates.trans (adds graph)

/-- Two new nodes with an edge between them. -/
theorem isolates_bridge
    (graph : Graph τ)
    {edge : Edge}
    (across : edge.target = graph.size + 1) :
    Isolates graph (graph.addNode.addNode.addEdge graph.size edge)
      [⟨graph.size, graph.size + 1⟩] := by
  have bridged := graph.isolates_addNode_addNode.bridge across
  exact bridged

/-- The fragment of the empty text is added loose. -/
theorem adds_empty :
    Adds (Build.empty : Build τ Fragment) := by
  intro graph
  rw [empty_eq]
  exact isolates_bridge graph rfl

/-- The fragment of a label is added loose. -/
theorem adds_label
    (label : Label) :
    Adds (Build.label label : Build τ Fragment) := by
  intro graph
  rw [label_eq]
  exact isolates_bridge graph rfl

/-- A way past a loose fragment is added loose. -/
theorem Adds.optional
    (adds : Adds copy) :
    Adds (copy >>= Build.optional) :=
  fun graph => (adds graph).bridge rfl

/-- A loop around a loose fragment is added loose. -/
theorem Adds.star
    (adds : Adds copy) :
    Adds (copy >>= Build.star) :=
  fun graph => (adds graph).star

/-- A fragment is appended to the one in front of it, and both are one. -/
theorem isolates_append
    {former : Option Fragment}
    {latter : Fragment}
    (isolates : Isolates base graph (latter :: former.toList)) :
    Isolates base (append former latter graph).2 [(append former latter graph).1] := by
  cases former with
  | none =>
      exact isolates
  | some former =>
      exact (isolates.perm (.swap _ _ _)).chain

/-- A copy is put behind what there is. -/
theorem Adds.append
    (adds : Adds copy)
    {former : Option Fragment}
    (isolates : Isolates base graph former.toList) :
    let latter := copy graph
    let whole := Build.append former latter.1 latter.2
    Isolates base whole.2 [whole.1] :=
  isolates_append (adds.isolates isolates)

/-- One copy more in front of what a build puts behind. -/
theorem Adds.prolongs_cons
    (adds : Adds copy)
    {build : Option Fragment → Build τ (Option Fragment)}
    (prolongs : Prolongs build) :
    Prolongs
      (fun former => do
        let latter ← copy
        let whole ← Build.append former latter
        build (some whole)) :=
  fun base _ _ isolates => prolongs base _ (some _) (adds.append isolates)

/-- A fragment can be left as it is. -/
theorem prolongs_pure :
    Prolongs (pure : Option Fragment → Build τ (Option Fragment)) :=
  fun _ _ _ isolates => isolates

/-- A missing fragment is replaced by a loose one. -/
theorem isolates_orEmpty
    {fragment : Option Fragment}
    (isolates : Isolates base graph fragment.toList) :
    Isolates base (orEmpty fragment graph).2 [(orEmpty fragment graph).1] := by
  cases fragment with
  | none =>
      exact adds_empty.isolates isolates
  | some fragment =>
      exact isolates

/-- What prolongs nothing adds a fragment, if need be an empty one. -/
theorem Prolongs.adds_orEmpty
    {build : Option Fragment → Build τ (Option Fragment)}
    (prolongs : Prolongs build) :
    Adds (build none >>= Build.orEmpty) :=
  fun graph => isolates_orEmpty (prolongs graph graph none (.refl graph))

/-- Characters are appended one after the other. -/
theorem prolongs_appendChars
    (chars : List Char) :
    Prolongs (fun former => (appendChars former chars : Build τ (Option Fragment))) := by
  induction chars with
  | nil =>
      exact prolongs_pure
  | cons char rest inductionHypothesis =>
      exact (adds_label _).prolongs_cons inductionHypothesis

/-- The fragment of a text is added loose. -/
theorem adds_text
    (chars : List Char) :
    Adds (Build.text chars : Build τ Fragment) :=
  (prolongs_appendChars chars).adds_orEmpty

end Adds

/-- A combinator, with the fragments that it uses up. -/
inductive Combines : List Fragment → Build τ Fragment → Prop where
  | empty :
      Combines [] Build.empty
  | label (label : Label) :
      Combines [] (Build.label label)
  | text (chars : List Char) :
      Combines [] (Build.text chars)
  | chain (former latter : Fragment) :
      Combines [former, latter] (Build.chain former latter)
  | star (inner : Fragment) :
      Combines [inner] (Build.star inner)
  | optional (inner : Fragment) :
      Combines [inner] (Build.optional inner)
  | union (fragments : List Fragment) :
      Combines fragments (Build.union fragments)

/-- A combinator leaves one loose fragment in the place of those that it uses up. -/
theorem Combines.isolates
    {used : List Fragment}
    {build : Build τ Fragment}
    (combines : Combines used build)
    (isolates : Isolates base graph (used ++ rest)) :
    Isolates base (build graph).2 ((build graph).1 :: rest) := by
  cases combines with
  | empty =>
      exact adds_empty.isolates isolates
  | label label =>
      exact (adds_label label).isolates isolates
  | text chars =>
      exact (adds_text chars).isolates isolates
  | chain former latter =>
      exact isolates.chain
  | star inner =>
      exact isolates.star
  | optional inner =>
      exact isolates.bridge rfl
  | union fragments =>
      exact isolates.union

end Build

/--
A graph that combinators have made of `base`, in any order, with the fragments that have not
been used up.
-/
inductive Assembles
    (base : Graph τ) :
    Graph τ →
    List Fragment →
    Prop where
  | start :
      Assembles base base []
  | combine
      {graph : Graph τ}
      {used rest : List Fragment}
      {build : Build τ Fragment} :
      Build.Combines used build →
      Assembles base graph (used ++ rest) →
      Assembles base (build graph).2 ((build graph).1 :: rest)
  | rearrange
      {graph : Graph τ}
      {loose other : List Fragment} :
      Assembles base graph loose →
      loose.Perm other →
      Assembles base graph other

/-- Fragments that have not been used up are loose. -/
theorem Assembles.isolates
    (assembles : Assembles base graph loose) :
    Isolates base graph loose := by
  induction assembles with
  | start =>
      exact .refl base
  | combine combines _ inductionHypothesis =>
      exact combines.isolates inductionHypothesis
  | rearrange _ same inductionHypothesis =>
      exact inductionHypothesis.perm same

/-- A tree of combinators, in which each operand is used in one place only. -/
inductive Composition where
  | empty
  | label (label : Label)
  | text (chars : List Char)
  | chain (former latter : Composition)
  | star (inner : Composition)
  | optional (inner : Composition)
  | union (branches : List Composition)

mutual

/-- The fragment of a tree, whose operands are built from left to right. -/
def Composition.build : Composition → Build τ Fragment
  | .empty =>
      Build.empty
  | .label label =>
      Build.label label
  | .text chars =>
      Build.text chars
  | .chain former latter => do
      let former ← former.build
      let latter ← latter.build
      Build.chain former latter
  | .star inner =>
      inner.build >>= Build.star
  | .optional inner =>
      inner.build >>= Build.optional
  | .union branches =>
      buildCompositions branches >>= Build.union

/-- The fragments of several trees. -/
def buildCompositions : List Composition → Build τ (List Fragment)
  | [] =>
      return []
  | composition :: rest => do
      let fragment ← composition.build
      return fragment :: (← buildCompositions rest)

end

mutual

/-- A tree is put together by combinators. -/
theorem Composition.assembles
    {base graph : Graph τ}
    {loose : List Fragment}
    (composition : Composition)
    (assembles : Assembles base graph loose) :
    Assembles base (composition.build graph).2 ((composition.build graph).1 :: loose) := by
  match composition with
  | .empty =>
      rw [Composition.build]
      exact assembles.combine .empty
  | .label label =>
      rw [Composition.build]
      exact assembles.combine (.label label)
  | .text chars =>
      rw [Composition.build]
      exact assembles.combine (.text chars)
  | .chain former latter =>
      rw [Composition.build]
      have both := (latter.assembles (former.assembles assembles)).rearrange (.swap _ _ _)
      have joined := both.combine (.chain _ _)
      exact joined
  | .star inner =>
      rw [Composition.build]
      have whole := (inner.assembles assembles).combine (.star _)
      exact whole
  | .optional inner =>
      rw [Composition.build]
      have whole := (inner.assembles assembles).combine (.optional _)
      exact whole
  | .union branches =>
      rw [Composition.build]
      have whole := (assembles_buildCompositions branches assembles).combine (.union _)
      exact whole

/-- Compositions are built one after the other. -/
theorem assembles_buildCompositions
    {base graph : Graph τ}
    {loose : List Fragment}
    (compositions : List Composition)
    (assembles : Assembles base graph loose) :
    Assembles base (buildCompositions compositions graph).2
      ((buildCompositions compositions graph).1 ++ loose) := by
  match compositions with
  | [] =>
      rw [buildCompositions]
      exact assembles
  | composition :: rest =>
      rw [buildCompositions]
      have others := assembles_buildCompositions rest (composition.assembles assembles)
      exact others.rearrange List.perm_middle

end

end LexicalAutomata
