import LexicalAutomata.Graph.OfExpression
import LexicalAutomata.Proofs.Graph.Beside

namespace LexicalAutomata

/-!
# Building behind another graph

What an expression is built into does not depend on the nodes that are there already.  Behind
the nodes of another graph the same nodes are added, only with other numbers.  The edges that
are added bear the labels of the expression and lead to nodes of its fragment.
-/

mutual

/-- All labels of a piece are allowed ones. -/
def Piece.Bears
    (allowed : Label → Prop) :
    Piece → Prop
  | ⟨.label label, _⟩ =>
      allowed label
  | ⟨.group branches, _⟩ =>
      BranchesBear allowed branches

/-- All labels of a sequence of pieces are allowed ones. -/
def PiecesBear
    (allowed : Label → Prop) :
    List Piece → Prop
  | [] =>
      True
  | piece :: rest =>
      piece.Bears allowed ∧ PiecesBear allowed rest

/-- All labels of several branches are allowed ones. -/
def BranchesBear
    (allowed : Label → Prop) :
    List (List Piece) → Prop
  | [] =>
      True
  | pieces :: rest =>
      PiecesBear allowed pieces ∧ BranchesBear allowed rest

end

/-- All labels of an expression are allowed ones. -/
def Expression.Bears
    (expression : Expression)
    (allowed : Label → Prop) :
    Prop :=
  BranchesBear allowed expression

section Decidable

variable {allowed : Label → Prop} [DecidablePred allowed]

mutual

/-- Decide whether all labels of a piece are allowed ones. -/
def Piece.decideBears :
    (piece : Piece) →
    Decidable (piece.Bears allowed)
  | ⟨.label label, _⟩ =>
      inferInstanceAs (Decidable (allowed label))
  | ⟨.group branches, _⟩ =>
      decideBranchesBear branches

/-- Decide whether all labels of a sequence of pieces are allowed ones. -/
def decidePiecesBear :
    (pieces : List Piece) →
    Decidable (PiecesBear allowed pieces)
  | [] =>
      .isTrue trivial
  | piece :: rest =>
      @instDecidableAnd _ _ piece.decideBears (decidePiecesBear rest)

/-- Decide whether all labels of several branches are allowed ones. -/
def decideBranchesBear :
    (branches : List (List Piece)) →
    Decidable (BranchesBear allowed branches)
  | [] =>
      .isTrue trivial
  | pieces :: rest =>
      @instDecidableAnd _ _ (decidePiecesBear pieces) (decideBranchesBear rest)

end

instance
    (expression : Expression) :
    Decidable (expression.Bears allowed) :=
  decideBranchesBear expression

end Decidable

mutual

/-- Where all labels are allowed, those of a piece are. -/
theorem Piece.bears_of_forall
    {allowed : Label → Prop}
    (all : ∀ label, allowed label) :
    (piece : Piece) →
    piece.Bears allowed
  | ⟨.label label, _⟩ =>
      all label
  | ⟨.group branches, _⟩ =>
      branchesBear_of_forall all branches

/-- Pieces have only labels that are allowed if all labels are. -/
theorem piecesBear_of_forall
    {allowed : Label → Prop}
    (all : ∀ label, allowed label) :
    (pieces : List Piece) →
    PiecesBear allowed pieces
  | [] =>
      trivial
  | piece :: rest =>
      ⟨piece.bears_of_forall all, piecesBear_of_forall all rest⟩

/-- So do branches. -/
theorem branchesBear_of_forall
    {allowed : Label → Prop}
    (all : ∀ label, allowed label) :
    (branches : List (List Piece)) →
    BranchesBear allowed branches
  | [] =>
      trivial
  | pieces :: rest =>
      ⟨piecesBear_of_forall all pieces, branchesBear_of_forall all rest⟩

end

/-- What holds numbers of nodes, which can be moved by an amount. -/
class Located (α : Type) where
  shift : Nat → α → α
  /-- All numbers are below a size. -/
  Inside : Nat → α → Prop
  mono {size larger : Nat} {value : α} : size ≤ larger → Inside size value → Inside larger value

instance : Located Unit where
  shift _ value := value
  Inside _ _ := True
  mono _ _ := trivial

instance : Located Nat where
  shift amount id := amount + id
  Inside size id := id < size
  mono le inside := Nat.lt_of_lt_of_le inside le

instance : Located Fragment where
  shift amount fragment := ⟨amount + fragment.first, amount + fragment.last⟩
  Inside size fragment := fragment.first < size ∧ fragment.last < size
  mono le inside := ⟨Nat.lt_of_lt_of_le inside.1 le, Nat.lt_of_lt_of_le inside.2 le⟩

instance {α : Type} [Located α] : Located (Option α) where
  shift amount := Option.map (Located.shift amount)
  Inside size value := ∀ inner ∈ value, Located.Inside size inner
  mono le inside inner member := Located.mono le (inside inner member)

instance {α : Type} [Located α] : Located (List α) where
  shift amount := List.map (Located.shift amount)
  Inside size values := ∀ inner ∈ values, Located.Inside size inner
  mono le inside inner member := Located.mono le (inside inner member)

instance {α β : Type} [Located α] [Located β] : Located (α × β) where
  shift amount pair := (Located.shift amount pair.1, Located.shift amount pair.2)
  Inside size pair := Located.Inside size pair.1 ∧ Located.Inside size pair.2
  mono le inside := ⟨Located.mono le inside.1, Located.mono le inside.2⟩

instance {α ε : Type} [Located α] : Located (Except ε α) where
  shift amount := Except.map (Located.shift amount)
  Inside size result := ∀ value, result = .ok value → Located.Inside size value
  mono le inside value isOk := Located.mono le (inside value isOk)

variable {τ α β : Type} [Located α] [Located β]

/-- What is missing holds no numbers. -/
theorem inside_none
    {size : Nat} :
    Located.Inside size (none : Option α) :=
  fun _ member => (Option.not_mem_none _ member).elim

/-- What is there holds its own numbers. -/
theorem inside_some
    {size : Nat}
    {value : α}
    (inside : Located.Inside size value) :
    Located.Inside size (some value) := by
  intro inner member
  cases Option.mem_some_iff.mp member
  exact inside

namespace Build

/-- What is built behind another graph is what is built without it, with other numbers. -/
structure Relocated
    (front back : Graph τ)
    (allowed : Label → Prop)
    (result moved : α × Graph τ) : Prop where
  value : moved.1 = Located.shift front.size result.1
  graph : moved.2 = front.beside result.2
  size_le : back.size ≤ result.2.size
  inside : Located.Inside result.2.size result.1
  bears : result.2.Bears allowed

/-- Behind the graph `front`, `moved` builds what `build` builds without it. -/
def Relocates
    (front : Graph τ)
    (allowed : Label → Prop)
    (size : Nat)
    (build moved : Build τ α) :
    Prop :=
  ∀ back,
    size ≤ back.size →
      back.Bears allowed →
        Relocated front back allowed (build back) (moved (front.beside back))

variable {front : Graph τ} {allowed : Label → Prop} {size : Nat}

/-- A value that is given back is moved. -/
theorem relocates_pure
    {value : α}
    (inside : Located.Inside size value) :
    Relocates front allowed size (pure value : Build τ α)
      (pure (Located.shift front.size value)) :=
  fun _ le bears => ⟨rfl, rfl, Nat.le_refl _, Located.mono le inside, bears⟩

/-- Nothing is built, and no number is given back. -/
theorem relocates_done :
    Relocates front allowed size (pure () : Build τ Unit) (pure ()) :=
  fun _ _ bears => ⟨rfl, rfl, Nat.le_refl _, trivial, bears⟩

/-- What comes second is built with the numbers that the first has been given. -/
theorem Relocates.bind
    {first firstMoved : Build τ α}
    {rest restMoved : α → Build τ β}
    (relocates : Relocates front allowed size first firstMoved)
    (restRelocates :
      ∀ larger,
        size ≤ larger →
          ∀ value,
            Located.Inside larger value →
              Relocates front allowed larger (rest value)
                (restMoved (Located.shift front.size value))) :
    Relocates front allowed size (first >>= rest) (firstMoved >>= restMoved) := by
  intro back le bears
  have firstly := relocates back le bears
  have secondly :=
    restRelocates _ (le.trans firstly.size_le) _ firstly.inside _ (Nat.le_refl _) firstly.bears
  rw [← firstly.value, ← firstly.graph] at secondly
  exact { secondly with size_le := firstly.size_le.trans secondly.size_le }

/-- Where building is refused, it is refused behind every graph. -/
theorem relocates_error
    {ε : Type}
    (error : ε) :
    Relocates front allowed size (pure (.error error) : Build τ (Except ε α))
      (pure (.error error)) :=
  fun _ _ bears => ⟨rfl, rfl, Nat.le_refl _, fun _ => nofun, bears⟩

/-- A value that is given back as a success is moved as well. -/
theorem Relocates.ok
    {ε : Type}
    {build moved : Build τ α}
    (relocates : Relocates front allowed size build moved) :
    Relocates front allowed size
      (build >>= fun value => pure (.ok value : Except ε α))
      (moved >>= fun value => pure (.ok value : Except ε α)) := by
  refine relocates.bind fun larger _ value inside => ?_
  have isOk : Located.Inside larger (.ok value : Except ε α) := by
    intro other same
    cases same
    exact inside
  exact relocates_pure isOk

/-- A node is added behind another graph as it is alone. -/
theorem relocates_node :
    Relocates front allowed size (node : Build τ Nat) node := by
  intro back _ bears
  exact ⟨Graph.size_beside, Graph.beside_addNode.symm,
    Nat.le_of_lt (by simp [node, modifyGet, MonadStateOf.modifyGet, StateT.modifyGet, pure]),
    by simp [Located.Inside, node, modifyGet, MonadStateOf.modifyGet, StateT.modifyGet, pure],
    bears.addNode⟩

/-- An edge between nodes that are there already. -/
theorem relocates_addEdge
    {source : Nat}
    {edge : Edge}
    (fits : edge.Fits allowed size) :
    Relocates front allowed size
      (modify fun graph => graph.addEdge source edge : Build τ Unit)
      (modify fun graph => graph.addEdge (front.size + source) (edge.shift front.size)) :=
  fun _ le bears =>
    ⟨rfl, (Graph.beside_addEdge source edge).symm, Nat.le_of_eq (Graph.size_addEdge _ _ _).symm,
      trivial, bears.addEdge source (fits.mono le)⟩

/-- Nodes are linked at their new places. -/
theorem relocates_link
    {source target : Nat}
    (inside : target < size) :
    Relocates front allowed size (link source target : Build τ Unit)
      (link (front.size + source) (front.size + target)) :=
  have fits : (Edge.silent target).Fits allowed size := inside
  relocates_addEdge fits

/-- A change that has nothing to do with edges. -/
theorem relocates_change
    {id : Nat}
    {change : Node τ → Node τ}
    (keeps : ∀ node, (change node).edges = node.edges)
    (shifts : ∀ amount node, (change node).shift amount = change (node.shift amount)) :
    Relocates front allowed size (Build.change id change) (Build.change (front.size + id) change) :=
  fun _ _ bears =>
    ⟨rfl, (Graph.beside_modifyNode (shifts front.size)).symm,
      Nat.le_of_eq (Graph.size_modifyNode _ _ _).symm, trivial, bears.modifyNode id keeps⟩

/-- The fragment of the empty text is built behind another graph as it is alone. -/
theorem relocates_empty :
    Relocates front allowed size (empty : Build τ Fragment) empty :=
  relocates_node.bind fun _ _ _ firstInside =>
    relocates_node.bind fun _ le _ lastInside =>
      (relocates_link lastInside).bind fun _ further _ _ =>
        relocates_pure
          ⟨Located.mono (le.trans further) firstInside, Located.mono further lastInside⟩

/-- So is the fragment of a label. -/
theorem relocates_label
    {label : Label}
    (isAllowed : allowed label) :
    Relocates front allowed size (Build.label label : Build τ Fragment) (Build.label label) :=
  relocates_node.bind fun _ _ _ firstInside =>
    relocates_node.bind fun larger le last lastInside =>
      have fits : (Edge.labelled label last).Fits allowed larger := ⟨isAllowed, lastInside⟩
      (relocates_addEdge fits).bind fun _ further _ _ =>
        relocates_pure
          ⟨Located.mono (le.trans further) firstInside, Located.mono further lastInside⟩

/-- Fragments are chained at their new places. -/
theorem relocates_chain
    {former latter : Fragment}
    (formerInside : Located.Inside size former)
    (latterInside : Located.Inside size latter) :
    Relocates front allowed size (chain former latter : Build τ Fragment)
      (chain (Located.shift front.size former) (Located.shift front.size latter)) :=
  (relocates_link latterInside.1).bind fun _ le _ _ =>
    relocates_pure
      ⟨Nat.lt_of_lt_of_le formerInside.1 le, Nat.lt_of_lt_of_le latterInside.2 le⟩

/-- A fragment is appended at its new place. -/
theorem relocates_append
    {former : Option Fragment}
    {latter : Fragment}
    (formerInside : Located.Inside size former)
    (latterInside : Located.Inside size latter) :
    Relocates front allowed size (append former latter : Build τ Fragment)
      (append (Located.shift front.size former) (Located.shift front.size latter)) := by
  cases former with
  | none =>
      exact relocates_pure latterInside
  | some former =>
      exact relocates_chain (formerInside former rfl) latterInside

/-- A missing fragment is replaced behind another graph as it is alone. -/
theorem relocates_orEmpty
    {fragment : Option Fragment}
    (inside : Located.Inside size fragment) :
    Relocates front allowed size (orEmpty fragment : Build τ Fragment)
      (orEmpty (Located.shift front.size fragment)) := by
  cases fragment with
  | none =>
      exact relocates_empty
  | some fragment =>
      exact relocates_pure (inside fragment rfl)

/-- A loop is built around a fragment at its new place. -/
theorem relocates_star
    {inner : Fragment}
    (inside : Located.Inside size inner) :
    Relocates front allowed size (star inner : Build τ Fragment)
      (star (Located.shift front.size inner)) :=
  relocates_node.bind fun _ second _ firstInside =>
    relocates_node.bind fun _ third _ lastInside =>
      have innerInside := Located.mono (second.trans third) inside
      (relocates_link innerInside.1).bind fun _ fourth _ _ =>
        (relocates_link (Located.mono fourth innerInside).1).bind fun _ fifth _ _ =>
          (relocates_link (Located.mono (fourth.trans fifth) lastInside)).bind fun _ sixth _ _ =>
            have onward := (fourth.trans fifth).trans sixth
            (relocates_link (Located.mono onward lastInside)).bind fun _ seventh _ _ =>
              relocates_pure
                ⟨Located.mono (third.trans (onward.trans seventh)) firstInside,
                  Located.mono (onward.trans seventh) lastInside⟩

/-- A way past a fragment is built at its new place. -/
theorem relocates_optional
    {inner : Fragment}
    (inside : Located.Inside size inner) :
    Relocates front allowed size (optional inner : Build τ Fragment)
      (optional (Located.shift front.size inner)) :=
  (relocates_link inside.2).bind fun _ le _ _ => relocates_pure (Located.mono le inside)

/-- Fragments are enclosed at their new places. -/
theorem relocates_enclose
    {first last : Nat}
    {fragments : List Fragment}
    (lastInside : last < size)
    (inside : Located.Inside size fragments) :
    Relocates front allowed size (enclose first last fragments : Build τ Unit)
      (enclose (front.size + first) (front.size + last)
        (Located.shift front.size fragments)) := by
  induction fragments generalizing size with
  | nil =>
      exact relocates_done
  | cons inner rest inductionHypothesis =>
      have innerInside := inside inner List.mem_cons_self
      refine (relocates_link innerInside.1).bind fun _ le _ _ => ?_
      refine (relocates_link (Nat.lt_of_lt_of_le lastInside le)).bind fun _ further _ _ => ?_
      refine inductionHypothesis (Nat.lt_of_lt_of_le lastInside (le.trans further)) ?_
      intro other member
      exact Located.mono (le.trans further) (inside other (List.mem_cons_of_mem _ member))

/-- Fragments are united at their new places. -/
theorem relocates_union
    {fragments : List Fragment}
    (inside : Located.Inside size fragments) :
    Relocates front allowed size (union fragments : Build τ Fragment)
      (union (Located.shift front.size fragments)) :=
  relocates_node.bind fun _ second _ firstInside =>
    relocates_node.bind fun _ third _ lastInside =>
      (relocates_enclose lastInside (Located.mono (second.trans third) inside)).bind
        fun _ fourth _ _ =>
          relocates_pure
            ⟨Located.mono (third.trans fourth) firstInside, Located.mono fourth lastInside⟩

/-- A single fragment stays as it is, and several are united. -/
theorem relocates_alternatives
    {fragments : List Fragment}
    (inside : Located.Inside size fragments) :
    Relocates front allowed size (alternatives fragments : Build τ Fragment)
      (alternatives (Located.shift front.size fragments)) := by
  match fragments with
  | [] =>
      exact relocates_union inside
  | [only] =>
      exact relocates_pure (inside only List.mem_cons_self)
  | _ :: _ :: _ =>
      exact relocates_union inside

section Copies

variable {copy : Build τ Fragment}

/-- Copies that must be read are chained at their new places. -/
theorem relocates_mandatoryCopies
    (relocates : ∀ size, Relocates front allowed size copy copy)
    {former : Option Fragment}
    (inside : Located.Inside size former)
    (count : Nat) :
    Relocates front allowed size (mandatoryCopies copy former count)
      (mandatoryCopies copy (Located.shift front.size former) count) := by
  induction count generalizing size former with
  | zero =>
      exact relocates_pure inside
  | succ count inductionHypothesis =>
      refine (relocates size).bind fun _ le latter latterInside => ?_
      refine (relocates_append (Located.mono le inside) latterInside).bind
        fun _ _ _ wholeInside => ?_
      exact inductionHypothesis (inside_some wholeInside)

/-- Copies that may be skipped are chained, and their entries are moved. -/
theorem relocates_skippableCopies
    (relocates : ∀ size, Relocates front allowed size copy copy)
    {former : Option Fragment}
    {entries : List Nat}
    (inside : Located.Inside size former)
    (entriesInside : Located.Inside size entries)
    (count : Nat) :
    Relocates front allowed size (skippableCopies copy former entries count)
      (skippableCopies copy (Located.shift front.size former)
        (Located.shift front.size entries) count) := by
  induction count generalizing size former entries with
  | zero =>
      have both : Located.Inside size (former, entries) := ⟨inside, entriesInside⟩
      exact relocates_pure both
  | succ count inductionHypothesis =>
      refine (relocates size).bind fun _ le latter latterInside => ?_
      refine (relocates_append (Located.mono le inside) latterInside).bind
        fun largest further _ wholeInside => ?_
      have more : Located.Inside largest (entries ++ [latter.first]) := by
        intro entry member
        rcases List.mem_append.mp member with old | new
        · exact Located.mono (le.trans further) (entriesInside entry old)
        · cases List.mem_singleton.mp new
          exact (Located.mono further latterInside).1
      have rest := inductionHypothesis (inside_some wholeInside) more
      have moved :
          Located.shift front.size (entries ++ [latter.first]) =
            Located.shift front.size entries ++ [front.size + latter.first] :=
        List.map_append
      rw [moved] at rest
      exact rest

/-- All entries are linked at their new places. -/
theorem relocates_linkAll
    {target : Nat}
    {entries : List Nat}
    (inside : target < size) :
    Relocates front allowed size (linkAll target entries : Build τ Unit)
      (linkAll (front.size + target) (Located.shift front.size entries)) := by
  induction entries generalizing size with
  | nil =>
      exact relocates_done
  | cons entry rest inductionHypothesis =>
      exact (relocates_link inside).bind fun _ le _ _ =>
        inductionHypothesis (Nat.lt_of_lt_of_le inside le)

/-- Labels that may be skipped are chained at their new places. -/
theorem relocates_optionalLabels
    (relocates : ∀ size, Relocates front allowed size copy copy)
    {former : Option Fragment}
    (inside : Located.Inside size former)
    (count : Nat) :
    Relocates front allowed size (optionalLabels copy former count)
      (optionalLabels copy (Located.shift front.size former) count) := by
  have noEntries : Located.Inside size ([] : List Nat) := fun _ => (absurd · List.not_mem_nil)
  refine (relocates_skippableCopies relocates inside noEntries count).bind ?_
  rintro larger _ ⟨whole, entries⟩ ⟨wholeInside, _⟩
  cases whole with
  | none =>
      exact relocates_pure wholeInside
  | some fragment =>
      exact (relocates_linkAll (wholeInside fragment rfl).2).bind fun _ le _ _ =>
        relocates_pure (Located.mono le wholeInside)

/-- Optional copies are mandatory copies of what may be left out. -/
theorem relocates_optionalCopies
    (relocates : ∀ size, Relocates front allowed size copy copy)
    {former : Option Fragment}
    (inside : Located.Inside size former)
    (count : Nat) :
    Relocates front allowed size (optionalCopies copy former count)
      (optionalCopies copy (Located.shift front.size former) count) :=
  have optionalRelocates :
      ∀ size, Relocates front allowed size (copy >>= optional) (copy >>= optional) :=
    fun size => (relocates size).bind fun _ _ _ copied => relocates_optional copied
  relocates_mandatoryCopies optionalRelocates inside count

/-- A fragment is repeated behind another graph as it is alone. -/
theorem relocates_repeated
    (relocates : ∀ size, Relocates front allowed size copy copy)
    {optionalPart : Option Fragment → Nat → Build τ (Option Fragment)}
    (optionalRelocates :
      ∀ size former count,
        Located.Inside size former →
          Relocates front allowed size (optionalPart former count)
            (optionalPart (Located.shift front.size former) count))
    (quantifier : Quantifier) :
    Relocates front allowed size (repeated quantifier copy optionalPart)
      (repeated quantifier copy optionalPart) := by
  unfold repeated
  split
  · exact relocates_empty
  · refine (relocates_mandatoryCopies relocates inside_none quantifier.min).bind
      fun larger _ former formerInside => ?_
    cases quantifier.max with
    | none =>
        refine Relocates.bind
          ((relocates larger).bind fun _ _ _ copied => relocates_star copied) ?_
        exact fun _ le _ starred => relocates_append (Located.mono le formerInside) starred
    | some most =>
        exact (optionalRelocates larger former (most - quantifier.min) formerInside).bind
          fun _ _ _ whole => relocates_orEmpty whole

end Copies

end Build

mutual

/-- A piece is built behind another graph as it is alone. -/
theorem Piece.relocates_build
    {front : Graph τ}
    {allowed : Label → Prop}
    (piece : Piece)
    (bears : piece.Bears allowed)
    (size : Nat) :
    Build.Relocates front allowed size piece.build piece.build := by
  match piece with
  | ⟨.label label, quantifier⟩ =>
      have relocates : ∀ size, Build.Relocates front allowed size (Build.label label) _ :=
        fun _ => Build.relocates_label bears
      rw [Piece.build]
      exact Build.relocates_repeated relocates
        (fun _ _ count inside => Build.relocates_optionalLabels relocates inside count) quantifier
  | ⟨.group branches, quantifier⟩ =>
      have relocates :
          ∀ size,
            Build.Relocates front allowed size (buildBranches branches >>= Build.alternatives) _ :=
        fun size =>
          (relocates_buildBranches branches bears size).bind fun _ _ _ built =>
            Build.relocates_alternatives built
      rw [Piece.build]
      exact Build.relocates_repeated relocates
        (fun _ _ count inside => Build.relocates_optionalCopies relocates inside count) quantifier

/-- Pieces are appended to a fragment at its new place. -/
theorem relocates_buildPieces
    {front : Graph τ}
    {allowed : Label → Prop}
    (pieces : List Piece)
    (bears : PiecesBear allowed pieces)
    {size : Nat}
    {former : Option Fragment}
    (inside : Located.Inside size former) :
    Build.Relocates front allowed size (buildPieces pieces former)
      (buildPieces pieces (Located.shift front.size former)) := by
  match pieces with
  | [] =>
      exact Build.relocates_pure inside
  | piece :: rest =>
      refine (piece.relocates_build bears.1 size).bind fun _ le _ latterInside => ?_
      refine (Build.relocates_append (Located.mono le inside) latterInside).bind
        fun _ _ _ wholeInside => ?_
      exact relocates_buildPieces rest bears.2 (inside_some wholeInside)

/-- Branches are built behind another graph as they are alone. -/
theorem relocates_buildBranches
    {front : Graph τ}
    {allowed : Label → Prop}
    (branches : List (List Piece))
    (bears : BranchesBear allowed branches)
    (size : Nat) :
    Build.Relocates front allowed size (buildBranches branches) (buildBranches branches) := by
  match branches with
  | [] =>
      have noFragments : Located.Inside size ([] : List Fragment) :=
        fun _ => (absurd · List.not_mem_nil)
      exact Build.relocates_pure noFragments
  | pieces :: rest =>
      refine (relocates_buildPieces pieces bears.1 inside_none).bind
        fun _ _ _ wholeInside => ?_
      refine (Build.relocates_orEmpty wholeInside).bind
        fun larger _ fragment fragmentInside => ?_
      refine (relocates_buildBranches rest bears.2 larger).bind
        fun largest le others othersInside => ?_
      have allInside : Located.Inside largest (fragment :: others) := by
        intro other member
        rcases List.mem_cons.mp member with same | later
        · rw [same]
          exact Located.mono le fragmentInside
        · exact othersInside other later
      exact Build.relocates_pure allInside

end

namespace Build

variable {front : Graph τ} {allowed : Label → Prop} {size : Nat}

/-- The fragment of an expression is the same behind every graph. -/
theorem relocates_expression_build
    {expression : Expression}
    (bears : expression.Bears allowed) :
    Relocates front allowed size (expression.build : Build τ Fragment) expression.build :=
  (relocates_buildBranches expression bears size).bind fun _ _ _ built =>
    relocates_alternatives built

/-- A priority is raised at the new place of its node. -/
theorem relocates_raise
    (id : Nat)
    (amount : Int32) :
    Relocates front allowed size (raise id amount : Build τ Unit)
      (raise (front.size + id) amount) :=
  relocates_change (fun _ => rfl) fun _ _ => rfl

/-- A fragment is finished at its new place. -/
theorem relocates_finish
    {fragment : Fragment}
    (inside : Located.Inside size fragment)
    (expression : Expression)
    (token : τ)
    (options : Options) :
    Relocates front allowed size (finish fragment expression token options)
      (finish (Located.shift front.size fragment) expression token options) := by
  unfold finish
  have tokened :
      Relocates front allowed size
        (Build.change fragment.last fun node => { node with token := some token })
        (Build.change (front.size + fragment.last)
          fun node => { node with token := some token }) :=
    relocates_change (fun _ => rfl) fun _ _ => rfl
  refine tokened.bind fun _ second _ _ => ?_
  have ends :
      ∀ larger,
        size ≤ larger →
          Relocates front allowed larger
            (do
              if options.acceptImmediately then
                Build.change fragment.last fun node => { node with immediate := true }
              return fragment)
            (do
              if options.acceptImmediately then
                Build.change (front.size + fragment.last)
                  fun node => { node with immediate := true }
              return Located.shift front.size fragment) := by
    intro larger le
    cases options.acceptImmediately with
    | false =>
        exact relocates_pure (Located.mono le inside)
    | true =>
        have hurried :
            Relocates front allowed larger
              (Build.change fragment.last fun node => { node with immediate := true })
              (Build.change (front.size + fragment.last)
                fun node => { node with immediate := true }) :=
          relocates_change (fun _ => rfl) fun _ _ => rfl
        exact hurried.bind fun _ further _ _ =>
          relocates_pure (Located.mono (le.trans further) inside)
  cases expression.isLiteral with
  | false =>
      exact ends _ second
  | true =>
      exact (relocates_raise fragment.last 1).bind fun _ further _ _ =>
        ends _ (second.trans further)

end Build

end LexicalAutomata
