import LexicalAutomata.Proofs.Expression.Matching
import LexicalAutomata.Proofs.Graph.Combinators
import LexicalAutomata.Proofs.Graph.Fragments

namespace LexicalAutomata

/-!
# Copies of fragments

Every copy of a fragment is built behind all nodes that there are, so it lies in a region
of its own.  A build either makes a new fragment, or extends what has been put together
in front of it.
-/

variable {τ σ : Type} {crossing : Label → σ → σ → Prop}

/-- What has been put together so far is crossed between two points. -/
def Graph.Holds
    (graph : Graph τ)
    (crossing : Label → σ → σ → Prop)
    (region : Set Nat) :
    Option Fragment →
    (σ → σ → Prop) →
    Prop
  | none, crosses =>
      region = ∅ ∧ crosses = Eq
  | some fragment, crosses =>
      graph.Offers crossing region fragment crosses

/-- From some entries what comes behind them may still be left out. -/
def Graph.Skips
    (graph : Graph τ)
    (crossing : Label → σ → σ → Prop)
    (region : Set Nat)
    (whole : Option Fragment)
    (entries : List Nat)
    (skips : σ → σ → Prop) :
    Prop :=
  match whole with
  | none =>
      entries = [] ∧ ∀ source target, ¬ skips source target
  | some fragment =>
      (∀ entry ∈ entries, entry ∈ region ∧ entry ≠ fragment.last) ∧
        ∀ source target,
          skips source target ↔
            ∃ entry ∈ entries,
              graph.Route crossing (fragment.first, source) (entry, target)

section Skips

variable {graph later : Graph τ} {region other : Set Nat} {former latter : Fragment}
  {entries : List Nat} {before crosses skips : σ → σ → Prop}

/-- New nodes do not matter to what may be left out. -/
theorem Graph.Skips.grow
    (skippable : graph.Skips crossing region (some former) entries skips)
    (offers : graph.Offers crossing region former before)
    (grows : Graph.Grows ∅ graph later) :
    later.Skips crossing region (some former) entries skips := by
  obtain ⟨inside, skips_iff⟩ := skippable
  refine ⟨inside, ?_⟩
  intro source target
  rw [skips_iff]
  have same : ∀ id ∈ region, (later.node id).edges = (graph.node id).edges :=
    fun id member => grows.edges id (offers.inside id member) (Set.notMem_empty id)
  refine exists_congr fun entry => and_congr_right fun _ => ?_
  exact (Graph.route_congr offers.closed same offers.first).symm

/-- Behind what may be left out comes one more fragment, and its entry is one more. -/
theorem Graph.Offers.skips_chain
    (offers : graph.Offers crossing region former before)
    (latterOffers : graph.Offers crossing other latter crosses)
    (disjoint : Disjoint region other)
    (skippable : graph.Skips crossing region (some former) entries skips) :
    (graph.link former.last latter.first).Skips crossing (region ∪ other)
      (some ⟨former.first, latter.last⟩) (entries ++ [latter.first])
      (fun source target => skips source target ∨ before source target) := by
  obtain ⟨inside, skips_iff⟩ := skippable
  constructor
  · intro entry member
    rcases List.mem_append.mp member with old | new
    · refine ⟨Or.inl (inside entry old).1, ?_⟩
      exact Set.disjoint_iff_forall_ne.mp disjoint (inside entry old).1 latterOffers.last
    · cases List.mem_singleton.mp new
      exact ⟨Or.inr latterOffers.first, latterOffers.distinct⟩
  · intro source target
    have toOld :
        ∀ entry ∈ entries,
          (graph.link former.last latter.first).Route crossing (former.first, source)
              (entry, target) ↔
            graph.Route crossing (former.first, source) (entry, target) := by
      intro entry member
      refine (offers.route_chain latterOffers disjoint).trans (or_iff_left ?_)
      rintro ⟨_, _, back⟩
      exact latterOffers.closed.not_route disjoint.symm latterOffers.first (inside entry member).1
        back
    have toNew :
        (graph.link former.last latter.first).Route crossing (former.first, source)
            (latter.first, target) ↔
          before source target := by
      refine (offers.route_chain latterOffers disjoint).trans ?_
      constructor
      · rintro (route | ⟨middle, crossed, back⟩)
        · exact (offers.closed.not_route disjoint offers.first latterOffers.first route).elim
        · cases latterOffers.eq_of_route_first latterOffers.first back
          exact crossed
      · intro crossed
        exact Or.inr ⟨target, crossed, .refl⟩
    simp only [skips_iff]
    constructor
    · rintro (⟨entry, member, route⟩ | crossed)
      · exact ⟨entry, List.mem_append_left _ member, (toOld entry member).mpr route⟩
      · exact ⟨_, List.mem_append_right _ (List.mem_singleton_self _), toNew.mpr crossed⟩
    · rintro ⟨entry, member, route⟩
      rcases List.mem_append.mp member with old | new
      · exact Or.inl ⟨entry, old, (toOld entry old).mp route⟩
      · cases List.mem_singleton.mp new
        exact Or.inr (toNew.mp route)

end Skips

namespace Build

/-- A build makes a fragment of new nodes. -/
def Makes
    (crossing : Label → σ → σ → Prop)
    (build : Build τ Fragment)
    (crosses : σ → σ → Prop) :
    Prop :=
  ∀ graph,
    Graph.Grows ∅ graph (build graph).2 ∧
      ∃ region,
        graph.Within region ∅ ∧
          (build graph).2.Offers crossing region (build graph).1 crosses

/-- A build puts more behind what there is. -/
def Extends
    (crossing : Label → σ → σ → Prop)
    (build : Option Fragment → Build τ (Option Fragment))
    (crosses : σ → σ → Prop) :
    Prop :=
  ∀ graph region former before,
    graph.Holds crossing region former before →
      Graph.Grows region graph (build former graph).2 ∧
        ∃ whole,
          graph.Within whole region ∧
            (build former graph).2.Holds crossing whole (build former graph).1
              (Relation.Comp before crosses)

variable {crosses same : σ → σ → Prop} {copy : Build τ Fragment}

theorem Makes.congr
    (makes : Makes crossing copy crosses)
    (iff : ∀ source target, crosses source target ↔ same source target) :
    Makes crossing copy same := by
  intro graph
  obtain ⟨grows, region, within, offers⟩ := makes graph
  exact ⟨grows, region, within, offers.congr iff⟩

/-- A fragment of two nodes is crossed over the edge between them. -/
theorem makes_bridge
    (edge : Nat → Edge)
    (across : ∀ target, (edge target).target = target)
    (graph : Graph τ) :
    let whole := graph.addNode.addNode.addEdge graph.size (edge (graph.size + 1))
    Graph.Grows ∅ graph whole ∧
      ∃ region,
        graph.Within region ∅ ∧
          whole.Offers crossing region ⟨graph.size, graph.size + 1⟩
            ((edge (graph.size + 1)).Passes crossing) := by
  have within := graph.within_ends ∅
  have offers := (Graph.offers_addNode_addNode crossing graph).bridge (across _)
  refine ⟨?_, _, within, offers.congr (by simp)⟩
  exact (graph.grows_addNode_addNode.addEdge (Or.inl rfl) _).mono within

theorem makes_label
    (label : Label) :
    Makes crossing (Build.label label : Build τ Fragment) (crossing label) := by
  intro graph
  rw [label_eq]
  exact makes_bridge (.labelled label) (fun _ => rfl) graph

theorem makes_empty :
    Makes crossing (Build.empty : Build τ Fragment) Eq := by
  intro graph
  rw [empty_eq]
  exact makes_bridge .silent (fun _ => rfl) graph

/-- What is optional is crossed as before, or not at all. -/
theorem Makes.optional
    (makes : Makes crossing copy crosses) :
    Makes crossing (copy >>= Build.optional)
      (fun source target => crosses source target ∨ source = target) := by
  intro graph
  have unfolded :
      (copy >>= Build.optional) graph =
        ((copy graph).1, (copy graph).2.link (copy graph).1.first (copy graph).1.last) :=
    rfl
  obtain ⟨grows, region, within, offers⟩ := makes graph
  rw [unfolded]
  refine ⟨?_, region, within, offers.bridge rfl⟩
  exact grows.trans (Graph.grows_addEdge offers.first _) within

/-- A starred copy is crossed any number of times. -/
theorem Makes.star
    (makes : Makes crossing copy crosses) :
    Makes crossing (copy >>= Build.star) (Relation.ReflTransGen crosses) := by
  intro graph
  obtain ⟨grows, region, within, offers⟩ := makes graph
  generalize made : copy graph = result at grows offers
  obtain ⟨inner, built⟩ := result
  have unfolded : (copy >>= Build.star) graph = Build.star (copy graph).1 (copy graph).2 :=
    rfl
  rw [unfolded, made, star_eq]
  simp only at grows offers ⊢
  let ends : Set Nat := {built.size, built.size + 1}
  have disjoint : Disjoint ends region :=
    ((built.within_ends ∅).disjoint offers.inside).symm
  have nodes : Graph.Grows ends built built.addNode.addNode :=
    built.grows_addNode_addNode
  have loop :
      Graph.Grows region built.addNode.addNode
        (built.addNode.addNode.link inner.last inner.first) :=
    Graph.grows_addEdge offers.last _
  have looped := (offers.spared nodes.toSpares disjoint.symm).toCarries.loop
  have fresh :=
    (Graph.offers_addNode_addNode crossing built).spared loop.toSpares disjoint
  have enclosed := fresh.enclose looped disjoint
  have into : (Edge.silent (built.size + 1)).target = built.size + 1 :=
    rfl
  have whole := enclosed.bridge into
  have allNew : graph.Within (ends ∪ region) ∅ :=
    ((built.within_ends ∅).of_size_le grows.size_le).union within
  refine ⟨?_, ends ∪ region, allNew, whole.congr ?_⟩
  · have first : built.size ∈ ends ∪ region := Or.inl (Or.inl rfl)
    have last : inner.last ∈ ends ∪ region := Or.inr offers.last
    have all :=
      ((((nodes.mono (built.within_union_left ends region)).addEdge last
        (.silent inner.first)).addEdge first (.silent inner.first)).addEdge last
          (.silent (built.size + 1))).addEdge first (.silent (built.size + 1))
    exact grows.trans all allNew
  · intro source target
    rw [Relation.reflTransGen_iff_eq_or_transGen]
    simp only [Edge.Passes, false_or]
    tauto

/-- A copy is put behind what there is, and its entry is one more to leave out from. -/
theorem Makes.append_skips
    (makes : Makes crossing copy crosses)
    {graph : Graph τ}
    {region : Set Nat}
    {former : Option Fragment}
    {before skips : σ → σ → Prop}
    {entries : List Nat}
    (holds : graph.Holds crossing region former before)
    (skippable : graph.Skips crossing region former entries skips) :
    let latter := copy graph
    let whole := Build.append former latter.1 latter.2
    Graph.Grows region graph whole.2 ∧
      ∃ larger,
        graph.Within larger region ∧
          whole.2.Offers crossing larger whole.1 (Relation.Comp before crosses) ∧
            whole.2.Skips crossing larger (some whole.1) (entries ++ [latter.1.first])
              (fun source target => skips source target ∨ before source target) := by
  obtain ⟨grows, newRegion, within, offers⟩ := makes graph
  cases former with
  | none =>
      obtain ⟨rfl, rfl⟩ := holds
      obtain ⟨rfl, none⟩ := skippable
      refine ⟨grows, newRegion, within, offers.congr ?_, ?_, ?_⟩
      · intro source target
        rw [Relation.eq_comp]
      · intro entry member
        cases List.mem_singleton.mp member
        exact ⟨offers.first, offers.distinct⟩
      · intro source target
        simp only [none, false_or, List.nil_append, List.mem_singleton, exists_eq_left]
        constructor
        · rintro rfl
          exact .refl
        · intro route
          exact congrArg Prod.snd (offers.eq_of_route_first offers.first route)
  | some former =>
      have disjoint : Disjoint region newRegion :=
        within.disjoint holds.inside
      have kept := Graph.Offers.spared holds grows.toSpares (Set.disjoint_empty region)
      refine ⟨(grows.mono (graph.within_empty region)).addEdge holds.last _, region ∪ newRegion,
        ?_, kept.chain offers disjoint,
        kept.skips_chain offers disjoint (skippable.grow holds grows)⟩
      exact (Graph.Within.refl graph region).union (within.trans (graph.within_empty region))

/-- A copy is put behind what there is. -/
theorem Makes.append
    (makes : Makes crossing copy crosses)
    {graph : Graph τ}
    {region : Set Nat}
    {former : Option Fragment}
    {before : σ → σ → Prop}
    (holds : graph.Holds crossing region former before) :
    let latter := copy graph
    let whole := Build.append former latter.1 latter.2
    Graph.Grows region graph whole.2 ∧
      ∃ larger,
        graph.Within larger region ∧
          whole.2.Offers crossing larger whole.1 (Relation.Comp before crosses) := by
  have none : graph.Skips crossing region former [] (fun _ _ => False) := by
    cases former <;> simp [Graph.Skips]
  obtain ⟨grows, larger, within, offers, _⟩ := makes.append_skips holds none
  exact ⟨grows, larger, within, offers⟩

/-- A build that extends nothing by nothing. -/
theorem extends_none
    (build : Option Fragment → Build τ (Option Fragment))
    (nothing : ∀ former graph, build former graph = (former, graph)) :
    Extends crossing build Eq := by
  intro graph region former before holds
  rw [nothing, Relation.comp_eq]
  exact ⟨Graph.Grows.refl _ _, region, .refl _ _, holds⟩

/-- One copy more in front of what a build puts behind. -/
theorem Makes.extends_cons
    {rest : σ → σ → Prop}
    {build : Option Fragment → Build τ (Option Fragment)}
    (makes : Makes crossing copy crosses)
    (restExtends : Extends crossing build rest) :
    Extends crossing
      (fun former => do
        let latter ← copy
        let whole ← Build.append former latter
        build (some whole))
      (Relation.Comp crosses rest) := by
  intro graph region former before holds
  obtain ⟨grows, larger, within, offers⟩ := makes.append holds
  obtain ⟨restGrows, whole, restWithin, restHolds⟩ :=
    restExtends _ larger (some (Build.append former (copy graph).1 (copy graph).2).1) _ offers
  rw [Relation.comp_assoc] at restHolds
  exact ⟨grows.trans restGrows within, whole,
    (restWithin.of_size_le grows.size_le).trans within, restHolds⟩

/-- Mandatory copies are crossed one behind the other. -/
theorem Makes.extends_mandatoryCopies
    (makes : Makes crossing copy crosses)
    (count : Nat) :
    Extends crossing (fun former => mandatoryCopies copy former count)
      (Copies crosses count) := by
  induction count with
  | zero =>
      exact extends_none _ fun _ _ => rfl
  | succ count inductionHypothesis =>
      exact makes.extends_cons inductionHypothesis

/-- Optional copies are at most as many copies. -/
theorem Makes.extends_optionalCopies
    (makes : Makes crossing copy crosses)
    (count : Nat) :
    Extends crossing (fun former => optionalCopies copy former count)
      (fun source target => ∃ fewer ≤ count, Copies crosses fewer source target) := by
  have copies := makes.optional.extends_mandatoryCopies count
  have same :
      Copies (fun source target => crosses source target ∨ source = target) count =
        fun source target => ∃ fewer ≤ count, Copies crosses fewer source target := by
    funext source target
    exact propext copies_or_eq_iff
  rw [same] at copies
  exact copies

/-- With edges from the entries to the exit, what comes behind an entry can be left out. -/
theorem offers_linkAll
    {graph : Graph τ}
    {region : Set Nat}
    {fragment : Fragment}
    {entries : List Nat}
    {skips : σ → σ → Prop}
    (offers : graph.Offers crossing region fragment crosses)
    (skippable : graph.Skips crossing region (some fragment) entries skips) :
    Graph.Grows region graph (linkAll fragment.last entries graph).2 ∧
      (linkAll fragment.last entries graph).2.Offers crossing region fragment
        (fun source target => crosses source target ∨ skips source target) := by
  induction entries generalizing graph crosses skips with
  | nil =>
      refine ⟨Graph.Grows.refl _ _, offers.congr ?_⟩
      intro source target
      simp [skippable.2]
  | cons entry rest inductionHypothesis =>
      obtain ⟨inside, skips_iff⟩ := skippable
      obtain ⟨member, different⟩ := inside entry List.mem_cons_self
      have unfolded :
          linkAll fragment.last (entry :: rest) graph =
            linkAll fragment.last rest (graph.link entry fragment.last) :=
        rfl
      rw [unfolded]
      have restSkips :
          (graph.link entry fragment.last).Skips crossing region (some fragment) rest
            (fun source target =>
              ∃ other ∈ rest,
                graph.Route crossing (fragment.first, source) (other, target)) := by
        refine ⟨fun other otherMember => inside other (List.mem_cons_of_mem _ otherMember), ?_⟩
        intro source target
        apply exists_congr
        intro other
        apply and_congr_right
        intro otherMember
        rw [offers.route_skip member different, or_iff_left]
        rintro ⟨same, _⟩
        exact (inside other (List.mem_cons_of_mem _ otherMember)).2 same
      obtain ⟨grows, whole⟩ := inductionHypothesis (offers.skip member different) restSkips
      refine ⟨?_, whole.congr ?_⟩
      · exact (Graph.grows_addEdge member _).trans grows (.refl _ _)
      · intro source target
        simp only [skips_iff, List.exists_mem_cons_iff, or_assoc]

/-- Fewer copies than some number are none, or one and fewer than the number before it. -/
theorem exists_fewer_succ_iff
    {before : σ → σ → Prop}
    {count : Nat}
    {source target : σ} :
    (∃ fewer < count + 1, Relation.Comp before (Copies crosses fewer) source target) ↔
      before source target ∨
        ∃ fewer < count,
          Relation.Comp (Relation.Comp before crosses) (Copies crosses fewer) source target := by
  simp only [Relation.comp_assoc]
  constructor
  · rintro ⟨fewer, less, crossed⟩
    cases fewer with
    | zero =>
        obtain ⟨_, crossed, rfl⟩ := crossed
        exact Or.inl crossed
    | succ fewer =>
        exact Or.inr ⟨fewer, Nat.lt_of_succ_lt_succ less, crossed⟩
  · rintro (crossed | ⟨fewer, less, crossed⟩)
    · exact ⟨0, Nat.succ_pos _, target, crossed, rfl⟩
    · exact ⟨fewer + 1, Nat.succ_lt_succ less, crossed⟩

/-- The copies that may be left out, before the edges to the exit are added. -/
theorem Makes.skippableCopies
    (makes : Makes crossing copy crosses)
    {graph : Graph τ}
    {region : Set Nat}
    {former : Option Fragment}
    {before skips : σ → σ → Prop}
    {entries : List Nat}
    (holds : graph.Holds crossing region former before)
    (skippable : graph.Skips crossing region former entries skips)
    (count : Nat) :
    let result := Build.skippableCopies copy former entries count graph
    Graph.Grows region graph result.2 ∧
      ∃ whole,
        graph.Within whole region ∧
          result.2.Holds crossing whole result.1.1
              (Relation.Comp before (Copies crosses count)) ∧
            result.2.Skips crossing whole result.1.1 result.1.2
              (fun source target =>
                skips source target ∨
                  ∃ fewer < count, Relation.Comp before (Copies crosses fewer) source target) := by
  induction count generalizing graph region former before skips entries with
  | zero =>
      have same : Relation.Comp before (Copies crosses 0) = before :=
        Relation.comp_eq
      refine ⟨Graph.Grows.refl _ _, region, .refl _ _, ?_, ?_⟩
      · rw [same]
        exact holds
      · simp only [Nat.not_lt_zero, false_and, exists_false, or_false]
        exact skippable
  | succ count inductionHypothesis =>
      obtain ⟨grows, larger, within, offers, moreSkips⟩ := makes.append_skips holds skippable
      let joined := Build.append former (copy graph).1 (copy graph).2
      have joinedHolds :
          joined.2.Holds crossing larger (some joined.1) (Relation.Comp before crosses) :=
        offers
      obtain ⟨restGrows, whole, restWithin, restHolds, restSkips⟩ :=
        inductionHypothesis joinedHolds moreSkips
      simp only [or_assoc, ← exists_fewer_succ_iff] at restSkips
      rw [Relation.comp_assoc] at restHolds
      exact ⟨grows.trans restGrows within, whole,
        (restWithin.of_size_le grows.size_le).trans within, restHolds, restSkips⟩

/-- At most a number of copies are all of them or fewer. -/
theorem comp_atMost_iff
    {before : σ → σ → Prop}
    {count : Nat}
    {source target : σ} :
    Relation.Comp before
        (fun source target => ∃ fewer ≤ count, Copies crosses fewer source target)
        source target ↔
      Relation.Comp before (Copies crosses count) source target ∨
        ∃ fewer < count, Relation.Comp before (Copies crosses fewer) source target := by
  constructor
  · rintro ⟨middle, crossed, fewer, le, copies⟩
    rcases Nat.lt_or_eq_of_le le with less | rfl
    · exact Or.inr ⟨fewer, less, middle, crossed, copies⟩
    · exact Or.inl ⟨middle, crossed, copies⟩
  · rintro (⟨middle, crossed, copies⟩ | ⟨fewer, less, middle, crossed, copies⟩)
    · exact ⟨middle, crossed, count, Nat.le_refl _, copies⟩
    · exact ⟨middle, crossed, fewer, Nat.le_of_lt less, copies⟩

/-- Optional labels are at most as many copies. -/
theorem Makes.extends_optionalLabels
    (makes : Makes crossing copy crosses)
    (count : Nat) :
    Extends crossing (fun former => optionalLabels copy former count)
      (fun source target => ∃ fewer ≤ count, Copies crosses fewer source target) := by
  intro graph region former before holds
  have nothing : graph.Skips crossing region former [] (fun _ _ => False) := by
    cases former <;> simp [Graph.Skips]
  obtain ⟨grows, whole, within, copiesHold, skippable⟩ :=
    makes.skippableCopies holds nothing count
  generalize made : Build.skippableCopies copy former [] count graph = result
    at grows copiesHold skippable
  obtain ⟨⟨fragment, entries⟩, built⟩ := result
  cases fragment with
  | none =>
      simp only [optionalLabels_eq, made]
      obtain ⟨empty, equal⟩ := copiesHold
      refine ⟨grows, whole, within, empty, ?_⟩
      rw [← equal]
      funext source target
      rw [comp_atMost_iff]
      apply propext (or_iff_left _)
      intro fewer
      exact skippable.2 source target (Or.inr fewer)
  | some fragment =>
      simp only [optionalLabels_eq, made]
      obtain ⟨linked, offers⟩ := offers_linkAll copiesHold skippable
      refine ⟨grows.trans linked within, whole, within, offers.congr ?_⟩
      intro source target
      rw [comp_atMost_iff, false_or]

/-- What extends nothing makes a fragment, if need be an empty one. -/
theorem Extends.makes_orEmpty
    {build : Option Fragment → Build τ (Option Fragment)}
    (extends' : Extends crossing build crosses) :
    Makes crossing (build none >>= Build.orEmpty) crosses := by
  intro graph
  obtain ⟨grows, whole, within, holds⟩ := extends' graph ∅ none Eq ⟨rfl, rfl⟩
  rw [Relation.eq_comp] at holds
  generalize made : build none graph = result at grows holds
  obtain ⟨fragment, built⟩ := result
  have unfolded :
      (build none >>= Build.orEmpty) graph = Build.orEmpty fragment built := by
    simp only [bind, StateT.bind, made]
  rw [unfolded]
  cases fragment with
  | some fragment =>
      exact ⟨grows, whole, within, holds⟩
  | none =>
      obtain ⟨_, rfl⟩ := holds
      have empty : Makes crossing (Build.empty : Build τ Fragment) Eq :=
        makes_empty
      obtain ⟨emptyGrows, region, emptyWithin, offers⟩ := empty built
      exact ⟨grows.trans emptyGrows (.refl _ _), region, emptyWithin.of_size_le grows.size_le,
        offers⟩

/-- One build behind another one. -/
theorem Extends.seq
    {latterCrosses : σ → σ → Prop}
    {former latter : Option Fragment → Build τ (Option Fragment)}
    (formerExtends : Extends crossing former crosses)
    (latterExtends : Extends crossing latter latterCrosses) :
    Extends crossing (fun fragment => former fragment >>= latter)
      (Relation.Comp crosses latterCrosses) := by
  intro graph region fragment before holds
  obtain ⟨grows, middle, within, middleHolds⟩ := formerExtends graph region fragment before holds
  obtain ⟨moreGrows, whole, moreWithin, wholeHolds⟩ :=
    latterExtends _ middle _ _ middleHolds
  rw [Relation.comp_assoc] at wholeHolds
  exact ⟨grows.trans moreGrows within, whole,
    (moreWithin.of_size_le grows.size_le).trans within, wholeHolds⟩

/-- Mandatory copies and any number of further ones. -/
theorem copies_star_iff
    {quantifier : Quantifier}
    (unbounded : quantifier.max = none)
    {source target : σ} :
    Relation.Comp (Copies crosses quantifier.min) (Relation.ReflTransGen crosses) source target ↔
      quantifier.Repeats crosses source target := by
  constructor
  · rintro ⟨middle, mandatory, further⟩
    obtain ⟨count, copies⟩ := reflTransGen_iff_exists_copies.mp further
    refine ⟨quantifier.min + count, ⟨Nat.le_add_right _ _, ?_⟩, mandatory.append copies⟩
    simp [unbounded]
  · rintro ⟨count, ⟨le, _⟩, copies⟩
    obtain ⟨more, rfl⟩ := Nat.exists_eq_add_of_le le
    obtain ⟨middle, mandatory, further⟩ := copies_add_iff.mp copies
    exact ⟨middle, mandatory, reflTransGen_iff_exists_copies.mpr ⟨more, further⟩⟩

/-- Mandatory copies and as many further ones as the maximum leaves room for. -/
theorem copies_atMost_iff
    {quantifier : Quantifier}
    {most : Nat}
    (bounded : quantifier.max = some most)
    (ordered : quantifier.min ≤ most)
    {source target : σ} :
    Relation.Comp (Copies crosses quantifier.min)
        (fun source target =>
          ∃ fewer ≤ most - quantifier.min, Copies crosses fewer source target)
        source target ↔
      quantifier.Repeats crosses source target := by
  constructor
  · rintro ⟨middle, mandatory, fewer, le, further⟩
    refine ⟨quantifier.min + fewer, ⟨Nat.le_add_right _ _, ?_⟩, mandatory.append further⟩
    intro bound member
    rw [bounded] at member
    cases member
    omega
  · rintro ⟨count, ⟨le, atMost⟩, copies⟩
    have := atMost most bounded
    obtain ⟨more, rfl⟩ := Nat.exists_eq_add_of_le le
    obtain ⟨middle, mandatory, further⟩ := copies_add_iff.mp copies
    exact ⟨middle, mandatory, more, by omega, further⟩

/-- What is repeated is crossed as often as the quantifier allows. -/
theorem Makes.repeated
    (makes : Makes crossing copy crosses)
    {optionalPart : Option Fragment → Nat → Build τ (Option Fragment)}
    (optionalExtends :
      ∀ count,
        Extends crossing (fun former => optionalPart former count)
          (fun source target => ∃ fewer ≤ count, Copies crosses fewer source target))
    {quantifier : Quantifier}
    (ordered : quantifier.Ordered) :
    Makes crossing (Build.repeated quantifier copy optionalPart)
      (quantifier.Repeats crosses) := by
  unfold Build.repeated
  split
  · rename_i zero
    apply makes_empty.congr
    intro source target
    have minimum : quantifier.min = 0 := Nat.le_zero.mp (ordered 0 zero)
    constructor
    · rintro rfl
      exact ⟨0, ⟨Nat.le_of_eq minimum, fun _ _ => Nat.zero_le _⟩, rfl⟩
    · rintro ⟨count, ⟨_, atMost⟩, copies⟩
      cases Nat.le_zero.mp (atMost 0 zero)
      exact copies
  · have mandatory := makes.extends_mandatoryCopies quantifier.min
    cases bound : quantifier.max with
    | none =>
        intro graph
        obtain ⟨grows, region, within, holds⟩ := mandatory graph ∅ none Eq ⟨rfl, rfl⟩
        obtain ⟨moreGrows, larger, moreWithin, offers⟩ := makes.star.append holds
        rw [Relation.eq_comp] at offers
        exact ⟨grows.trans moreGrows within, larger,
          (moreWithin.of_size_le grows.size_le).trans within,
          offers.congr fun _ _ => copies_star_iff bound⟩
    | some most =>
        have both := mandatory.seq (optionalExtends (most - quantifier.min))
        exact both.makes_orEmpty.congr fun _ _ => copies_atMost_iff bound (ordered most bound)

end Build

end LexicalAutomata
