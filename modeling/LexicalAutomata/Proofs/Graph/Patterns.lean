import LexicalAutomata.Proofs.Expression.Parser
import LexicalAutomata.Proofs.Graph.OfExpression

namespace LexicalAutomata

/-!
# Patterns in a graph

Adding an expression puts its fragment behind all nodes that there are.  The exit of the
fragment is the only node that gets a token, and everything else stays as it is.
-/

variable {τ σ : Type} {crossing : Label → σ → σ → Prop}

/-- A graph has got a fragment of new nodes, whose exit bears a mark. -/
structure Graph.Gains
    (crossing : Label → σ → σ → Prop)
    (graph later : Graph τ)
    (fragment : Fragment)
    (crosses : σ → σ → Prop)
    (mark : Node τ) : Prop where
  size_le : graph.size ≤ later.size
  edges : ∀ id < graph.size, (later.node id).edges = (graph.node id).edges
  offers :
    ∃ region,
      graph.Within region ∅ ∧ later.Offers crossing region fragment crosses
  marked : (later.node fragment.last).bare = mark
  others : ∀ id, id ≠ fragment.last → (later.node id).bare = (graph.node id).bare

section Gains

variable {graph later : Graph τ} {fragment : Fragment} {crosses : σ → σ → Prop}
  {mark : Node τ}

/-- The exit of a new fragment is a new node. -/
theorem Graph.Gains.size_le_last
    (gains : graph.Gains crossing later fragment crosses mark) :
    graph.size ≤ fragment.last := by
  obtain ⟨region, within, offers⟩ := gains.offers
  exact Nat.le_of_not_lt fun below => within _ offers.last below

/-- What a build makes has no token yet. -/
theorem Build.Makes.gains
    {build : Build τ Fragment}
    (makes : Build.Makes crossing build crosses)
    (graph : Graph τ) :
    graph.Gains crossing (build graph).2 (build graph).1 crosses {} := by
  obtain ⟨grows, region, within, offers⟩ := makes graph
  refine ⟨grows.size_le, ?_, ⟨region, within, offers⟩, ?_, fun id _ => grows.bare id⟩
  · intro id below
    exact grows.edges id below (Set.notMem_empty id)
  · have outside : graph.size ≤ (build graph).1.last :=
      Nat.le_of_not_lt fun below => within _ offers.last below
    rw [grows.bare, Graph.node_of_size_le outside]
    rfl

/-- Changing the exit changes the mark, but no route. -/
theorem Graph.Gains.change
    (gains : graph.Gains crossing later fragment crosses mark)
    (change : Node τ → Node τ)
    (keeps : ∀ node, (change node).edges = node.edges)
    (bare : ∀ node, (change node).bare = change node.bare) :
    graph.Gains crossing (later.modifyNode fragment.last change) fragment crosses
      (change mark) := by
  obtain ⟨region, within, offers⟩ := gains.offers
  have inside := offers.inside _ offers.last
  have sameEdges :
      ∀ id, ((later.modifyNode fragment.last change).node id).edges = (later.node id).edges := by
    intro id
    by_cases same : id = fragment.last
    · rw [same, Graph.node_modifyNode inside, keeps]
    · rw [Graph.node_modifyNode_of_ne same]
  have sameRoute :
      ∀ source target,
        (later.modifyNode fragment.last change).Route crossing (fragment.first, source)
            (fragment.last, target) ↔
          later.Route crossing (fragment.first, source) (fragment.last, target) :=
    fun _ _ => Graph.route_congr offers.closed (fun id _ => sameEdges id) offers.first
  refine ⟨?_, ?_, ⟨region, within, ⟨⟨?_, offers.first, offers.last, ?_, ?_⟩, offers.distinct,
    ?_, ?_⟩⟩, ?_, ?_⟩
  · simpa using gains.size_le
  · intro id below
    rw [sameEdges, gains.edges id below]
  · simpa using offers.inside
  · intro id member edge edgeMember
    rw [sameEdges] at edgeMember
    exact offers.closed id member edge edgeMember
  · intro source target
    rw [sameRoute, offers.route_iff]
  · intro id member edge edgeMember
    rw [sameEdges] at edgeMember
    exact offers.entry id member edge edgeMember
  · rw [sameEdges, offers.exit]
  · rw [Graph.node_modifyNode inside, bare, gains.marked]
  · intro id different
    rw [Graph.node_modifyNode_of_ne different, gains.others id different]

/-- A change that is made only under a condition. -/
theorem Graph.Gains.changeIf
    (gains : graph.Gains crossing later fragment crosses mark)
    (condition : Bool)
    (change : Node τ → Node τ)
    (keeps : ∀ node, (change node).edges = node.edges)
    (bare : ∀ node, (change node).bare = change node.bare) :
    graph.Gains crossing
      (if condition then later.modifyNode fragment.last change else later) fragment crosses
      (if condition then change mark else mark) := by
  cases condition with
  | false =>
      exact gains
  | true =>
      exact gains.change change keeps bare

end Gains

/-- The mark of a pattern without an ender whose match may always go on. -/
def patternMark
    (token : τ)
    (priority : Int32) :
    Node τ :=
  { token := some token, priority }

/-- The mark that an expression gets with its options. -/
def Expression.mark
    (expression : Expression)
    (options : Options)
    (token : τ) :
    Node τ where
  token := some token
  priority := if expression.isLiteral then 1 else 0
  immediate := options.fixedEnder || options.acceptImmediately
  enderLength := if options.fixedEnder then expression.enderLength else 0

theorem Expression.mark_of_plain
    (expression : Expression)
    {options : Options}
    (plain : options.fixedEnder = false)
    (patient : options.acceptImmediately = false)
    (token : τ) :
    expression.mark options token =
      patternMark token (if expression.isLiteral then 1 else 0) := by
  simp [mark, patternMark, plain, patient]

/-- What is done at the exit of a whole expression, one change after the other. -/
theorem Build.finish_eq
    (fragment : Fragment)
    (expression : Expression)
    (token : τ)
    (options : Options)
    (graph : Graph τ) :
    let tokened := graph.modifyNode fragment.last fun node => { node with token := some token }
    let raised :=
      if expression.isLiteral then
        tokened.modifyNode fragment.last fun node => { node with priority := node.priority + 1 }
      else
        tokened
    let last :=
      if options.acceptImmediately then
        raised.modifyNode fragment.last fun node => { node with immediate := true }
      else
        raised
    Build.finish fragment expression token options graph = (fragment, last) := by
  cases literal : expression.isLiteral <;> cases hurried : options.acceptImmediately <;>
    simp only [Build.finish, literal, hurried, Bool.false_eq_true, ↓reduceIte] <;>
    rfl

/-- The exit of a whole expression gets its token and the priority of the expression. -/
theorem Build.gains_finish
    {graph later : Graph τ}
    {fragment : Fragment}
    {crosses : σ → σ → Prop}
    {immediate : Bool}
    {enderLength : Nat}
    (gains : graph.Gains crossing later fragment crosses { immediate, enderLength })
    (expression : Expression)
    (token : τ)
    (options : Options) :
    graph.Gains crossing (Build.finish fragment expression token options later).2 fragment crosses
      { token := some token
        priority := if expression.isLiteral then 1 else 0
        immediate := immediate || options.acceptImmediately
        enderLength } := by
  have tokened :=
    gains.change (fun node => { node with token := some token })
      (fun _ => rfl) fun _ => rfl
  have raised :=
    tokened.changeIf expression.isLiteral
      (fun node => { node with priority := node.priority + 1 }) (fun _ => rfl) fun _ => rfl
  have hurried :=
    raised.changeIf options.acceptImmediately
      (fun node => { node with immediate := true }) (fun _ => rfl) fun _ => rfl
  rw [finish_eq]
  revert hurried
  cases expression.isLiteral <;> cases options.acceptImmediately <;> simp

/--
What a text that is in order adds: its fragment, at whose exit the ender is handed back if that
is asked for, and then the rest is done there.
-/
theorem Build.expression_of_parse
    [PropertyParser]
    {text : String}
    {options : Options}
    {expression : Expression}
    (parsed : Expression.parse text options = .ok expression)
    (token : τ)
    (graph : Graph τ) :
    let fragment := (expression.build graph).1
    let built := (expression.build graph).2
    let ended :=
      if options.fixedEnder then
        built.modifyNode fragment.last fun node =>
          { node with immediate := true, enderLength := expression.enderLength }
      else
        built
    Build.expression text token options graph =
      if options.fixedEnder = true ∧ expression.enderLength = 0 then
        (.error ⟨.missingEnder, text.utf8ByteSize⟩, built)
      else
        (.ok fragment, (finish fragment expression token options ended).2) := by
  cases ender : options.fixedEnder with
  | false =>
      simp only [Build.expression, parsed, ender, finish_eq, bind, StateT.bind,
        Bool.false_eq_true, false_and, ↓reduceIte]
      rfl
  | true =>
      by_cases none : expression.enderLength = 0
      · simp only [Build.expression, parsed, ender, none, bind, StateT.bind, and_self,
          ↓reduceIte]
        rfl
      · simp only [Build.expression, parsed, ender, none, finish_eq, bind, StateT.bind,
          and_false, ↓reduceIte]
        rfl

/-- A text that adds a fragment is in order, and has an ender if one is asked for. -/
theorem Build.parse_of_expression
    [PropertyParser]
    {text : String}
    {token : τ}
    {options : Options}
    {graph later : Graph τ}
    {fragment : Fragment}
    (added : Build.expression text token options graph = (.ok fragment, later)) :
    ∃ expression,
      Expression.parse text options = .ok expression ∧
        (options.fixedEnder = true → expression.enderLength ≠ 0) := by
  cases parsed : Expression.parse text options with
  | error error =>
      simp only [Build.expression, parsed] at added
      cases added
  | ok expression =>
      refine ⟨expression, rfl, ?_⟩
      rw [expression_of_parse parsed] at added
      intro ender none
      rw [if_pos ⟨ender, none⟩] at added
      cases added

/--
An expression that is in order is added with its token, unless it lacks the ender that is
asked for.
-/
theorem Build.gains_expression
    [PropertyParser]
    {text : String}
    {options : Options}
    {expression : Expression}
    (parsed : Expression.parse text options = .ok expression)
    (hasEnder : options.fixedEnder = true → expression.enderLength ≠ 0)
    (token : τ)
    (graph : Graph τ) :
    ∃ fragment later,
      Build.expression text token options graph = (.ok fragment, later) ∧
        ∀ {σ : Type} (crossing : Label → σ → σ → Prop),
          graph.Gains crossing later fragment (expression.Leads crossing)
            (expression.mark options token) := by
  refine ⟨(expression.build graph).1, _, (expression_of_parse parsed token graph).trans (if_neg ?_),
    ?_⟩
  · rintro ⟨ender, none⟩
    exact hasEnder ender none
  · intro σ crossing
    have built :=
      ((expression.makes_build (Expression.ordered_of_parse parsed)).gains graph :
        graph.Gains crossing _ _ (expression.Leads crossing) {})
    have ended :=
      built.changeIf options.fixedEnder
        (fun node => { node with immediate := true, enderLength := expression.enderLength })
        (fun _ => rfl) fun _ => rfl
    cases ender : options.fixedEnder <;> rw [ender] at ended <;>
      simpa [Expression.mark, ender] using gains_finish ended expression token options

end LexicalAutomata
