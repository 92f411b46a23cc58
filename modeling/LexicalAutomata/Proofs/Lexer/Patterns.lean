import LexicalAutomata.Lexer.Basic
import LexicalAutomata.Proofs.Automaton.Longest
import LexicalAutomata.Proofs.Graph.Patterns
import LexicalAutomata.Proofs.Result

namespace LexicalAutomata

/-!
# The patterns of a lexer

All patterns share one graph, but each of them has a region of its own.  From the common
entry a walk leads to the exit of a pattern exactly where the expression of the pattern
matches, and the exits are the only terminal nodes.
-/

/-- What is added to a lexer. -/
structure Pattern (τ : Type) where
  text : String
  token : τ
  options : Options
  priority : Int32

variable {τ : Type}

namespace Pattern

/-- The expression of a pattern leads from one point to another. -/
def Leads
    [PropertyParser]
    {σ : Type}
    (pattern : Pattern τ)
    (crossing : Label → σ → σ → Prop)
    (source target : σ) :
    Prop :=
  ∃ expression,
    Expression.parse pattern.text pattern.options = .ok expression ∧
      expression.Leads crossing source target

/-- The expression of a pattern matches the text between two places. -/
def Matches
    [PropertyParser]
    (pattern : Pattern τ)
    (searchStart : Nat)
    (source target : Place) :
    Prop :=
  ∃ expression,
    Expression.parse pattern.text pattern.options = .ok expression ∧
      expression.Matches searchStart source target

/--
The priority of a pattern, which is one higher if its expression is literal.  The sum wraps
around when it does not fit.
-/
def totalPriority
    [PropertyParser]
    (pattern : Pattern τ) :
    Int32 :=
  match Expression.parse pattern.text pattern.options with
  | .error _ =>
      pattern.priority
  | .ok expression =>
      if expression.isLiteral then
        pattern.priority + 1
      else
        pattern.priority

/-- The priority of a pattern as a whole number, to which a literal adds one in any case. -/
def exactPriority
    [PropertyParser]
    (pattern : Pattern τ) :
    Int :=
  match Expression.parse pattern.text pattern.options with
  | .error _ =>
      pattern.priority.toInt
  | .ok expression =>
      if expression.isLiteral then
        pattern.priority.toInt + 1
      else
        pattern.priority.toInt

/-- Only a literal with the highest priority there is wraps around, to the lowest one. -/
theorem toInt_totalPriority
    [PropertyParser]
    (pattern : Pattern τ) :
    pattern.totalPriority.toInt =
      if pattern.exactPriority = 0x80000000 then -0x80000000 else pattern.exactPriority := by
  have above := Int32.toInt_lt pattern.priority
  have below := Int32.le_toInt pattern.priority
  have unchanged :
      pattern.priority.toInt =
        if pattern.priority.toInt = 0x80000000 then -0x80000000 else pattern.priority.toInt :=
    (if_neg (ne_of_lt above)).symm
  unfold totalPriority exactPriority
  split
  · exact unchanged
  · split
    · rw [Int32.toInt_add]
      change (pattern.priority.toInt + 1).bmod 0x100000000 = _
      split
      · rename_i highest
        rw [highest]
        rfl
      · rename_i lower
        exact Int.bmod_eq_of_le (by omega) (by omega)
    · exact unchanged

/-- The number of characters at the end of a match that a pattern takes off as its ender. -/
def enderLength
    [PropertyParser]
    (pattern : Pattern τ) :
    Nat :=
  match Expression.parse pattern.text pattern.options with
  | .error _ =>
      0
  | .ok expression =>
      if pattern.options.fixedEnder then
        expression.enderLength
      else
        0

/-- The mark that the exit of a pattern bears. -/
def mark
    [PropertyParser]
    (pattern : Pattern τ) :
    Node τ where
  token := some pattern.token
  priority := pattern.totalPriority
  immediate := pattern.options.fixedEnder || pattern.options.acceptImmediately
  enderLength := pattern.enderLength

/-- The mark of a pattern is that of its expression with the priority of the pattern. -/
theorem mark_of_parse
    [PropertyParser]
    {pattern : Pattern τ}
    {expression : Expression}
    (parsed : Expression.parse pattern.text pattern.options = .ok expression) :
    pattern.mark =
      { expression.mark pattern.options pattern.token with
        priority := (if expression.isLiteral then 1 else 0) + pattern.priority } := by
  have samePriority :
      pattern.totalPriority =
        (if expression.isLiteral then 1 else 0) + pattern.priority := by
    unfold totalPriority
    rw [parsed]
    dsimp only
    split
    · exact Int32.add_comm _ _
    · exact (Int32.zero_add _).symm
  rw [mark, samePriority, enderLength, parsed]
  rfl

/-- Neither an ender nor immediate acceptance is asked for. -/
def Plain
    (pattern : Pattern τ) :
    Prop :=
  pattern.options.fixedEnder = false ∧ pattern.options.acceptImmediately = false

theorem Plain.mark_eq
    [PropertyParser]
    {pattern : Pattern τ}
    (plain : pattern.Plain) :
    pattern.mark = patternMark pattern.token pattern.totalPriority := by
  have endless : pattern.enderLength = 0 := by
    unfold enderLength
    split
    · rfl
    · simp [plain.1]
  simp [mark, patternMark, endless, plain.1, plain.2]

end Pattern

namespace LexerBuilder

/-- Add patterns in the given order, unless one of them is refused. -/
def addAll
    [PropertyParser]
    (builder : LexerBuilder τ) :
    List (Pattern τ) →
    Except TextError (LexerBuilder τ)
  | [] =>
      .ok builder
  | pattern :: rest =>
      match builder.add pattern.text pattern.token pattern.options pattern.priority with
      | (.error error, _) =>
          .error error
      | (.ok (), next) =>
          next.addAll rest

/-- Patterns are added when the first one is, and then the others. -/
theorem addAll_cons_eq_ok_iff
    [PropertyParser]
    {builder next : LexerBuilder τ}
    {pattern : Pattern τ}
    {rest : List (Pattern τ)} :
    builder.addAll (pattern :: rest) = .ok next ↔
      ∃ middle,
        builder.add pattern.text pattern.token pattern.options pattern.priority =
            (.ok (), middle) ∧
          middle.addAll rest = .ok next := by
  rw [addAll]
  split
  · rename_i refused
    simp [refused]
  · rename_i middle added
    simp [added]

/-- What can be evaluated of the lexer of some patterns is said of a lexer that is built. -/
theorem exists_built
    [PropertyParser]
    [DecidableEq τ]
    {result : Type}
    (patterns : List (Pattern τ))
    (evaluate : Lexer τ → result)
    (value : result)
    (evaluated :
      ((empty.addAll patterns).toOption.bind fun builder =>
        builder.build.toOption.map evaluate) = some value) :
    ∃ builder lexer,
      empty.addAll patterns = .ok builder ∧
        builder.build = .ok lexer ∧ evaluate lexer = value := by
  obtain ⟨builder, isBuilder, evaluated⟩ := Option.bind_eq_some_iff.mp evaluated
  obtain ⟨lexer, isLexer, same⟩ := Option.map_eq_some_iff.mp evaluated
  exact ⟨builder, lexer, ok_of_toOption isBuilder, ok_of_toOption isLexer, same⟩

/-- The graph of a builder has the fragments of these patterns, and no other terminals. -/
structure Gathers
    [PropertyParser]
    (builder : LexerBuilder τ)
    (entries : List (Fragment × Pattern τ)) : Prop where
  fragments : builder.fragments = entries.map Prod.fst
  rows :
    ∀ {σ : Type} (crossing : Label → σ → σ → Prop),
      ∃ region,
        builder.graph.Rows crossing region (entries.map Prod.fst)
          (entries.map fun entry => entry.2.Leads crossing)
  marked :
    ∀ entry ∈ entries, (builder.graph.node entry.1.last).bare = entry.2.mark
  others :
    ∀ id, (∀ entry ∈ entries, id ≠ entry.1.last) → (builder.graph.node id).bare = {}

/-- The patterns of a builder ask for neither an ender nor immediate acceptance. -/
structure Collects
    [PropertyParser]
    (builder : LexerBuilder τ)
    (entries : List (Fragment × Pattern τ)) : Prop
    extends builder.Gathers entries where
  allPlain : ∀ entry ∈ entries, entry.2.Plain

theorem gathers_empty
    [PropertyParser] :
    (LexerBuilder.empty : LexerBuilder τ).Gathers [] where
  fragments :=
    rfl
  rows _ :=
    ⟨∅, .nil⟩
  marked := by
    simp
  others id _ := by
    show (Graph.empty.node id).bare = {}
    rw [Graph.node_of_size_le (Nat.zero_le _)]
    rfl

theorem collects_empty
    [PropertyParser] :
    (LexerBuilder.empty : LexerBuilder τ).Collects [] :=
  ⟨gathers_empty, by simp⟩

/-- A pattern that is added gets a fragment, and its exit bears the mark of the pattern. -/
theorem gains_prioritized
    [PropertyParser]
    {pattern : Pattern τ}
    {expression : Expression}
    (parsed : Expression.parse pattern.text pattern.options = .ok expression)
    (hasEnder : pattern.options.fixedEnder = true → expression.enderLength ≠ 0)
    (graph : Graph τ) :
    ∃ fragment later,
      prioritized pattern.text pattern.token pattern.options pattern.priority graph =
          (.ok fragment, later) ∧
        ∀ {σ : Type} (crossing : Label → σ → σ → Prop),
          graph.Gains crossing later fragment (pattern.Leads crossing) pattern.mark := by
  obtain ⟨fragment, later, built, gains⟩ :=
    Build.gains_expression parsed hasEnder pattern.token graph
  refine ⟨fragment,
    later.modifyNode fragment.last
      fun node => { node with priority := node.priority + pattern.priority },
    ?_, ?_⟩
  · simp only [prioritized, bind, StateT.bind, built]
    rfl
  · intro σ crossing
    have sameLeads : pattern.Leads crossing = expression.Leads crossing := by
      funext source target
      simp [Pattern.Leads, parsed]
    rw [sameLeads, Pattern.mark_of_parse parsed]
    exact (gains crossing).change
      (fun node => { node with priority := node.priority + pattern.priority })
      (fun _ => rfl) fun _ => rfl

/-- An expression that cannot be read, or lacks the ender that is asked for, is refused. -/
theorem parse_of_add
    [PropertyParser]
    {builder next : LexerBuilder τ}
    {pattern : Pattern τ}
    (added :
      builder.add pattern.text pattern.token pattern.options pattern.priority = (.ok (), next)) :
    ∃ expression,
      Expression.parse pattern.text pattern.options = .ok expression ∧
        (pattern.options.fixedEnder = true → expression.enderLength ≠ 0) := by
  cases parsed : Expression.parse pattern.text pattern.options with
  | ok expression =>
      refine ⟨expression, rfl, ?_⟩
      intro ender isZero
      have refused :
          prioritized pattern.text pattern.token pattern.options pattern.priority builder.graph =
            (.error ⟨.missingEnder, pattern.text.utf8ByteSize⟩,
              (expression.build builder.graph).2) := by
        simp only [prioritized, Build.expression, parsed, ender, isZero, bind, StateT.bind,
          ↓reduceIte]
        rfl
      simp only [add, StateT.run, refused] at added
      cases added
  | error error =>
      have refused :
          prioritized pattern.text pattern.token pattern.options pattern.priority builder.graph =
            (.error error, builder.graph) := by
        simp only [prioritized, Build.expression, parsed, bind, StateT.bind]
        rfl
      simp only [add, StateT.run, refused] at added
      cases added

section Gathers

variable {builder next : LexerBuilder τ} {entries : List (Fragment × Pattern τ)}

/-- The exit of a pattern is a node of the graph. -/
theorem Gathers.last_lt_size
    [PropertyParser]
    (gathers : builder.Gathers entries)
    {entry : Fragment × Pattern τ}
    (member : entry ∈ entries) :
    entry.1.last < builder.graph.size :=
  Graph.lt_size_of_token (congrArg Node.token (gathers.marked entry member))

/-- One pattern more in the graph. -/
theorem Gathers.add
    [PropertyParser]
    (gathers : builder.Gathers entries)
    {pattern : Pattern τ}
    (added :
      builder.add pattern.text pattern.token pattern.options pattern.priority = (.ok (), next)) :
    ∃ fragment, next.Gathers (entries ++ [(fragment, pattern)]) := by
  obtain ⟨expression, parsed, hasEnder⟩ := parse_of_add added
  obtain ⟨fragment, later, built, gains⟩ := gains_prioritized parsed hasEnder builder.graph
  simp only [LexerBuilder.add, StateT.run, built] at added
  cases added
  have gained := gains (Label.Crosses 0)
  refine ⟨fragment, ?_, ?_, ?_, ?_⟩
  · simp [gathers.fragments]
  · intro σ crossing
    obtain ⟨region, rows⟩ := gathers.rows crossing
    obtain ⟨newRegion, within, offers⟩ := (gains crossing).offers
    have spares : Graph.Spares ∅ builder.graph later :=
      ⟨gained.size_le, fun id below _ => gained.edges id below⟩
    have disjoint : Disjoint region newRegion :=
      within.disjoint rows.inside
    refine ⟨region ∪ newRegion, ?_⟩
    rw [List.map_append, List.map_append]
    exact (rows.spared spares (Set.disjoint_empty region)).snoc offers disjoint
  · intro entry member
    rcases List.mem_append.mp member with before | new
    · have different : entry.1.last ≠ fragment.last := by
        have := gathers.last_lt_size before
        have := gained.size_le_last
        omega
      rw [gained.others _ different]
      exact gathers.marked entry before
    · cases List.mem_singleton.mp new
      exact gained.marked
  · intro id outside
    rw [gained.others id (outside (fragment, pattern) (by simp))]
    exact gathers.others id fun entry member => outside entry (List.mem_append_left _ member)

/-- Patterns that have been added one after the other. -/
theorem Gathers.addAll
    [PropertyParser]
    (gathers : builder.Gathers entries)
    {patterns : List (Pattern τ)}
    (added : builder.addAll patterns = .ok next) :
    ∃ more, next.Gathers (entries ++ more) ∧ more.map Prod.snd = patterns := by
  induction patterns generalizing builder entries with
  | nil =>
      cases added
      refine ⟨[], ?_, rfl⟩
      rw [List.append_nil]
      exact gathers
  | cons pattern rest inductionHypothesis =>
      obtain ⟨middle, addedFirst, addedRest⟩ := addAll_cons_eq_ok_iff.mp added
      obtain ⟨fragment, first⟩ := gathers.add addedFirst
      obtain ⟨more, whole, same⟩ := inductionHypothesis first addedRest
      refine ⟨(fragment, pattern) :: more, ?_, by rw [List.map_cons, same]⟩
      rw [List.append_assoc] at whole
      exact whole

theorem Collects.addAll
    [PropertyParser]
    (collects : builder.Collects entries)
    {patterns : List (Pattern τ)}
    (plain : ∀ pattern ∈ patterns, pattern.Plain)
    (added : builder.addAll patterns = .ok next) :
    ∃ more, next.Collects (entries ++ more) ∧ more.map Prod.snd = patterns := by
  obtain ⟨more, gathers, rfl⟩ := collects.toGathers.addAll added
  refine ⟨more, ⟨gathers, ?_⟩, rfl⟩
  intro entry member
  rcases List.mem_append.mp member with before | new
  · exact collects.allPlain entry before
  · exact plain entry.2 (List.mem_map_of_mem new)

end Gathers

end LexerBuilder

/-- From a node the exits of patterns are reached where the patterns match. -/
structure Graph.Unites
    [PropertyParser]
    (graph : Graph τ)
    (start : Nat)
    (entries : List (Fragment × Pattern τ)) : Prop where
  route_iff :
    ∀ {σ : Type} (crossing : Label → σ → σ → Prop), ∀ entry ∈ entries, ∀ source target,
      graph.Route crossing (start, source) (entry.1.last, target) ↔
        entry.2.Leads crossing source target
  marked :
    ∀ entry ∈ entries, (graph.node entry.1.last).bare = entry.2.mark
  others :
    ∀ id, (∀ entry ∈ entries, id ≠ entry.1.last) → (graph.node id).bare = {}

/-- The patterns that a graph unites ask for neither an ender nor immediate acceptance. -/
structure Graph.Joins
    [PropertyParser]
    (graph : Graph τ)
    (start : Nat)
    (entries : List (Fragment × Pattern τ)) : Prop
    extends graph.Unites start entries where
  allPlain : ∀ entry ∈ entries, entry.2.Plain

section Unites

variable {graph : Graph τ} {start : Nat} {entries : List (Fragment × Pattern τ)}

/-- A walk leads to the exit of a pattern where the pattern matches. -/
theorem Graph.Unites.walk_iff
    [PropertyParser]
    (unites : graph.Unites start entries)
    (searchStart : Nat)
    (entry : Fragment × Pattern τ)
    (member : entry ∈ entries)
    (source target : Place) :
    graph.Walk searchStart (start, source) (entry.1.last, target) ↔
      entry.2.Matches searchStart source target :=
  unites.route_iff (Label.Crosses searchStart) entry member source target

theorem Graph.Unites.bare_cases
    [PropertyParser]
    (unites : graph.Unites start entries)
    (id : Nat) :
    (∃ entry ∈ entries,
        id = entry.1.last ∧ (graph.node id).bare = entry.2.mark) ∨
      (graph.node id).bare = {} := by
  by_cases last : ∃ entry ∈ entries, id = entry.1.last
  · obtain ⟨entry, member, rfl⟩ := last
    exact Or.inl ⟨entry, member, rfl, unites.marked entry member⟩
  · refine Or.inr (unites.others id ?_)
    intro entry member same
    exact last ⟨entry, member, same⟩

/-- The terminal nodes are the exits of the patterns. -/
theorem Graph.Unites.exists_entry
    [PropertyParser]
    (unites : graph.Unites start entries)
    {id : Nat}
    (terminal : (graph.node id).token.isSome = true) :
    ∃ entry ∈ entries, id = entry.1.last := by
  rcases unites.bare_cases id with ⟨entry, member, same, _⟩ | bare
  · exact ⟨entry, member, same⟩
  · rw [show (graph.node id).token = none from congrArg Node.token bare] at terminal
    contradiction

theorem Graph.Unites.token_last
    [PropertyParser]
    (unites : graph.Unites start entries)
    {entry : Fragment × Pattern τ}
    (member : entry ∈ entries) :
    (graph.node entry.1.last).token = some entry.2.token :=
  congrArg Node.token (unites.marked entry member)

theorem Graph.Unites.priority_last
    [PropertyParser]
    (unites : graph.Unites start entries)
    {entry : Fragment × Pattern τ}
    (member : entry ∈ entries) :
    (graph.node entry.1.last).priority = entry.2.totalPriority :=
  congrArg Node.priority (unites.marked entry member)

theorem Graph.Unites.immediate_last
    [PropertyParser]
    (unites : graph.Unites start entries)
    {entry : Fragment × Pattern τ}
    (member : entry ∈ entries) :
    (graph.node entry.1.last).immediate =
      (entry.2.options.fixedEnder || entry.2.options.acceptImmediately) :=
  congrArg Node.immediate (unites.marked entry member)

theorem Graph.Unites.enderLength_last
    [PropertyParser]
    (unites : graph.Unites start entries)
    {entry : Fragment × Pattern τ}
    (member : entry ∈ entries) :
    (graph.node entry.1.last).enderLength = entry.2.enderLength :=
  congrArg Node.enderLength (unites.marked entry member)

/-- The exit of a pattern is reached behind the text that the pattern matches. -/
theorem Graph.Unites.last_mem_reached_iff
    [PropertyParser]
    (unites : graph.Unites start entries)
    {entry : Fragment × Pattern τ}
    (member : entry ∈ entries)
    (searchStart : Nat)
    (place : Place)
    (count : Nat) :
    entry.1.last ∈ graph.reached searchStart {start} place count ↔
      entry.2.Matches searchStart place (place.advance count) := by
  rw [← unites.walk_iff searchStart entry member]
  constructor
  · rintro ⟨_, rfl, walk⟩
    exact walk
  · intro walk
    exact ⟨start, rfl, walk⟩

/-- Behind some characters there is a terminal when some pattern matches them. -/
theorem Graph.Unites.hasTerminal_reached
    [PropertyParser]
    (unites : graph.Unites start entries)
    {entry : Fragment × Pattern τ}
    (member : entry ∈ entries)
    {searchStart : Nat}
    {place : Place}
    {count : Nat}
    (matched : entry.2.Matches searchStart place (place.advance count)) :
    graph.HasTerminal (graph.reached searchStart {start} place count) := by
  refine ⟨entry.1.last, (unites.last_mem_reached_iff member searchStart place count).mpr matched,
    ?_⟩
  rw [unites.token_last member]
  rfl

/-- What a pattern matches is in front of a place further on. -/
theorem Graph.Unites.exists_advance
    [PropertyParser]
    (unites : graph.Unites start entries)
    {entry : Fragment × Pattern τ}
    (member : entry ∈ entries)
    {searchStart : Nat}
    {source target : Place}
    (matched : entry.2.Matches searchStart source target) :
    ∃ count ≤ source.rest.length, target = source.advance count :=
  Graph.Walk.exists_advance ((unites.walk_iff searchStart entry member source target).mpr matched)

theorem Graph.Joins.plain
    [PropertyParser]
    (joins : graph.Joins start entries) :
    graph.Plain := by
  constructor
  · intro id
    rcases joins.bare_cases id with ⟨entry, member, _, same⟩ | same
    · rw [(joins.allPlain entry member).mark_eq] at same
      exact congrArg Node.immediate same
    · exact congrArg Node.immediate same
  · intro id
    rcases joins.bare_cases id with ⟨entry, member, _, same⟩ | same
    · rw [(joins.allPlain entry member).mark_eq] at same
      exact congrArg Node.enderLength same
    · exact congrArg Node.enderLength same

end Unites

/-- The fragment of all patterns, and the graph with it. -/
def LexerBuilder.joined
    (builder : LexerBuilder τ) :
    Fragment × Graph τ :=
  (Build.alternatives builder.fragments).run builder.graph

/-- The automaton of a builder is that of the graph with the fragment of all patterns. -/
theorem LexerBuilder.automaton_eq
    [DecidableEq τ]
    (builder : LexerBuilder τ) :
    builder.automaton =
      if builder.isEmpty then
        .error (.text ⟨.noExpressions, 0⟩)
      else
        (Automaton.ofGraph builder.joined.2 builder.joined.1.first).mapError .ambiguous := by
  unfold automaton joined
  obtain ⟨whole, graph⟩ := (Build.alternatives builder.fragments).run builder.graph
  dsimp only
  cases Automaton.ofGraph graph whole.first <;> rfl

/-- What is built is the automaton of the graph with the fragment of all patterns. -/
theorem LexerBuilder.ofGraph_joined
    [DecidableEq τ]
    {builder : LexerBuilder τ}
    {automaton : Automaton τ}
    (built : builder.automaton = .ok automaton) :
    Automaton.ofGraph builder.joined.2 builder.joined.1.first = .ok automaton := by
  rw [automaton_eq] at built
  split at built
  · contradiction
  · cases constructed : Automaton.ofGraph builder.joined.2 builder.joined.1.first with
    | error ambiguity =>
        rw [constructed] at built
        contradiction
    | ok other =>
        rw [constructed] at built
        cases built
        rfl

/-- The graph with the fragment of all patterns unites them. -/
theorem LexerBuilder.Gathers.unites_joined
    [PropertyParser]
    {builder : LexerBuilder τ}
    {entries : List (Fragment × Pattern τ)}
    (gathers : builder.Gathers entries) :
    builder.joined.2.Unites builder.joined.1.first entries := by
  have joined :
      Build.alternatives (entries.map Prod.fst) builder.graph =
        (builder.joined.1, builder.joined.2) := by
    rw [← gathers.fragments]
    rfl
  obtain ⟨_, rows⟩ := gathers.rows (Label.Crosses 0)
  obtain ⟨grows, _⟩ := rows.alternatives
  rw [joined] at grows
  refine ⟨?_, ?_, ?_⟩
  · intro σ crossing entry member source target
    obtain ⟨region, rows⟩ := gathers.rows crossing
    obtain ⟨_, _, _, _, branches⟩ := rows.alternatives
    rw [joined] at branches
    unfold Graph.Branches at branches
    rw [List.forall₂_map_left_iff, List.forall₂_map_right_iff, List.forall₂_same] at branches
    exact branches entry member source target
  · intro entry member
    rw [grows.bare]
    exact gathers.marked entry member
  · intro id outside
    rw [grows.bare]
    exact gathers.others id outside

/-- The automaton of a builder is made from a graph that unites the patterns. -/
theorem LexerBuilder.Gathers.exists_unites
    [PropertyParser]
    [DecidableEq τ]
    {builder : LexerBuilder τ}
    {entries : List (Fragment × Pattern τ)}
    (gathers : builder.Gathers entries)
    {automaton : Automaton τ}
    (built : builder.automaton = .ok automaton) :
    ∃ graph start,
      Automaton.ofGraph graph start = .ok automaton ∧ graph.Unites start entries :=
  ⟨_, _, ofGraph_joined built, gathers.unites_joined⟩

theorem LexerBuilder.Collects.exists_joins
    [PropertyParser]
    [DecidableEq τ]
    {builder : LexerBuilder τ}
    {entries : List (Fragment × Pattern τ)}
    (collects : builder.Collects entries)
    {automaton : Automaton τ}
    (built : builder.automaton = .ok automaton) :
    ∃ graph start,
      Automaton.ofGraph graph start = .ok automaton ∧ graph.Joins start entries := by
  obtain ⟨graph, start, constructed, unites⟩ := collects.toGathers.exists_unites built
  exact ⟨graph, start, constructed, unites, collects.allPlain⟩

end LexicalAutomata
