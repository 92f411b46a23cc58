import LexicalAutomata.Proofs.Automaton.TokensBelow
import LexicalAutomata.Proofs.Automaton.Words

namespace LexicalAutomata

/-!
# Following a text

Without boundaries and immediate acceptance, every state stands for the nodes behind some
word, and the states that it leads to for those behind longer words.  So the pruned
automaton follows a text exactly as long as some longer text is accepted, and the tokens
below the state where it arrives are those of the longer texts.
-/

variable {τ : Type}

namespace Automaton

variable {automaton : Automaton τ}

/-- A walk over a longer text reads the last character behind the walk over the rest. -/
theorem walk_concat
    (automaton : Automaton τ)
    (id : Nat)
    (text : List Char)
    (last : Char) :
    Abbreviations.walk automaton id (text ++ [last]) =
      (Abbreviations.walk automaton id text).bind fun state => automaton.next? state last := by
  induction text generalizing id with
  | nil =>
      simp only [List.nil_append, Abbreviations.walk, Option.bind_some]
      cases automaton.next? id last <;> rfl
  | cons char rest inductionHypothesis =>
      simp only [List.cons_append, Abbreviations.walk]
      cases automaton.next? id char with
      | none =>
          rfl
      | some next =>
          exact inductionHypothesis next

@[simp] theorem token?_prune
    (automaton : Automaton τ)
    (id : Nat) :
    automaton.prune.token? id = automaton.token? id := by
  rw [token?, acceptance_prune, token?]

/-- The pruned automaton leads where the automaton itself leads to a live state. -/
theorem leadsTo_prune_iff
    {id next : Nat} :
    automaton.prune.LeadsTo id next ↔
      automaton.LeadsTo id next ∧ automaton.live.contains next = true := by
  unfold LeadsTo successors
  rw [state_prune]
  simp only [State.restrict, State.successors, List.mem_append, List.mem_map, List.mem_filter]
  constructor
  · rintro (⟨step, ⟨member, live⟩, rfl⟩ | ⟨step, ⟨member, live⟩, rfl⟩)
    · exact ⟨Or.inl ⟨step, member, rfl⟩, live⟩
    · exact ⟨Or.inr ⟨step, member, rfl⟩, live⟩
  · rintro ⟨⟨step, member, rfl⟩ | ⟨step, member, rfl⟩, live⟩
    · exact Or.inl ⟨step, ⟨member, live⟩, rfl⟩
    · exact Or.inr ⟨step, ⟨member, live⟩, rfl⟩

/-- Pruning keeps the paths to states that accept something. -/
theorem path_prune_iff
    {id last : Nat}
    (accepts : automaton.acceptance last ≠ none) :
    Relation.ReflTransGen automaton.prune.LeadsTo id last ↔
      Relation.ReflTransGen automaton.LeadsTo id last := by
  constructor
  · exact Relation.ReflTransGen.mono (fun _ _ leads => (leadsTo_prune_iff.mp leads).1) id last
  · intro path
    induction path using Relation.ReflTransGen.head_induction_on with
    | refl =>
        exact .refl
    | head leads path inductionHypothesis =>
        exact inductionHypothesis.head
          (leadsTo_prune_iff.mpr ⟨leads, contains_live_iff.mpr ⟨last, path, accepts⟩⟩)

end Automaton

namespace Graph

/-- What can be read behind a longer word can be read behind the word. -/
theorem nonempty_behind_of_append
    {graph : Graph τ}
    {nodes : Set Nat}
    {word more : List Nat}
    (nonempty : (graph.behind nodes (word ++ more)).Nonempty) :
    (graph.behind nodes word).Nonempty := by
  induction more using List.reverseRecOn with
  | nil =>
      rwa [List.append_nil] at nonempty
  | append_singleton more codePoint inductionHypothesis =>
      rw [← List.append_assoc, behind_concat] at nonempty
      obtain ⟨_, _, ⟨source, member, _⟩, _⟩ := nonempty
      exact inductionHypothesis ⟨source, member⟩

/-- There are nodes where there is a terminal. -/
theorem HasTerminal.nonempty
    {graph : Graph τ}
    {nodes : Set Nat}
    (hasTerminal : graph.HasTerminal nodes) :
    nodes.Nonempty := by
  obtain ⟨terminal, member, _⟩ := hasTerminal
  exact ⟨terminal, member⟩

section Follows

variable [DecidableEq τ] {graph : Graph τ} {start : Nat} {keys : Array Key}
  {automaton : Automaton τ} {id next : Nat} {word : List Nat}

/-- A state stands for the nodes behind a word. -/
def Follows
    (graph : Graph τ)
    (start : Nat)
    (keys : Array Key)
    (id : Nat)
    (word : List Nat) :
    Prop :=
  graph.StandsFor keys false id (graph.behind {start} word)

/-- Where no label waits for a boundary, a state that follows a word leads on to longer words. -/
theorem Determinizes.follows_of_leadsTo
    (determinizes : graph.Determinizes start keys automaton)
    (free : graph.BoundaryFree)
    (patient : ∀ id, (graph.node id).immediate = false)
    (follows : graph.Follows start keys id word)
    (leads : automaton.LeadsTo id next) :
    ∃ codePoint, graph.Follows start keys next (word ++ [codePoint]) := by
  obtain ⟨members, numbered, lists⟩ := follows
  obtain ⟨outcome, halts, realizes⟩ :=
    determinizes.exists_realizes numbered lists (not_stops patient _)
  rcases List.mem_append.mp leads with resolving | reading
  · -- A resolution settles a boundary that some label waits for, and no label does.
    obtain ⟨resolution, member, _⟩ := List.mem_map.mp resolving
    have candidate := ((realizes.resolves halts).target resolution member).1
    exact (free.not_mem_candidates _ _ candidate).elim
  · obtain ⟨transition, member, rfl⟩ := List.mem_map.mp reading
    have splits := realizes.splits halts
    refine ⟨transition.first, _,
      (splits.target transition member transition.first
        ⟨Nat.le_refl _, splits.nonempty transition member⟩).2, ?_⟩
    rw [behind_concat]
    exact lists.closure_targetsAt _

/-- A state that follows a word leads on to every longer word that can be read. -/
theorem Determinizes.exists_leadsTo
    (determinizes : graph.Determinizes start keys automaton)
    (patient : ∀ id, (graph.node id).immediate = false)
    (follows : graph.Follows start keys id word)
    {codePoint : Nat}
    (read : (graph.behind {start} (word ++ [codePoint])).Nonempty) :
    ∃ next,
      automaton.LeadsTo id next ∧ graph.Follows start keys next (word ++ [codePoint]) := by
  obtain ⟨members, numbered, lists⟩ := follows
  obtain ⟨outcome, halts, realizes⟩ :=
    determinizes.exists_realizes numbered lists (not_stops patient _)
  have splits := realizes.splits halts
  rw [behind_concat] at read
  obtain ⟨_, source, member, _⟩ := read
  obtain ⟨transition, present, contained⟩ :=
    splits.complete codePoint (Nat.zero_le _)
      ((lists.targetsAt_ne_nil_iff codePoint).mpr ⟨source, member⟩)
  refine ⟨transition.target, List.mem_append_right _ (List.mem_map_of_mem present), _,
    (splits.target transition present codePoint contained).2, ?_⟩
  rw [behind_concat]
  exact lists.closure_targetsAt codePoint

/-- Paths from a state that follows a word lead to states that follow longer words. -/
theorem Determinizes.follows_of_path
    (determinizes : graph.Determinizes start keys automaton)
    (free : graph.BoundaryFree)
    (patient : ∀ id, (graph.node id).immediate = false)
    (follows : graph.Follows start keys id word)
    {last : Nat}
    (path : Relation.ReflTransGen automaton.LeadsTo id last) :
    ∃ more, graph.Follows start keys last (word ++ more) := by
  induction path with
  | refl =>
      exact ⟨[], by rwa [List.append_nil]⟩
  | tail _ leads inductionHypothesis =>
      obtain ⟨more, middleFollows⟩ := inductionHypothesis
      obtain ⟨codePoint, lastFollows⟩ :=
        determinizes.follows_of_leadsTo free patient middleFollows leads
      exact ⟨more ++ [codePoint], by rwa [← List.append_assoc]⟩

/-- From a state that follows a word there are paths for all longer words that can be read. -/
theorem Determinizes.exists_path
    (determinizes : graph.Determinizes start keys automaton)
    (patient : ∀ id, (graph.node id).immediate = false)
    (follows : graph.Follows start keys id word)
    {more : List Nat}
    (read : (graph.behind {start} (word ++ more)).Nonempty) :
    ∃ last,
      Relation.ReflTransGen automaton.LeadsTo id last ∧
        graph.Follows start keys last (word ++ more) := by
  induction more using List.reverseRecOn with
  | nil =>
      exact ⟨id, .refl, by rwa [List.append_nil]⟩
  | append_singleton more codePoint inductionHypothesis =>
      rw [← List.append_assoc] at read ⊢
      obtain ⟨middle, path, middleFollows⟩ :=
        inductionHypothesis (nonempty_behind_of_append read)
      obtain ⟨last, leads, lastFollows⟩ := determinizes.exists_leadsTo patient middleFollows read
      exact ⟨last, path.tail leads, lastFollows⟩

/-- A state that follows a word is live when there is a terminal behind some longer word. -/
theorem Determinizes.live_iff
    (determinizes : graph.Determinizes start keys automaton)
    (free : graph.BoundaryFree)
    (patient : ∀ id, (graph.node id).immediate = false)
    (follows : graph.Follows start keys id word) :
    automaton.live.contains id = true ↔
      ∃ more, graph.HasTerminal (graph.behind {start} (word ++ more)) := by
  rw [Automaton.contains_live_iff]
  constructor
  · rintro ⟨last, path, accepts⟩
    obtain ⟨more, lastFollows⟩ := determinizes.follows_of_path free patient follows path
    exact ⟨more, not_not.mp fun silent =>
      accepts ((determinizes.acceptance_eq_none_iff lastFollows).mpr silent)⟩
  · rintro ⟨more, hasTerminal⟩
    obtain ⟨last, path, lastFollows⟩ :=
      determinizes.exists_path patient follows hasTerminal.nonempty
    exact ⟨last, path, fun silent =>
      (determinizes.acceptance_eq_none_iff lastFollows).mp silent hasTerminal⟩

/-- A state that follows a word has the token that the terminals behind the word have. -/
theorem Determinizes.token?_eq_some_iff
    (determinizes : graph.Determinizes start keys automaton)
    (follows : graph.Follows start keys id word)
    {token : τ} :
    automaton.token? id = some token ↔
      ∃ top,
        graph.IsTop (graph.behind {start} word) top ∧ (graph.node top).token = some token := by
  rw [Automaton.token?, Option.map_eq_some_iff]
  constructor
  · rintro ⟨acceptance, found, rfl⟩
    have accepts := (determinizes.acceptance_eq_some_iff follows).mp found
    obtain ⟨top, isTop, _⟩ := accepts.priority
    exact ⟨top, isTop, accepts.token top isTop⟩
  · rintro ⟨top, isTop, stored⟩
    cases found : automaton.acceptance id with
    | none =>
        exact ((determinizes.acceptance_eq_none_iff follows).mp found
          ⟨top, isTop.member, isTop.terminal⟩).elim
    | some acceptance =>
        have accepts := (determinizes.acceptance_eq_some_iff follows).mp found
        rw [accepts.token top isTop] at stored
        exact ⟨acceptance, rfl, Option.some.inj stored⟩

/-- The walk of the pruned automaton over a text arrives at the state of its code points. -/
theorem Determinizes.follows_of_walk
    (determinizes : graph.Determinizes start keys automaton)
    {text : List Char}
    (arrives : Abbreviations.walk automaton.prune automaton.start text = some id) :
    graph.Follows start keys id (text.map Char.toNat) := by
  induction text using List.reverseRecOn generalizing id with
  | nil =>
      cases arrives
      exact determinizes.standsFor_start
  | append_singleton text last inductionHypothesis =>
      rw [Automaton.walk_concat, Option.bind_eq_some_iff] at arrives
      obtain ⟨middle, walked, moves⟩ := arrives
      have middleFollows := inductionHypothesis walked
      have next := Automaton.next?_of_next?_prune (determinizes.ordered middleFollows) moves
      rw [List.map_append, List.map_singleton, Follows, behind_concat]
      exact determinizes.standsFor_next middleFollows next

/-- The walk goes on as long as there is a terminal behind some longer word. -/
theorem Determinizes.exists_walk
    (determinizes : graph.Determinizes start keys automaton)
    (free : graph.BoundaryFree)
    (patient : ∀ id, (graph.node id).immediate = false)
    {text : List Char}
    {more : List Nat}
    (hasTerminal : graph.HasTerminal (graph.behind {start} (text.map Char.toNat ++ more))) :
    ∃ id, Abbreviations.walk automaton.prune automaton.start text = some id := by
  induction text using List.reverseRecOn generalizing more with
  | nil =>
      exact ⟨automaton.start, rfl⟩
  | append_singleton text last inductionHypothesis =>
      rw [List.map_append, List.map_singleton] at hasTerminal
      have earlier := hasTerminal
      rw [List.append_assoc] at earlier
      obtain ⟨middle, walked⟩ := inductionHypothesis earlier
      have middleFollows := determinizes.follows_of_walk walked
      rw [Automaton.walk_concat, walked, Option.bind_some]
      rcases Automaton.next?_prune (determinizes.ordered middleFollows) last with
        same | ⟨_, next, moves, dead⟩
      · rw [same]
        refine Option.ne_none_iff_exists'.mp fun stuck => ?_
        have unread :=
          (determinizes.next?_eq_none_iff middleFollows (not_stops patient _) last).mp stuck
        have read := nonempty_behind_of_append hasTerminal.nonempty
        rw [behind_concat, unread] at read
        obtain ⟨_, _, impossible, _⟩ := read
        exact impossible
      · -- Pruning takes away steps to dead states only, and the terminal is still ahead.
        have nextFollows : graph.Follows start keys next (text.map Char.toNat ++ [last.toNat]) := by
          rw [Follows, behind_concat]
          exact determinizes.standsFor_next middleFollows moves
        have live := (determinizes.live_iff free patient nextFollows).mpr ⟨more, hasTerminal⟩
        rw [Automaton.Dead, live] at dead
        contradiction

/-- Where the walk has read something, there is a terminal behind some longer word. -/
theorem Determinizes.hasTerminal_of_walk
    (determinizes : graph.Determinizes start keys automaton)
    (free : graph.BoundaryFree)
    (patient : ∀ id, (graph.node id).immediate = false)
    {text : List Char}
    (nonempty : text ≠ [])
    (arrives : Abbreviations.walk automaton.prune automaton.start text = some id) :
    ∃ more, graph.HasTerminal (graph.behind {start} (text.map Char.toNat ++ more)) := by
  have follows := determinizes.follows_of_walk arrives
  rw [← determinizes.live_iff free patient follows]
  obtain ⟨front, last, rfl⟩ : ∃ front last, text = front ++ [last] :=
    ⟨_, _, (List.dropLast_append_getLast nonempty).symm⟩
  rw [Automaton.walk_concat, Option.bind_eq_some_iff] at arrives
  obtain ⟨middle, _, moves⟩ := arrives
  exact (Automaton.leadsTo_prune_iff.mp (Automaton.leadsTo_of_next? moves)).2

end Follows

section OfGraph

variable [DecidableEq τ] {graph : Graph τ} {start : Nat} {automaton : Automaton τ}

/-- The walk over a text that is not empty succeeds while some longer word has a terminal. -/
theorem walk_isSome_iff
    (built : Automaton.ofGraph graph start = .ok automaton)
    (free : graph.BoundaryFree)
    (patient : ∀ id, (graph.node id).immediate = false)
    {text : List Char}
    (nonempty : text ≠ []) :
    (Abbreviations.walk automaton automaton.start text).isSome = true ↔
      ∃ more, graph.HasTerminal (graph.behind {start} (text.map Char.toNat ++ more)) := by
  obtain ⟨whole, constructed, rfl⟩ := exists_of_map_eq_ok built
  obtain ⟨keys, determinizes⟩ := determinizes_subsetAutomaton constructed
  rw [Option.isSome_iff_exists]
  constructor
  · rintro ⟨id, arrives⟩
    exact determinizes.hasTerminal_of_walk free patient nonempty arrives
  · rintro ⟨more, hasTerminal⟩
    exact determinizes.exists_walk free patient hasTerminal

/-- The walk arrives at the token of the terminals behind the text. -/
theorem bind_walk_token?_eq_some_iff
    (built : Automaton.ofGraph graph start = .ok automaton)
    (free : graph.BoundaryFree)
    (patient : ∀ id, (graph.node id).immediate = false)
    {text : List Char}
    {token : τ} :
    (Abbreviations.walk automaton automaton.start text).bind automaton.token? = some token ↔
      ∃ top,
        graph.IsTop (graph.behind {start} (text.map Char.toNat)) top ∧
          (graph.node top).token = some token := by
  obtain ⟨whole, constructed, rfl⟩ := exists_of_map_eq_ok built
  obtain ⟨keys, determinizes⟩ := determinizes_subsetAutomaton constructed
  rw [Option.bind_eq_some_iff]
  constructor
  · rintro ⟨id, arrives, stored⟩
    rw [Automaton.token?_prune] at stored
    exact (determinizes.token?_eq_some_iff (determinizes.follows_of_walk arrives)).mp stored
  · rintro ⟨top, isTop, stored⟩
    have hasTerminal : graph.HasTerminal (graph.behind {start} (text.map Char.toNat ++ [])) := by
      rw [List.append_nil]
      exact ⟨top, isTop.member, isTop.terminal⟩
    obtain ⟨id, arrives⟩ := determinizes.exists_walk free patient hasTerminal
    refine ⟨id, arrives, ?_⟩
    rw [Automaton.token?_prune]
    exact (determinizes.token?_eq_some_iff (determinizes.follows_of_walk arrives)).mpr
      ⟨top, isTop, stored⟩

/-- The tokens below the state where the walk arrives are those behind longer words. -/
theorem mem_tokensBelow_walk_iff
    (built : Automaton.ofGraph graph start = .ok automaton)
    (free : graph.BoundaryFree)
    (patient : ∀ id, (graph.node id).immediate = false)
    {text : List Char}
    {id : Nat}
    (arrives : Abbreviations.walk automaton automaton.start text = some id)
    {token : τ} :
    token ∈ Abbreviations.tokensBelow automaton id ↔
      ∃ more top,
        graph.IsTop (graph.behind {start} (text.map Char.toNat ++ more)) top ∧
          (graph.node top).token = some token := by
  obtain ⟨whole, constructed, rfl⟩ := exists_of_map_eq_ok built
  obtain ⟨keys, determinizes⟩ := determinizes_subsetAutomaton constructed
  have follows := determinizes.follows_of_walk arrives
  constructor
  · rintro ⟨last, path, stored⟩
    rw [Automaton.token?_prune] at stored
    obtain ⟨more, lastFollows⟩ :=
      determinizes.follows_of_path free patient follows
        ((Automaton.path_prune_iff (Automaton.acceptance_ne_none_of_token? stored)).mp path)
    exact ⟨more, (determinizes.token?_eq_some_iff lastFollows).mp stored⟩
  · rintro ⟨more, top, isTop, stored⟩
    obtain ⟨last, path, lastFollows⟩ :=
      determinizes.exists_path patient follows ⟨top, isTop.member⟩
    have found := (determinizes.token?_eq_some_iff lastFollows).mpr ⟨top, isTop, stored⟩
    refine ⟨last, (Automaton.path_prune_iff
      (Automaton.acceptance_ne_none_of_token? found)).mpr path, ?_⟩
    rw [Automaton.token?_prune]
    exact found

end OfGraph

end Graph

end LexicalAutomata
