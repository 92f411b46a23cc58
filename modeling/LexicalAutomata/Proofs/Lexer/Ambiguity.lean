import LexicalAutomata.Proofs.Automaton.Words
import LexicalAutomata.Proofs.Lexer.Blocks
import LexicalAutomata.Unicode.Property

namespace LexicalAutomata

/-!
# Ambiguous patterns

Patterns are refused as ambiguous exactly when for some word the patterns that accept it
with the highest priority have different tokens.  The tokens that are reported are those
for such a word.
-/

variable {τ : Type}

namespace Pattern

/-- No label of the expression of a pattern waits for a boundary. -/
def BoundaryFree
    [PropertyParser]
    (pattern : Pattern τ) :
    Prop :=
  pattern.Bears fun label => label.boundaries = .empty

instance
    [PropertyParser]
    (pattern : Pattern τ) :
    Decidable pattern.BoundaryFree :=
  inferInstanceAs (Decidable (pattern.Bears fun label => label.boundaries = .empty))

/-- The expression of a pattern leads over the whole word. -/
def Accepts
    [PropertyParser]
    (pattern : Pattern τ)
    (word : List Nat) :
    Prop :=
  pattern.Leads Label.Reads word []

/-- Of the patterns that accept a word, none exceeds this one in priority. -/
structure Leading
    [PropertyParser]
    (patterns : List (Pattern τ))
    (word : List Nat)
    (pattern : Pattern τ) : Prop where
  member : pattern ∈ patterns
  accepts : pattern.Accepts word
  highest :
    ∀ other ∈ patterns, other.Accepts word → other.totalPriority ≤ pattern.totalPriority

/-- The tokens of the patterns that accept a word with the highest priority. -/
def leadingTokens
    [PropertyParser]
    (patterns : List (Pattern τ))
    (word : List Nat) :
    Set τ :=
  { token | ∃ pattern, Leading patterns word pattern ∧ pattern.token = token }

end Pattern

section Unites

variable {graph : Graph τ} {start : Nat} {entries : List (Fragment × Pattern τ)}

/-- The exit of a pattern is behind the words that the pattern accepts. -/
theorem Graph.Unites.last_mem_behind_iff
    [PropertyParser]
    (unites : graph.Unites start entries)
    {entry : Fragment × Pattern τ}
    (member : entry ∈ entries)
    (word : List Nat) :
    entry.1.last ∈ graph.behind {start} word ↔ entry.2.Accepts word := by
  rw [Graph.mem_behind_iff]
  constructor
  · rintro ⟨_, rfl, route⟩
    exact (unites.route_iff Label.Reads entry member word []).mp route
  · intro accepts
    exact ⟨start, rfl, (unites.route_iff Label.Reads entry member word []).mpr accepts⟩

/-- The terminals that count behind a word are the exits of the leading patterns. -/
theorem Graph.Unites.isTop_behind_iff
    [PropertyParser]
    (unites : graph.Unites start entries)
    {entry : Fragment × Pattern τ}
    (member : entry ∈ entries)
    (word : List Nat) :
    graph.IsTop (graph.behind {start} word) entry.1.last ↔
      Pattern.Leading (entries.map Prod.snd) word entry.2 := by
  constructor
  · intro isTop
    refine ⟨List.mem_map_of_mem member,
      (unites.last_mem_behind_iff member word).mp isTop.member, ?_⟩
    intro other otherMember accepts
    obtain ⟨otherEntry, entryMember, rfl⟩ := List.mem_map.mp otherMember
    rw [← unites.priority_last member, ← unites.priority_last entryMember]
    apply isTop.highest _ ((unites.last_mem_behind_iff entryMember word).mpr accepts)
    rw [unites.token_last entryMember]
    rfl
  · intro leading
    refine ⟨(unites.last_mem_behind_iff member word).mpr leading.accepts, ?_, ?_⟩
    · rw [unites.token_last member]
      rfl
    · intro other otherMember terminal
      obtain ⟨otherEntry, entryMember, rfl⟩ := unites.exists_entry terminal
      rw [unites.priority_last member, unites.priority_last entryMember]
      exact leading.highest _ (List.mem_map_of_mem entryMember)
        ((unites.last_mem_behind_iff entryMember word).mp otherMember)

/-- The tokens that count behind a word are those of the leading patterns. -/
theorem Graph.Unites.mem_leadingTokens_iff
    [PropertyParser]
    (unites : graph.Unites start entries)
    (word : List Nat)
    (token : τ) :
    token ∈ Pattern.leadingTokens (entries.map Prod.snd) word ↔
      ∃ top,
        graph.IsTop (graph.behind {start} word) top ∧ (graph.node top).token = some token := by
  constructor
  · rintro ⟨pattern, leading, rfl⟩
    obtain ⟨entry, member, rfl⟩ := List.mem_map.mp leading.member
    exact ⟨entry.1.last, (unites.isTop_behind_iff member word).mpr leading,
      unites.token_last member⟩
  · rintro ⟨top, isTop, stored⟩
    obtain ⟨entry, member, rfl⟩ := unites.exists_entry isTop.terminal
    rw [unites.token_last member] at stored
    exact ⟨entry.2, (unites.isTop_behind_iff member word).mp isTop, Option.some.inj stored⟩

end Unites

namespace LexerBuilder

/-- Patterns without boundaries are joined in a graph without boundaries. -/
theorem boundaryFree_joined
    [PropertyParser]
    {builder : LexerBuilder τ}
    {patterns : List (Pattern τ)}
    (added : empty.addAll patterns = .ok builder)
    (boundaryFree : ∀ pattern ∈ patterns, pattern.BoundaryFree) :
    builder.joined.2.BoundaryFree := by
  obtain ⟨bears, _⟩ := (bears_empty.addAll boundaryFree added).joined
  intro id edge member
  have fits := bears id edge member
  cases edge with
  | silent _ =>
      rfl
  | labelled _ _ =>
      exact fits.1

section Build

variable [DecidableEq τ] {builder : LexerBuilder τ} {patterns : List (Pattern τ)}

/-- An ambiguity of a builder is one of the graph that joins its patterns. -/
theorem ofGraph_of_ambiguous
    {ambiguity : Ambiguity τ}
    (failed : builder.build = .error (.ambiguous ambiguity)) :
    Automaton.ofGraph builder.joined.2 builder.joined.1.first = .error ambiguity := by
  rw [build, automaton_eq] at failed
  split at failed
  · cases failed
  · cases constructed : Automaton.ofGraph builder.joined.2 builder.joined.1.first with
    | ok automaton =>
        rw [constructed] at failed
        cases failed
    | error other =>
        rw [constructed] at failed
        cases failed
        rfl

/-- A builder with patterns fails where the graph that joins them does. -/
theorem build_eq_ambiguous
    (nonempty : builder.fragments ≠ [])
    {ambiguity : Ambiguity τ}
    (failed :
      Automaton.ofGraph builder.joined.2 builder.joined.1.first = .error ambiguity) :
    builder.build = .error (.ambiguous ambiguity) := by
  have notEmpty : ¬ builder.isEmpty = true := by
    simpa [isEmpty] using nonempty
  rw [build, automaton_eq, if_neg notEmpty, failed]
  rfl

/--
Patterns without boundaries, enders and immediate acceptance are refused as ambiguous
exactly when some word is accepted by patterns of the highest priority with different
tokens, and the tokens that are reported are all tokens of these patterns.  The priorities
that are compared are 32-bit numbers: they are the exact ones except for a literal whose
priority is the greatest there is, which becomes the lowest.
-/
theorem build_ambiguous
    [PropertyParser]
    (added : empty.addAll patterns = .ok builder)
    (plain : ∀ pattern ∈ patterns, pattern.Plain)
    (boundaryFree : ∀ pattern ∈ patterns, pattern.BoundaryFree) :
    (∀ ambiguity,
      builder.build = .error (.ambiguous ambiguity) →
        ∃ word : List Nat,
          (∀ codePoint ∈ word, codePoint < codePointLimit) ∧
            (Pattern.leadingTokens patterns word).Nontrivial ∧
              ambiguity.tokens.Nodup ∧
                ∀ token, token ∈ ambiguity.tokens ↔ token ∈ Pattern.leadingTokens patterns word) ∧
      (∀ word : List Nat,
        (∀ codePoint ∈ word, codePoint < codePointLimit) →
          (Pattern.leadingTokens patterns word).Nontrivial →
            ∃ ambiguity, builder.build = .error (.ambiguous ambiguity)) ∧
      ∀ pattern ∈ patterns,
        pattern.totalPriority.toInt =
          if pattern.exactPriority = 0x80000000 then -0x80000000 else pattern.exactPriority := by
  obtain ⟨entries, collects, rfl⟩ := collects_empty.addAll plain added
  rw [List.nil_append] at collects
  have unites := collects.unites_joined
  refine ⟨?_, ?_, fun pattern _ => pattern.toInt_totalPriority⟩
  · intro ambiguity failed
    obtain ⟨word, inDomain, nodup, several, mem_iff⟩ :=
      Graph.exists_word_of_ambiguous (boundaryFree_joined added boundaryFree)
        (ofGraph_of_ambiguous failed)
    have leading :
        ∀ token,
          token ∈ ambiguity.tokens ↔ token ∈ Pattern.leadingTokens (entries.map Prod.snd) word :=
      fun token => (mem_iff token).trans (unites.mem_leadingTokens_iff word token).symm
    refine ⟨word, inDomain, ?_, nodup, leading⟩
    match tokens : ambiguity.tokens with
    | [] | [_] =>
        simp [tokens] at several
    | first :: second :: _ =>
        rw [tokens] at nodup leading
        refine ⟨first, (leading first).mp (by simp), second, (leading second).mp (by simp), ?_⟩
        rintro rfl
        simp at nodup
  · rintro word _ ⟨first, firstLeads, second, secondLeads, different⟩
    obtain ⟨top, isTop, stored⟩ := (unites.mem_leadingTokens_iff word first).mp firstLeads
    obtain ⟨other, otherTop, otherStored⟩ :=
      (unites.mem_leadingTokens_iff word second).mp secondLeads
    have nonempty : builder.fragments ≠ [] := by
      obtain ⟨entry, member, _⟩ := unites.exists_entry isTop.terminal
      rw [collects.fragments]
      exact List.ne_nil_of_mem (List.mem_map_of_mem member)
    cases constructed : Automaton.ofGraph builder.joined.2 builder.joined.1.first with
    | error ambiguity =>
        exact ⟨ambiguity, build_eq_ambiguous nonempty constructed⟩
    | ok automaton =>
        have patient : ∀ id, (builder.joined.2.node id).immediate = false :=
          (Graph.Joins.mk unites collects.allPlain).plain.patient
        have same :=
          Graph.agrees_behind_of_built patient constructed word top other isTop otherTop
        rw [stored, otherStored] at same
        exact (different (Option.some.inj same)).elim

/-- What can be evaluated of an ambiguity is said of a builder that is refused. -/
theorem exists_refused
    [PropertyParser]
    (patterns : List (Pattern τ))
    (tokens : List τ)
    (evaluated :
      ((empty.addAll patterns).toOption.bind fun builder =>
        match builder.build with
        | .error (.ambiguous ambiguity) => some ambiguity.tokens
        | _ => none) = some tokens) :
    ∃ builder,
      empty.addAll patterns = .ok builder ∧ builder.build = .error (.ambiguous ⟨tokens⟩) := by
  obtain ⟨builder, isBuilder, same⟩ := Option.bind_eq_some_iff.mp evaluated
  refine ⟨builder, ok_of_toOption isBuilder, ?_⟩
  split at same
  · rename_i ambiguity failed
    rw [failed, ← Option.some.inj same]
  · contradiction

/-- Hexadecimal and decimal numbers, where what is both is of neither kind first. -/
def numeralPatterns : List (Pattern Nat) :=
  [{ text := "[0-9a-f]+", token := 1, options := {}, priority := 0 },
    { text := "[0-9]+", token := 2, options := {}, priority := 0 },
    { text := "[a-z]+", token := 3, options := {}, priority := -1 }]

theorem build_numeralPatterns :
    ∃ builder,
      empty.addAll numeralPatterns = .ok builder ∧
        builder.build = .error (.ambiguous ⟨[1, 2]⟩) ∧
          ∃ word : List Nat,
            (∀ codePoint ∈ word, codePoint < codePointLimit) ∧
              Pattern.leadingTokens numeralPatterns word = {1, 2} := by
  obtain ⟨builder, added, failed⟩ :=
    exists_refused numeralPatterns [1, 2] (by decide +kernel)
  obtain ⟨found, _⟩ :=
    build_ambiguous added (by unfold Pattern.Plain; decide) (by decide +kernel)
  obtain ⟨word, inDomain, _, _, leading⟩ := found _ failed
  refine ⟨builder, added, failed, word, inDomain, ?_⟩
  ext token
  rw [← leading token]
  simp

/-- A letter with the highest priority there is, and the same letter with the lowest. -/
def clashingPatterns : List (Pattern Nat) :=
  [{ text := "a", token := 1, options := {}, priority := 2147483647 },
    { text := "(a)", token := 2, options := {}, priority := -2147483648 }]

/-- The patterns are refused as ambiguous, though their exact priorities are different. -/
theorem refused_clashingPatterns :
    ∃ builder,
      empty.addAll clashingPatterns = .ok builder ∧
        (∀ pattern ∈ clashingPatterns, pattern.Plain ∧ pattern.BoundaryFree) ∧
          clashingPatterns.map Pattern.exactPriority = [0x80000000, -0x80000000] ∧
            builder.build = .error (.ambiguous ⟨[1, 2]⟩) := by
  obtain ⟨builder, added, failed⟩ :=
    exists_refused clashingPatterns [1, 2] (by decide +kernel)
  refine ⟨builder, added, ?_, by decide +kernel, failed⟩
  unfold Pattern.Plain
  decide +kernel

end Build

end LexerBuilder

end LexicalAutomata
