import LexicalAutomata.Automaton.Acceptance
import Mathlib.Data.List.Induction

namespace LexicalAutomata

/-!
# Who wins a contest

The sweep over the terminal nodes begins anew whenever it meets a higher priority.  What
it comes to does not depend on where that happens: the winners are the terminals with the
highest priority of all, and the tokens that are left are theirs.
-/

variable {τ : Type}

/-- The maximum of two 32-bit numbers is one of them, and bounds what bounds both. -/
instance instLawfulOrderMaxInt32 : Std.LawfulOrderMax Int32 where
  max_eq_or a b := by
    change (if a ≤ b then b else a) = a ∨ (if a ≤ b then b else a) = b
    split <;> simp
  max_le_iff a b c := by
    change (if a ≤ b then b else a) ≤ c ↔ a ≤ c ∧ b ≤ c
    split
    · rename_i below
      exact ⟨fun bound => ⟨Int32.le_trans below bound, bound⟩, And.right⟩
    · rename_i above
      have below := Int32.le_of_lt (Int32.not_le.mp above)
      exact ⟨fun bound => ⟨bound, Int32.le_trans below bound⟩, And.left⟩

namespace Graph

/-- The highest priority among the terminal nodes. -/
def topPriority?
    (graph : Graph τ)
    (members : List Nat) :
    Option Int32 :=
  ((graph.terminals members).map fun terminal => terminal.2.priority).max?

/-- The terminal nodes with the highest priority. -/
def winners
    (graph : Graph τ)
    (members : List Nat) :
    List (τ × Node τ) :=
  (graph.terminals members).filter fun terminal =>
    some terminal.2.priority == graph.topPriority? members

/-- The greatest ender among the terminal nodes with the highest priority. -/
def winningEnder
    (graph : Graph τ)
    (members : List Nat) :
    Nat :=
  ((graph.winners members).map fun terminal => terminal.2.enderLength).foldl max 0

end Graph

namespace Contest

variable {contest : Contest τ} {seen : List (τ × Node τ)}

/-- The terminals with a given priority. -/
def ranked
    (priority : Int32)
    (terminals : List (τ × Node τ)) :
    List (τ × Node τ) :=
  terminals.filter fun terminal => terminal.2.priority == priority

/-- A terminal of the same priority counts beside the others. -/
theorem ranked_concat
    {priority : Int32}
    (seen : List (τ × Node τ))
    (token : τ)
    {node : Node τ}
    (same : node.priority = priority) :
    ranked priority (seen ++ [(token, node)]) = ranked priority seen ++ [(token, node)] := by
  simp [ranked, same]

variable [DecidableEq τ]

/-- The terminals with a given priority and token. -/
def owned
    (priority : Int32)
    (token : τ)
    (terminals : List (τ × Node τ)) :
    List (τ × Node τ) :=
  (ranked priority terminals).filter fun terminal => terminal.1 == token

/-- A contest says of the terminals that have been met who leads them. -/
structure Judges
    (contest : Contest τ)
    (seen : List (τ × Node τ)) : Prop where
  highest : ∀ terminal ∈ seen, terminal.2.priority ≤ contest.priority
  tokens :
    contest.token :: contest.rivals =
      ((ranked contest.priority seen).map Prod.fst).eraseDups
  halts :
    contest.halts =
      (owned contest.priority contest.token seen).any fun terminal => terminal.2.immediate
  enderLength :
    contest.enderLength =
      ((owned contest.priority contest.token seen).map fun terminal =>
        terminal.2.enderLength).foldl max 0

theorem judges_alone
    (token : τ)
    (node : Node τ) :
    (alone token node).Judges [(token, node)] := by
  constructor <;> simp [alone, ranked, owned, List.eraseDups_cons]

/-- One more value at the end changes nothing where it has been seen, and else comes last. -/
theorem eraseDups_concat
    (tokens : List τ)
    (token : τ) :
    (tokens ++ [token]).eraseDups =
      if token ∈ tokens then tokens.eraseDups else tokens.eraseDups ++ [token] := by
  rw [List.eraseDups_append]
  split
  · rename_i old
    simp [List.removeAll, old]
  · rename_i new
    simp [List.removeAll, new, List.eraseDups_cons]

theorem nodup_eraseDups
    (tokens : List τ) :
    tokens.eraseDups.Nodup := by
  induction tokens using List.reverseRecOn with
  | nil =>
      simp
  | append_singleton tokens token inductionHypothesis =>
      rw [eraseDups_concat]
      split
      · exact inductionHypothesis
      · rename_i new
        rw [← List.mem_eraseDups] at new
        exact List.nodup_append.mpr ⟨inductionHypothesis, by simp, by
          rintro old member _ last rfl
          cases List.mem_singleton.mp last
          exact new member⟩

/-- A terminal of a lower priority changes nothing. -/
theorem Judges.lower
    (judges : contest.Judges seen)
    {token : τ}
    {node : Node τ}
    (less : node.priority < contest.priority) :
    contest.Judges (seen ++ [(token, node)]) := by
  have same : ranked contest.priority (seen ++ [(token, node)]) = ranked contest.priority seen := by
    simp [ranked, Int32.ne_of_lt less]
  refine ⟨?_, by rw [same, judges.tokens], ?_, ?_⟩
  · intro terminal member
    rcases List.mem_append.mp member with before | new
    · exact judges.highest terminal before
    · cases List.mem_singleton.mp new
      exact Int32.le_of_lt less
  · rw [owned, same, judges.halts]
    rfl
  · rw [owned, same, judges.enderLength]
    rfl

/-- A terminal of a higher priority is the only one that counts. -/
theorem Judges.higher
    (judges : contest.Judges seen)
    {token : τ}
    {node : Node τ}
    (greater : contest.priority < node.priority) :
    (alone token node).Judges (seen ++ [(token, node)]) := by
  have none : ranked node.priority seen = [] := by
    rw [ranked, List.filter_eq_nil_iff]
    intro terminal member
    have := judges.highest terminal member
    simp only [beq_iff_eq]
    exact Int32.ne_of_lt (Int32.lt_of_le_of_lt this greater)
  have last : ranked node.priority (seen ++ [(token, node)]) = [(token, node)] := by
    unfold ranked at none ⊢
    rw [List.filter_append, none]
    simp
  refine ⟨?_, ?_, ?_, ?_⟩
  · intro terminal member
    rcases List.mem_append.mp member with before | new
    · exact Int32.le_trans (judges.highest terminal before) (Int32.le_of_lt greater)
    · cases List.mem_singleton.mp new
      exact Int32.le_refl _
  · simp [alone, last, List.eraseDups_cons]
  · simp [alone, owned, last]
  · simp [alone, owned, last]

theorem Judges.highest_concat
    (judges : contest.Judges seen)
    {token : τ}
    {node : Node τ}
    (same : node.priority = contest.priority) :
    ∀ terminal ∈ seen ++ [(token, node)], terminal.2.priority ≤ contest.priority := by
  intro terminal member
  rcases List.mem_append.mp member with before | new
  · exact judges.highest terminal before
  · cases List.mem_singleton.mp new
    exact Int32.le_of_eq same

/-- A terminal with the leading token adds what it says about stopping and the ender. -/
theorem Judges.own
    (judges : contest.Judges seen)
    {node : Node τ}
    (same : node.priority = contest.priority) :
    Judges
      { contest with
        halts := contest.halts || node.immediate
        enderLength := max contest.enderLength node.enderLength }
      (seen ++ [(contest.token, node)]) := by
  have leading : contest.token ∈ (ranked contest.priority seen).map Prod.fst := by
    rw [← List.mem_eraseDups, ← judges.tokens]
    exact List.mem_cons_self
  have owners :
      owned contest.priority contest.token (seen ++ [(contest.token, node)]) =
        owned contest.priority contest.token seen ++ [(contest.token, node)] := by
    rw [owned, ranked_concat _ _ same, List.filter_append]
    simp [owned]
  refine ⟨judges.highest_concat same, ?_, ?_, ?_⟩
  · rw [ranked_concat _ _ same, List.map_append, List.map_singleton, eraseDups_concat,
      if_pos leading]
    exact judges.tokens
  · rw [owners]
    simp [judges.halts]
  · rw [owners]
    simp [judges.enderLength]

/-- A terminal with another token is a rival, unless its token is one already. -/
theorem Judges.rival
    (judges : contest.Judges seen)
    {token : τ}
    {node : Node τ}
    (same : node.priority = contest.priority)
    (different : token ≠ contest.token) :
    Judges
      (if token ∈ contest.rivals then
        contest
      else
        { contest with rivals := contest.rivals ++ [token] })
      (seen ++ [(token, node)]) := by
  have owners :
      owned contest.priority contest.token (seen ++ [(token, node)]) =
        owned contest.priority contest.token seen := by
    rw [owned, ranked_concat _ _ same, List.filter_append]
    simp [owned, different]
  have known :
      token ∈ (ranked contest.priority seen).map Prod.fst ↔ token ∈ contest.rivals := by
    rw [← List.mem_eraseDups, ← judges.tokens, List.mem_cons, or_iff_right different]
  have tokens :
      ((ranked contest.priority (seen ++ [(token, node)])).map Prod.fst).eraseDups =
        if token ∈ contest.rivals then
          contest.token :: contest.rivals
        else
          contest.token :: (contest.rivals ++ [token]) := by
    rw [ranked_concat _ _ same, List.map_append, List.map_singleton, eraseDups_concat,
      ← judges.tokens]
    simp only [known, List.cons_append]
  split
  · rename_i old
    rw [if_pos old] at tokens
    exact ⟨judges.highest_concat same, tokens.symm, by rw [owners]; exact judges.halts,
      by rw [owners]; exact judges.enderLength⟩
  · rename_i new
    rw [if_neg new] at tokens
    exact ⟨judges.highest_concat same, tokens.symm, by rw [owners]; exact judges.halts,
      by rw [owners]; exact judges.enderLength⟩

/-- Meeting one more terminal, a contest judges one more. -/
theorem Judges.meet
    (judges : contest.Judges seen)
    (token : τ)
    (node : Node τ) :
    (contest.meet token node).Judges (seen ++ [(token, node)]) := by
  unfold Contest.meet
  split
  · rename_i less
    exact judges.lower less
  · rename_i notLess
    split
    · rename_i same
      split
      · rename_i leading
        rw [leading]
        exact judges.own same
      · rename_i different
        exact judges.rival same different
    · rename_i different
      exact judges.higher
        (Int32.lt_of_le_of_ne (Int32.not_lt.mp notLess) (Ne.symm different))

/-- A sweep judges all terminals that have been met before it and in it. -/
theorem Judges.sweep
    (judges : contest.Judges seen)
    (rest : List (τ × Node τ)) :
    (contest.sweep rest).Judges (seen ++ rest) := by
  induction rest generalizing contest seen with
  | nil =>
      rw [List.append_nil]
      exact judges
  | cons terminal rest inductionHypothesis =>
      rw [List.append_cons]
      exact inductionHypothesis (judges.meet terminal.1 terminal.2)

/-- Some terminal that has been met has the priority of the contest. -/
theorem Judges.exists_leading
    (judges : contest.Judges seen) :
    ∃ terminal ∈ seen, terminal.1 = contest.token ∧ terminal.2.priority = contest.priority := by
  have leading : contest.token ∈ (ranked contest.priority seen).map Prod.fst := by
    rw [← List.mem_eraseDups, ← judges.tokens]
    exact List.mem_cons_self
  obtain ⟨terminal, member, same⟩ := List.mem_map.mp leading
  obtain ⟨old, priority⟩ := List.mem_filter.mp member
  exact ⟨terminal, old, same, by simpa using priority⟩

/-- Without rivals, all terminals of the highest priority have the leading token. -/
theorem Judges.owned_eq_ranked
    (judges : contest.Judges seen)
    (unrivalled : contest.rivals = []) :
    owned contest.priority contest.token seen = ranked contest.priority seen := by
  rw [owned, List.filter_eq_self]
  intro terminal member
  have among : terminal.1 ∈ ((ranked contest.priority seen).map Prod.fst).eraseDups :=
    List.mem_eraseDups.mpr (List.mem_map_of_mem member)
  rw [← judges.tokens, unrivalled, List.mem_singleton] at among
  rw [among]
  exact beq_self_eq_true _

end Contest

namespace Graph

variable {graph : Graph τ} {members : List Nat}

/-- Of the terminals of a list, the winners are those that a contest of all of them ranks first. -/
theorem winners_eq_ranked
    [DecidableEq τ]
    {contest : Contest τ}
    (judges : contest.Judges (graph.terminals members)) :
    graph.topPriority? members = some contest.priority ∧
      graph.winners members = Contest.ranked contest.priority (graph.terminals members) := by
  have top : graph.topPriority? members = some contest.priority := by
    unfold topPriority?
    rw [List.max?_eq_some_iff]
    constructor
    · obtain ⟨terminal, member, _, same⟩ := judges.exists_leading
      exact List.mem_map.mpr ⟨terminal, member, same⟩
    · intro priority member
      obtain ⟨terminal, terminalMember, rfl⟩ := List.mem_map.mp member
      exact judges.highest terminal terminalMember
  refine ⟨top, ?_⟩
  rw [winners, top]
  rfl

/-- The outcome of a list tells what its winners have in common, or their tokens. -/
theorem outcome_eq
    [DecidableEq τ]
    (graph : Graph τ)
    (members : List Nat) :
    graph.outcome members =
      match ((graph.winners members).map Prod.fst).eraseDups with
      | [] =>
          .ok ⟨none, false⟩
      | [token] =>
          .ok
            ⟨some ⟨token, (graph.topPriority? members).getD 0, graph.winningEnder members⟩,
              (graph.winners members).any fun terminal => terminal.2.immediate⟩
      | tokens =>
          .error ⟨tokens⟩ := by
  unfold outcome
  cases listed : graph.terminals members with
  | nil =>
      simp [winners, listed]
  | cons terminal rest =>
      obtain ⟨token, node⟩ := terminal
      have judges := (Contest.judges_alone token node).sweep rest
      rw [List.singleton_append, ← listed] at judges
      dsimp only
      generalize (Contest.alone token node).sweep rest = contest at judges ⊢
      obtain ⟨top, ranked⟩ := winners_eq_ranked judges
      rw [winningEnder, top, ranked, ← judges.tokens, Option.getD_some]
      -- What the leader alone says is what all winners say only when there are no rivals.
      cases rivals : contest.rivals with
      | nil =>
          rw [← judges.owned_eq_ranked rivals, ← judges.halts, ← judges.enderLength]
          rfl
      | cons rival others =>
          rfl

end Graph

end LexicalAutomata
