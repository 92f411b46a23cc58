import LexicalAutomata.Regex.Split
import LexicalAutomata.Stream.Scan

namespace LexicalAutomata

/-!
# Matches lie within the text

What is found at a place is a beginning of the text behind it, so a search passes over the
text piece by piece and loses nothing of it.
-/

namespace Automaton

variable {τ : Type} {automaton : Automaton τ} {searchStart : Nat}

/-- A scan finds nothing beyond the text. -/
theorem length_scanFrom_le
    {id count : Nat}
    {found : Option Found}
    {before : Option Char}
    {offset : Nat}
    {rest : List Char}
    {best : Found}
    (known : ∀ earlier ∈ found, earlier.length ≤ count)
    (scanned : automaton.scanFrom searchStart id count found before offset rest = some best) :
    best.length ≤ count + rest.length := by
  induction rest generalizing id count found before offset with
  | nil =>
      exact length_foundAt_le known (Nat.le_refl _) scanned
  | cons char rest inductionHypothesis =>
      rw [scanFrom] at scanned
      split at scanned
      · exact Nat.le_trans (length_foundAt_le known (Nat.le_refl _) scanned) (Nat.le_add_right _ _)
      · have bound := inductionHypothesis (fun earlier member =>
          Nat.le_succ_of_le (length_foundAt_le known (Nat.le_refl _) member)) scanned
        rw [List.length_cons]
        omega

/-- What is found at a place has characters, and is a part of the text behind the place. -/
theorem bounds_of_nonemptyLengthAt?
    {place : Place}
    {length : Nat}
    (found : automaton.nonemptyLengthAt? place searchStart = some length) :
    0 < length ∧ length ≤ place.rest.length := by
  obtain ⟨some, positive⟩ := Option.filter_eq_some_iff.mp found
  obtain ⟨best, scanned, rfl⟩ := Option.map_eq_some_iff.mp some
  refine ⟨by simpa using positive, ?_⟩
  have bound := length_scanFrom_le (by simp) scanned
  rwa [Nat.zero_add] at bound

/-- At the end of the text there is no match that has characters. -/
theorem nonemptyLengthAt?_nil
    (before : Option Char)
    (offset : Nat) :
    automaton.nonemptyLengthAt? ⟨before, offset, []⟩ searchStart = none := by
  rw [Option.eq_none_iff_forall_ne_some]
  intro length found
  obtain ⟨positive, bound⟩ := bounds_of_nonemptyLengthAt? found
  exact Nat.not_le_of_lt positive bound

/--
Where a match may not begin, a scan stays in the start state and finds nothing but the
empty text.
-/
theorem nonemptyLengthAt?_of_not_mayBeginAt
    {place : Place}
    (barred : automaton.mayBeginAt place = false) :
    automaton.nonemptyLengthAt? place searchStart = none := by
  obtain ⟨before, offset, rest⟩ := place
  cases rest with
  | nil =>
      exact nonemptyLengthAt?_nil before offset
  | cons char rest =>
      obtain ⟨waitsForNothing, stuck⟩ : (automaton.boundaries automaton.start).isEmpty = true ∧
          automaton.next? automaton.start char = none := by
        simpa [mayBeginAt] using barred
      have scanned :
          automaton.longestAt ⟨before, offset, char :: rest⟩ searchStart =
            automaton.foundAt automaton.start 0 none := by
        simp only [longestAt, scanFrom, settle, waitsForNothing, stuck, ↓reduceIte]
      rw [nonemptyLengthAt?, scanned]
      unfold foundAt
      cases automaton.acceptance automaton.start <;> simp

/-- A search takes the match that is there, whether or not it scans for it. -/
theorem matchLengthAt?_eq
    (automaton : Automaton τ)
    (place : Place)
    (searchStart : Nat) :
    automaton.matchLengthAt? place searchStart =
      automaton.nonemptyLengthAt? place searchStart := by
  unfold matchLengthAt?
  cases may : automaton.mayBeginAt place with
  | true =>
      rfl
  | false =>
      rw [nonemptyLengthAt?_of_not_mayBeginAt may]
      rfl

section Tile

variable {place : Place} {found : Match}

theorem tile_of_search_eq_none
    (search : automaton.search place = none) :
    automaton.tile place = ([], place.rest) := by
  rw [tile]
  split
  · rfl
  · rename_i result
    rw [search] at result
    contradiction

theorem tile_of_search_eq_some
    (search : automaton.search place = some found) :
    automaton.tile place =
      (found :: (automaton.tile found.after).1, (automaton.tile found.after).2) := by
  rw [tile]
  split <;> rename_i result <;> rw [search] at result <;> cases result
  rfl

theorem textBehind_cons
    (text : List Char)
    (found : Match)
    (others : List Match) :
    textBehind text (found :: others) = textBehind found.after.rest others := by
  rw [textBehind, textBehind, List.getLast?_cons]
  cases others.getLast? <;> rfl

end Tile

end Automaton

end LexicalAutomata
