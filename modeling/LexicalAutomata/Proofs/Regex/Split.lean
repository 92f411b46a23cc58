import LexicalAutomata.Proofs.Regex.Search
import LexicalAutomata.Proofs.Text.Boundary
import Mathlib.Data.List.DropRight

namespace LexicalAutomata

/-!
# Splitting and replacing account for the whole text

The fields of a text lie in front of, between and behind its matches, so fields and matches by
turns are the text again, and replacing the matches changes nothing but them.  A limit on the
number of fields leaves the first fields as they are and what is behind them in one piece, and
without a limit at most empty fields at the end are missing.
-/

/-- Fields with separators between them. -/
def interleave :
    List (List Char) →
    List (List Char) →
    List Char
  | fields, [] =>
      fields.flatten
  | [], separators =>
      separators.flatten
  | field :: fields, separator :: separators =>
      field ++ separator ++ interleave fields separators

section Interleave

variable {α : Type} (ahead between : α → List Char) (last : List Char) (items : List α)

/-- Pairs of a field and its separator come one behind the other in front of the last field. -/
theorem interleave_map :
    interleave (items.map ahead ++ [last]) (items.map between) =
      items.flatMap (fun item => ahead item ++ between item) ++ last := by
  induction items with
  | nil =>
      simp [interleave]
  | cons item items inductionHypothesis =>
      rw [List.map_cons, List.map_cons, List.cons_append, interleave, inductionHypothesis,
        List.flatMap_cons, List.append_assoc, List.append_assoc, List.append_assoc]

end Interleave

/-- What is dropped are all the empty texts at the end. -/
theorem dropTrailingEmpty_spec
    (fields : List (List Char)) :
    (∃ count, fields = dropTrailingEmpty fields ++ List.replicate count []) ∧
      ∀ last ∈ (dropTrailingEmpty fields).getLast?, last ≠ [] := by
  have same : dropTrailingEmpty fields = fields.rdropWhile List.isEmpty :=
    rfl
  rw [same]
  constructor
  · refine ⟨(fields.rtakeWhile List.isEmpty).length, ?_⟩
    have allEmpty :
        fields.rtakeWhile List.isEmpty =
          List.replicate (fields.rtakeWhile List.isEmpty).length [] :=
      List.eq_replicate_of_mem fun field member =>
        List.isEmpty_iff.mp (List.mem_rtakeWhile_imp member)
    rw [← allEmpty, List.rdropWhile_append_rtakeWhile]
  · intro last member isEmpty
    obtain ⟨nonempty, rfl⟩ := List.mem_getLast?_eq_getLast member
    exact List.rdropWhile_last_not _ _ nonempty (List.isEmpty_iff.mpr isEmpty)

namespace Automaton

variable {τ : Type} {automaton : Automaton τ} {origin : Place}

/-- Some of the matches and what lies in front of each are the text up to where the last stops. -/
theorem Tiling.covered
    {front back : List Match}
    (tiling : automaton.Tiling origin (front ++ back)) :
    (placeBehind origin front).offset =
        origin.offset + Text.byteLength (front.flatMap Match.covered) ∧
      origin.rest = front.flatMap Match.covered ++ textBehind origin.rest front := by
  induction front generalizing origin with
  | nil =>
      exact ⟨rfl, rfl⟩
  | cons found front inductionHypothesis =>
      cases tiling with
      | next search tiling =>
          obtain ⟨starts, parts⟩ := parts_of_search search
          obtain ⟨stops, further⟩ := inductionHypothesis tiling
          constructor
          · rw [placeBehind_cons, stops, Match.offset_after, Match.stop, starts,
              List.flatMap_cons, Match.covered]
            simp only [Text.byteLength_append]
            omega
          · rw [textBehind_cons, List.flatMap_cons, List.append_assoc, ← further]
            exact parts

/-- What is left behind all matches is what a tiling keeps of the text. -/
theorem tile_rest
    (automaton : Automaton τ)
    (origin : Place) :
    (automaton.tile origin).2 = textBehind origin.rest (automaton.tile origin).1 := by
  induction origin using tile.induct automaton with
  | case1 origin search =>
      rw [tile_of_search_eq_none search]
      rfl
  | case2 origin found search _ _ _ inductionHypothesis =>
      rw [tile_of_search_eq_some search, textBehind_cons]
      exact inductionHypothesis

end Automaton

namespace Regex

/--
What splitting and replacing are to give for a text, where the matches are those that are found
one behind the other.
-/
structure AccountsFor
    (regex : Regex)
    (text : String) : Prop where
  unlimited (limit : Int) :
    limit < 0 →
      (regex.split text limit).length = (regex.findAll text).length + 1 ∧
        interleave ((regex.split text limit).map String.toList)
            ((regex.findAll text).map Match.text) =
          text.toList
  placed (limit : Int) (front back : List Match) (found : Match) :
    limit < 0 →
      front ++ found :: back = regex.findAll text →
        Text.byteLength
            (interleave (((regex.split text limit).take (front.length + 1)).map String.toList)
              (front.map Match.text)) =
          found.start
  replaced (replacement : String) :
    (regex.replace text replacement).toList =
      interleave ((regex.split text (-1)).map String.toList)
        ((regex.findAll text).map fun _ => replacement.toList)
  unmatched (limit : Int) :
    regex.findAll text = [] → regex.split text limit = [text]
  fewer (limit : Int) :
    ((regex.findAll text).length : Int) < limit →
      regex.split text limit = regex.split text (-1)
  limited (limit : Int) :
    0 < limit →
      limit ≤ (regex.findAll text).length →
        ∃ front back : String,
          front ++ back = text ∧
            front.utf8ByteSize = stopBehind ((regex.findAll text).take (limit.toNat - 1)) ∧
              regex.split text limit =
                (regex.split text (-1)).take (limit.toNat - 1) ++ [back]
  whole : regex.split text 1 = [text]
  trimmed :
    regex.findAll text ≠ [] →
      (∃ count, regex.split text (-1) = regex.split text 0 ++ List.replicate count "") ∧
        ∀ last ∈ (regex.split text 0).getLast?, last ≠ ""

section SplitChars

variable (regex : Regex) (text : List Char)

/-- The first matches of a text and what lies in front of each are the text up to where they end. -/
theorem covered_take
    (count : Nat) :
    let front := (regex.tile text).1.take count
    stopBehind front = Text.byteLength (front.flatMap Match.covered) ∧
      text = front.flatMap Match.covered ++ textBehind text front := by
  intro front
  have parts : front ++ (regex.tile text).1.drop count = (regex.tile text).1 :=
    List.take_append_drop count _
  have tiling := regex.automaton.tiling_tile (.start text)
  rw [← tile, ← parts] at tiling
  obtain ⟨stops, covers⟩ := tiling.covered
  rw [offset_placeBehind] at stops
  exact ⟨by rw [stops]; exact Nat.zero_add _, covers⟩

theorem splitChars_of_neg
    {limit : Int}
    (negative : limit < 0) :
    regex.splitChars text limit =
      (regex.tile text).1.map Match.skipped ++ [textBehind text (regex.tile text).1] := by
  have unbounded : separators (regex.tile text).1 limit = (regex.tile text).1 := by
    rw [separators, separatorLimit, if_neg (Int.not_lt.mpr (Int.le_of_lt negative))]
  rw [splitChars, unbounded, limitFields, if_neg fun both => Int.ne_of_lt negative both.1]

/-- Under a bound on the fields, as many matches separate them as it leaves room for. -/
theorem splitChars_of_pos
    {limit : Int}
    (positive : 0 < limit) :
    let front := (regex.tile text).1.take (limit.toNat - 1)
    regex.splitChars text limit = front.map Match.skipped ++ [textBehind text front] := by
  have bounded :
      separators (regex.tile text).1 limit = (regex.tile text).1.take (limit.toNat - 1) := by
    rw [separators, separatorLimit, if_pos positive]
  intro front
  rw [splitChars, bounded, limitFields, if_neg fun both => Int.ne_of_gt positive both.1]

/-- The limit zero only drops empty fields, and none where nothing separates fields. -/
theorem splitChars_zero
    (matched : (regex.tile text).1 ≠ []) :
    regex.splitChars text 0 = dropTrailingEmpty (regex.splitChars text (-1)) := by
  have separated : (regex.tile text).1.map Match.skipped ≠ [] :=
    mt List.map_eq_nil_iff.mp matched
  rw [regex.splitChars_of_neg text (by decide : (-1 : Int) < 0)]
  exact if_pos ⟨rfl, separated⟩

/-- Without a match there is one field under every limit. -/
theorem splitChars_of_unmatched
    (unmatched : (regex.tile text).1 = [])
    (limit : Int) :
    regex.splitChars text limit = [text] := by
  have unused : separators [] limit = [] := by
    rw [separators]
    cases separatorLimit limit <;> simp
  rw [splitChars, unmatched, unused, limitFields, if_neg fun both => both.2 rfl]
  rfl

end SplitChars

variable (regex : Regex) (text : String)

theorem toList_split
    (limit : Int) :
    (regex.split text limit).map String.toList = regex.splitChars text.toList limit := by
  simp [split]

/-- The first fields and matches by turns are the text up to the next match. -/
theorem placed_of_neg
    {limit : Int}
    (negative : limit < 0)
    {front back : List Match}
    {found : Match}
    (parts : front ++ found :: back = regex.findAll text) :
    Text.byteLength
        (interleave (((regex.split text limit).take (front.length + 1)).map String.toList)
          (front.map Match.text)) =
      found.start := by
  obtain ⟨origin, _, sameOffset, search, _⟩ := regex.isNext_findAll text parts
  obtain ⟨starts, _⟩ := Automaton.parts_of_search search
  have behind : stopBehind front = Text.byteLength (front.flatMap Match.covered) := by
    have covers := (regex.covered_take text.toList front.length).1
    rwa [← findAll.eq_def, ← parts, List.take_left'  rfl] at covers
  have firstFields :
      ((regex.split text limit).take (front.length + 1)).map String.toList =
        front.map Match.skipped ++ [found.skipped] := by
    rw [List.map_take, toList_split, splitChars_of_neg regex _ negative, ← findAll.eq_def, ← parts]
    simp [List.take_append, List.take_of_length_le]
  rw [firstFields, interleave_map Match.skipped Match.text, starts, sameOffset, behind]
  exact Text.byteLength_append _ _

/-- A limit that is not reached leaves all matches as separators. -/
theorem split_eq_of_fewer
    {limit : Int}
    (fewer : ((regex.findAll text).length : Int) < limit) :
    regex.split text limit = regex.split text (-1) := by
  have positive : 0 < limit :=
    Int.lt_of_le_of_lt (Int.natCast_nonneg _) fewer
  have all : (regex.tile text.toList).1.take (limit.toNat - 1) = (regex.tile text.toList).1 := by
    apply List.take_of_length_le
    rw [findAll] at fewer
    omega
  rw [split, split, splitChars_of_pos regex _ positive, all,
    splitChars_of_neg regex _ (by decide : (-1 : Int) < 0)]

/-- A limit that is reached leaves the rest of the text in one field. -/
theorem exists_rest_of_limited
    {limit : Int}
    (positive : 0 < limit)
    (reached : limit ≤ (regex.findAll text).length) :
    ∃ front back : String,
      front ++ back = text ∧
        front.utf8ByteSize = stopBehind ((regex.findAll text).take (limit.toNat - 1)) ∧
          regex.split text limit =
            (regex.split text (-1)).take (limit.toNat - 1) ++ [back] := by
  obtain ⟨stops, covers⟩ := regex.covered_take text.toList (limit.toNat - 1)
  refine ⟨.ofList (((regex.findAll text).take (limit.toNat - 1)).flatMap Match.covered),
    .ofList (textBehind text.toList ((regex.findAll text).take (limit.toNat - 1))), ?_, ?_, ?_⟩
  · rw [← String.ofList_append]
    exact (congrArg String.ofList covers.symm).trans String.ofList_toList
  · exact (Text.utf8ByteSize_ofList _).trans stops.symm
  · have bound : limit.toNat - 1 ≤ (regex.tile text.toList).1.length := by
      rw [findAll] at reached
      omega
    rw [split, split, splitChars_of_pos regex _ positive,
      splitChars_of_neg regex _ (by decide : (-1 : Int) < 0), ← List.map_take,
      List.take_append_of_le_length (by simpa using bound), List.map_take, List.map_append]
    rfl

/-- Splitting and replacing account for every part of a text. -/
theorem split_accountsFor :
    regex.AccountsFor text where
  unlimited limit negative := by
    have fields := regex.splitChars_of_neg text.toList negative
    obtain ⟨_, covers⟩ := regex.covered_take text.toList (regex.tile text.toList).1.length
    rw [List.take_length] at covers
    constructor
    · rw [split, List.length_map, fields]
      simp [findAll]
    · rw [toList_split, fields, findAll, interleave_map Match.skipped Match.text]
      exact covers.symm
  placed limit front back found negative parts := regex.placed_of_neg text negative parts
  replaced replacement := by
    rw [toList_split, splitChars_of_neg regex _ (by decide : (-1 : Int) < 0), findAll,
      interleave_map Match.skipped]
    exact String.toList_ofList.trans
      (congrArg _ (regex.automaton.tile_rest (.start text.toList)))
  unmatched limit none := by
    rw [split, splitChars_of_unmatched regex _ none, List.map_singleton, String.ofList_toList]
  fewer limit fewer := regex.split_eq_of_fewer text fewer
  limited limit positive reached := regex.exists_rest_of_limited text positive reached
  whole := by
    rw [split, splitChars_of_pos regex _ (by decide : (0 : Int) < 1)]
    simp [textBehind]
  trimmed matched := by
    obtain ⟨⟨count, dropped⟩, nonempty⟩ :=
      dropTrailingEmpty_spec (regex.splitChars text.toList (-1))
    rw [← splitChars_zero regex _ matched] at dropped nonempty
    constructor
    · refine ⟨count, ?_⟩
      rw [split, dropped, List.map_append, List.map_replicate]
      rfl
    · intro last member isEmpty
      rw [split, List.getLast?_map] at member
      obtain ⟨chars, isLast, rfl⟩ := Option.map_eq_some_iff.mp member
      exact nonempty chars isLast (String.ofList_eq_empty_iff.mp isEmpty)

end Regex

end LexicalAutomata
