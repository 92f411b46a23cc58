import LexicalAutomata.Proofs.Abbreviations
import LexicalAutomata.Proofs.Regex.Labels

namespace LexicalAutomata

/-!
# Escaped texts are found as they are

An escaped text is read as the sequence of its characters, so as an expression it accepts the
text and nothing else, and a search finds its first occurrence.  Where case does not matter,
each character may be replaced by its case counterpart.
-/

/-- The labels of the characters of a text. -/
def literalLabels
    (caseInsensitive : Bool)
    (text : List Char) :
    List Label :=
  text.map (Cursor.literalLabel caseInsensitive)

/-- A match is where a text occurs first. -/
structure IsFirstOccurrence
    (wanted text : List Char)
    (found : Match) : Prop where
  same : found.text = wanted
  parts : text = found.skipped ++ (wanted ++ found.after.rest)
  start : found.start = Text.byteLength found.skipped
  first (front back : List Char) :
    text = front ++ (wanted ++ back) → found.skipped.length ≤ front.length

section Labels

variable {caseInsensitive : Bool} {wanted chars : List Char}

theorem labelsFree_literalLabels
    (caseInsensitive : Bool)
    (wanted : List Char) :
    LabelsFree (literalLabels caseInsensitive wanted) := by
  intro label member
  obtain ⟨char, _, rfl⟩ := List.mem_map.mp member
  rfl

/-- The labels of a text contain the characters that stand for those of the text. -/
theorem labelsContain_literalLabels_iff :
    LabelsContain (literalLabels caseInsensitive wanted) chars ↔
      List.Forall₂ (StandsForChar caseInsensitive) wanted chars := by
  rw [LabelsContain, literalLabels, List.forall₂_map_left_iff]
  have same :
      ∀ char other : Char,
        other.toNat ∈ (Cursor.literalLabel caseInsensitive char).points ↔
          StandsForChar caseInsensitive char other := by
    intro char other
    rw [Abbreviations.mem_literalLabel_iff]
    constructor
    · rintro ⟨_, sameCode, stands⟩
      rwa [Char.toNat_inj.mp sameCode]
    · intro stands
      exact ⟨other, rfl, stands⟩
  simp only [same]

/-- Where case matters, the labels of a text contain no other characters. -/
theorem labelsContain_literalLabels_false_iff :
    LabelsContain (literalLabels false wanted) chars ↔ chars = wanted := by
  have same : StandsForChar false = fun char other => char = other := by
    funext char other
    simp [StandsForChar, eq_comm]
  rw [labelsContain_literalLabels_iff, same, List.forall₂_eq_eq_eq, eq_comm]

end Labels

namespace Regex

/-- What a regular expression finds that stands for a text alone. -/
structure FindsText
    [PropertyParser]
    (regex : Regex)
    (text : String) : Prop where
  literal :
    ∃ expression,
      Expression.parse regex.expression regex.options = .ok expression ∧
        expression.isLiteral = true
  minLength : regex.automaton.minLength = text.toList.length
  maxLength : regex.automaton.maxLength = some text.toList.length
  isMatch (subject : String) : regex.isMatch subject = true ↔ subject = text
  unfound (subject : String) :
    regex.search? subject = none ↔ ¬text.toList <:+: subject.toList
  found (subject : String) (found : Match) :
    regex.search? subject = some found →
      IsFirstOccurrence text.toList subject.toList found

theorem parse_escape_eq_labelBranch
    [PropertyParser]
    {text : String}
    (nonempty : text ≠ "")
    (caseInsensitive : Bool) :
    Expression.parse (escape text) { caseInsensitive } =
      .ok [labelBranch (literalLabels caseInsensitive text.toList)] := by
  rw [Expression.parse_escape nonempty, labelBranch, literalLabels, List.map_map]
  rfl

/-- An escaped text is compiled, whether case matters or not. -/
theorem exists_compile_escape
    [PropertyParser]
    {text : String}
    (nonempty : text ≠ "")
    (caseInsensitive : Bool) :
    ∃ automaton,
      Regex.compile (escape text) { caseInsensitive } =
          .ok ⟨escape text, { caseInsensitive }, automaton⟩ ∧
        ReadsLabels ⟨escape text, { caseInsensitive }, automaton⟩
          (literalLabels caseInsensitive text.toList) := by
  have contain : LabelsContain (literalLabels caseInsensitive text.toList) text.toList :=
    labelsContain_literalLabels_iff.mpr (List.forall₂_same.mpr fun _ _ => Or.inl rfl)
  exact exists_readsLabels (parse_escape_eq_labelBranch nonempty _) rfl rfl
    (labelsFree_literalLabels _ _) contain

section Search

variable {regex : Regex} {wanted : List Char}

/-- A text is found where it comes next. -/
theorem ReadsLabels.nonemptyLengthAt?_literal_iff
    (reads : regex.ReadsLabels (literalLabels false wanted))
    (present : wanted ≠ [])
    {place : Place}
    {searchStart length : Nat} :
    regex.automaton.nonemptyLengthAt? place searchStart = some length ↔
      wanted <+: place.rest ∧ length = wanted.length := by
  have same : (literalLabels false wanted).length = wanted.length :=
    List.length_map _
  rw [reads.nonemptyLengthAt?_eq_some_iff (mt List.map_eq_nil_iff.mp present),
    labelsContain_literalLabels_false_iff, same, List.prefix_iff_eq_take, @eq_comm _ wanted]

/-- Where a text occurs there is a match. -/
theorem ReadsLabels.nonemptyLengthAt?_ne_none
    (reads : regex.ReadsLabels (literalLabels false wanted))
    (present : wanted ≠ [])
    {text front back : List Char}
    (split : text = front ++ (wanted ++ back))
    {searchStart : Nat} :
    regex.automaton.nonemptyLengthAt? ((Place.start text).advance front.length) searchStart ≠
      none := by
  have occurs : wanted <+: ((Place.start text).advance front.length).rest := by
    rw [Place.rest_advance, Place.start, split, List.drop_left]
    exact List.prefix_append _ _
  rw [(reads.nonemptyLengthAt?_literal_iff present).mpr ⟨occurs, rfl⟩]
  exact Option.some_ne_none _

theorem search?_eq
    (regex : Regex)
    (subject : String) :
    regex.search? subject = regex.automaton.search (.start subject.toList) := by
  have found : Place.atOrAfter? subject.toList 0 = some (.start subject.toList) :=
    (Place.liesIn_start subject.toList).atOrAfter?_offset
  rw [search?, searchAt?, found, Option.bind_some]

/-- A search finds where a text occurs first. -/
theorem ReadsLabels.isFirstOccurrence
    (reads : regex.ReadsLabels (literalLabels false wanted))
    (present : wanted ≠ [])
    {subject : String}
    {found : Match}
    (search : regex.search? subject = some found) :
    IsFirstOccurrence wanted subject.toList found := by
  rw [search?_eq] at search
  obtain ⟨starts, parts⟩ := Automaton.parts_of_search search
  obtain ⟨count, bound, _, skips, matched, passed⟩ := Automaton.searchFrom_eq_some search
  obtain ⟨isNext, length⟩ := (reads.nonemptyLengthAt?_literal_iff present).mp matched
  have same : found.text = wanted := by
    rw [Match.text, length]
    exact (List.prefix_iff_eq_take.mp isNext).symm
  refine ⟨same, ?_, starts.trans (Nat.zero_add _), ?_⟩
  · rw [← same, ← List.append_assoc]
    exact parts
  · intro front back split
    rw [skips, List.length_take_of_le bound]
    exact Nat.le_of_not_lt fun less =>
      reads.nonemptyLengthAt?_ne_none present split (passed _ less)

/-- A search finds nothing just when a text does not occur. -/
theorem ReadsLabels.search?_eq_none_iff
    (reads : regex.ReadsLabels (literalLabels false wanted))
    (present : wanted ≠ [])
    (subject : String) :
    regex.search? subject = none ↔ ¬wanted <:+: subject.toList := by
  constructor
  · rintro search ⟨front, back, split⟩
    rw [search?_eq] at search
    rw [List.append_assoc] at split
    exact reads.nonemptyLengthAt?_ne_none present split.symm
      (Automaton.searchFrom_eq_none search front.length)
  · intro absent
    rw [Option.eq_none_iff_forall_ne_some]
    intro found search
    have isFirst := reads.isFirstOccurrence present search
    refine absent ⟨found.skipped, found.after.rest, ?_⟩
    rw [List.append_assoc, ← isFirst.parts]

end Search

/--
An escaped text is compiled.  It is found where the text occurs first, and accepts nothing else.
Where case does not matter, it accepts what has the characters of the text or their case
counterparts.
-/
theorem compile_escape
    [PropertyParser]
    {text : String}
    (nonempty : text ≠ "") :
    (∃ regex, Regex.compile (escape text) = .ok regex ∧ regex.FindsText text) ∧
      ∃ regex,
        Regex.compile (escape text) { caseInsensitive := true } = .ok regex ∧
          ∀ subject : String,
            regex.isMatch subject = true ↔
              List.Forall₂
                (fun char other => other = char ∨ Unicode.caseCounterpart? char = some other)
                text.toList subject.toList := by
  have present : text.toList ≠ [] := by
    simpa using nonempty
  constructor
  · obtain ⟨automaton, compiled, reads⟩ := exists_compile_escape nonempty false
    have count : (literalLabels false text.toList).length = text.toList.length :=
      List.length_map _
    refine ⟨_, compiled, ?_⟩
    exact
      { literal :=
          ⟨_, parse_escape_eq_labelBranch nonempty false, isLiteral_labelBranch _⟩
        minLength := reads.minLength.trans count
        maxLength := reads.maxLength.trans (congrArg some count)
        isMatch := fun subject => by
          rw [reads.isMatch_iff, labelsContain_literalLabels_false_iff, String.toList_inj]
        unfound := reads.search?_eq_none_iff present
        found := fun _ _ => reads.isFirstOccurrence present }
  · obtain ⟨automaton, compiled, reads⟩ := exists_compile_escape nonempty true
    refine ⟨_, compiled, fun subject => ?_⟩
    have stands :
        StandsForChar true = fun char other =>
          other = char ∨ Unicode.caseCounterpart? char = some other := by
      funext char other
      simp [StandsForChar]
    rw [reads.isMatch_iff, labelsContain_literalLabels_iff, stands]

theorem compile_escape_punctuated :
    ∃ regex,
      Regex.compile (escape "a.b") = .ok regex ∧
        regex.isMatch "a.b" = true ∧ regex.isMatch "axb" = false := by
  obtain ⟨⟨regex, compiled, finds⟩, _⟩ := compile_escape (by decide : "a.b" ≠ "")
  refine ⟨regex, compiled, (finds.isMatch "a.b").mpr rfl, ?_⟩
  rw [Bool.eq_false_iff, ne_eq, finds.isMatch]
  decide

end Regex

end LexicalAutomata
