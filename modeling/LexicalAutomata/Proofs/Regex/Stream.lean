import LexicalAutomata.Proofs.Regex.Seek
import LexicalAutomata.Proofs.Result
import LexicalAutomata.Proofs.Stream.Sink
import LexicalAutomata.Unicode.Property

namespace LexicalAutomata

/-!
# Operations on a stream do what they do on its text

Matches, replaced text and fields are the same whether they come from a text or from a
source that delivers its bytes, however the source cuts them into chunks.
-/

namespace Skip

theorem passes_drop
    (chars : List Char) :
    Skip.drop.Passes () chars () := by
  induction chars with
  | nil =>
      exact .nil
  | cons char rest inductionHypothesis =>
      exact .cons rfl inductionHypothesis

/-- Skipped characters are collected behind those that have been collected before. -/
theorem passes_collect
    (field : Array Char)
    (chars : List Char) :
    Skip.collect.Passes field chars (field ++ chars.toArray) := by
  induction chars generalizing field with
  | nil =>
      simpa using Passes.nil
  | cons char rest inductionHypothesis =>
      have collects : Skip.collect field char = (.ok (), field.push char) :=
        rfl
      simpa using Passes.cons collects (inductionHypothesis (field.push char))

/-- Skipped characters are written if there is room for them. -/
theorem passes_write
    {sink : Sink}
    {chars : List Char}
    (room : sink.HasRoom (Utf8.encode chars).length) :
    Skip.write.Passes sink chars (sink.append (Utf8.encode chars)) := by
  induction chars generalizing sink with
  | nil =>
      rw [show Utf8.encode [] = [] from rfl, Sink.append_nil]
      exact .nil
  | cons char rest inductionHypothesis =>
      rw [show char :: rest = [char] ++ rest from rfl, Utf8.encode_append] at room ⊢
      rw [← Sink.append_append]
      exact .cons room.left.write_eq (inductionHypothesis room.right)

end Skip

namespace Automaton

variable {τ : Type} {automaton : Automaton τ} {reader : Reader} {text : List Char} {place : Place}

/-- The text behind a place with a replacement for every match. -/
def replaced
    (automaton : Automaton τ)
    (replacement : List Char)
    (place : Place) :
    List Char :=
  (automaton.tile place).1.flatMap (fun found => found.skipped ++ replacement) ++
    (automaton.tile place).2

theorem replaced_of_search_eq_none
    (search : automaton.search place = none)
    (replacement : List Char) :
    automaton.replaced replacement place = place.rest := by
  rw [replaced, tile_of_search_eq_none search]
  rfl

theorem replaced_of_search_eq_some
    {found : Match}
    (search : automaton.search place = some found)
    (replacement : List Char) :
    automaton.replaced replacement place =
      found.skipped ++ (replacement ++ automaton.replaced replacement found.after) := by
  rw [replaced, tile_of_search_eq_some search]
  simp [replaced]

/-- The copy of a stream has a replacement for every match of its text. -/
theorem replaceIn_of_isAt
    (isAt : reader.IsAt text place)
    (replacement : List Char)
    {sink : Sink}
    (room : sink.HasRoom (Utf8.encode (automaton.replaced replacement place)).length) :
    ∃ next,
      automaton.replaceIn replacement sink reader =
        (.ok (), sink.append (Utf8.encode (automaton.replaced replacement place)), next) := by
  induction place using tile.induct automaton generalizing reader sink with
  | case1 place search =>
      rw [replaced_of_search_eq_none search] at room ⊢
      obtain ⟨next, _, sought, _⟩ :=
        searchIn_of_search_eq_none isAt search (Skip.passes_write room)
      refine ⟨next, ?_⟩
      rw [replaceIn]
      split <;> rename_i result <;> rw [sought] at result <;> cases result
      rfl
  | case2 place found search _ _ _ inductionHypothesis =>
      rw [replaced_of_search_eq_some search, Utf8.encode_append, Utf8.encode_append] at room ⊢
      obtain ⟨next, sought, nextAt⟩ :=
        searchIn_of_search_eq_some isAt search (Skip.passes_write room.left)
      obtain ⟨last, replaces⟩ := inductionHypothesis nextAt room.right.right
      refine ⟨last, ?_⟩
      rw [replaceIn]
      split <;> rename_i result <;> rw [sought] at result <;> cases result
      rw [Sink.writeText, room.right.left.write_eq]
      dsimp only
      rw [replaces, Sink.append_append, Sink.append_append]

/-- The matches that still separate fields when some fields are there already. -/
def separatorsFrom
    (bound : Option Nat)
    (present : Nat)
    (occurrences : List Match) :
    List Match :=
  match bound with
  | none =>
      occurrences
  | some most =>
      occurrences.take (most - present)

theorem separatorsFrom_nil
    (bound : Option Nat)
    (present : Nat) :
    separatorsFrom bound present [] = [] := by
  cases bound <;> simp [separatorsFrom]

theorem separatorsFrom_full
    (present : Nat)
    (occurrences : List Match) :
    separatorsFrom (some present) present occurrences = [] := by
  simp [separatorsFrom]

/-- Unless there are enough fields, one more match separates them. -/
theorem separatorsFrom_cons
    {bound : Option Nat}
    {present : Nat}
    (within : ∀ most ∈ bound, present < most)
    (found : Match)
    (others : List Match) :
    separatorsFrom bound present (found :: others) =
      found :: separatorsFrom bound (present + 1) others := by
  cases bound with
  | none =>
      rfl
  | some most =>
      have less := within most rfl
      have oneMore : most - present = most - (present + 1) + 1 := by
        omega
      rw [separatorsFrom, separatorsFrom, oneMore, List.take_succ_cons]

/-- The fields of a stream lie in front of the matches of its text. -/
theorem fieldsIn_of_isAt
    (isAt : reader.IsAt text place)
    (bound : Option Nat)
    (fields : Array (List Char))
    (within : ∀ most ∈ bound, fields.size ≤ most) :
    ∃ field next behind,
      automaton.fieldsIn bound fields reader =
          (.ok (fields ++
            ((separatorsFrom bound fields.size (automaton.tile place).1).map
              Match.skipped).toArray, field), next) ∧
        next.IsAt text behind ∧
          field.toList ++ behind.rest =
            textBehind place.rest (separatorsFrom bound fields.size (automaton.tile place).1) := by
  induction place using tile.induct automaton generalizing reader fields with
  | case1 place search =>
      rw [tile_of_search_eq_none search, separatorsFrom_nil]
      by_cases full : bound = some fields.size
      · refine ⟨#[], reader, place, ?_, isAt, rfl⟩
        rw [fieldsIn, if_pos full]
        simp
      · obtain ⟨next, behind, sought, nextAt, ended⟩ :=
          searchIn_of_search_eq_none isAt search (Skip.passes_collect #[] place.rest)
        refine ⟨#[] ++ place.rest.toArray, next, behind, ?_, nextAt, by simp [ended, textBehind]⟩
        rw [fieldsIn, if_neg full]
        split <;> rename_i result <;> rw [sought] at result <;> cases result
        simp
  | case2 place found search _ _ _ inductionHypothesis =>
      by_cases full : bound = some fields.size
      · subst full
        rw [separatorsFrom_full]
        refine ⟨#[], reader, place, ?_, isAt, rfl⟩
        rw [fieldsIn, if_pos rfl]
        simp
      · obtain ⟨next, sought, nextAt⟩ :=
          searchIn_of_search_eq_some isAt search (Skip.passes_collect #[] found.skipped)
        have room : ∀ most ∈ bound, fields.size < most := by
          intro most member
          apply Nat.lt_of_le_of_ne (within most member)
          rintro rfl
          exact full member
        have stillWithin : ∀ most ∈ bound, (fields.push found.skipped).size ≤ most := by
          intro most member
          rw [Array.size_push]
          exact room most member
        obtain ⟨field, last, behind, further, lastAt, whole⟩ :=
          inductionHypothesis nextAt (fields.push found.skipped) stillWithin
        rw [tile_of_search_eq_some search, separatorsFrom_cons room, textBehind_cons]
        rw [Array.size_push] at further whole
        refine ⟨field, last, behind, ?_, lastAt, whole⟩
        rw [fieldsIn, if_neg full]
        split <;> rename_i result <;> rw [sought] at result <;> cases result
        have collected : (#[] ++ found.skipped.toArray).toList = found.skipped := by
          simp
        rw [collected, further]
        simp

end Automaton

namespace Regex

variable {regex : Regex} {reader : Reader} {text : List Char}

/--
Searches of a reader of a text find some matches, one after the other, and then nothing.
Behind a match the reader has read the characters up to its end, and has the rest of the
text before it.
-/
inductive FindsIn
    (regex : Regex)
    (text : List Char) :
    Reader → List Match → Prop
  | ended {reader next : Reader} :
      regex.searchIn reader = (.ok none, next) →
      (next.readOnto #[]).1 = .ok [] →
      FindsIn regex text reader []
  | found {reader next : Reader} {found : Match} {others : List Match} :
      regex.searchIn reader = (.ok (some found.text), next) →
      next.position ≤ text.length →
      Text.byteLength (text.take next.position) = found.stop →
      (next.readOnto #[]).1 = .ok (text.drop next.position) →
      FindsIn regex text next others →
      FindsIn regex text reader (found :: others)

theorem findsIn_of_isAt
    {place : Place}
    (isAt : reader.IsAt text place) :
    regex.FindsIn text reader (regex.automaton.tile place).1 := by
  induction place using Automaton.tile.induct regex.automaton generalizing reader with
  | case1 place search =>
      rw [Automaton.tile_of_search_eq_none search]
      obtain ⟨next, behind, sought, nextAt, ended⟩ :=
        Automaton.searchIn_of_search_eq_none isAt search (Skip.passes_drop place.rest)
      refine .ended ?_ (nextAt.readOnto_eq.trans (congrArg Except.ok ended))
      rw [searchIn, sought]
  | case2 place found search _ _ _ inductionHypothesis =>
      rw [Automaton.tile_of_search_eq_some search]
      obtain ⟨next, sought, nextAt⟩ :=
        Automaton.searchIn_of_search_eq_some isAt search (Skip.passes_drop found.skipped)
      have stops : Text.byteLength (text.take next.position) = found.stop := by
        rw [← nextAt.follows.offset_eq, Match.after, Place.offset_advance]
        rfl
      refine .found ?_ nextAt.follows.le_length stops ?_ (inductionHypothesis nextAt)
      · rw [searchIn, sought]
      · rw [nextAt.readOnto_eq, nextAt.follows.rest_eq]

/-- Searching, replacing and splitting give for a source what they give for its text. -/
theorem stream_eq_text
    (regex : Regex)
    (text : String)
    {source : Source}
    (delivers : source.Delivers (Utf8.encode text.toList)) :
    regex.FindsIn text.toList (.ofSource source) (regex.findAll text) ∧
      (∀ (replacement : String) (sink : Sink),
        let bytes := Utf8.encode (regex.replace text replacement).toList
        sink.HasRoom bytes.length →
          (∃ next,
            regex.replaceIn replacement sink (.ofSource source) =
              (.ok (), sink.append bytes, next)) ∧
            regex.replaceSource replacement sink source = (.ok (), sink.append bytes)) ∧
        ∀ limit : Int,
          ∃ fields next,
            regex.splitIn limit (.ofSource source) = (.ok fields, next) ∧
              fields.map String.ofList = regex.split text limit ∧
                (next.readOnto #[]).1 = .ok [] := by
  have isAt := Reader.isAt_ofSource delivers
  refine ⟨findsIn_of_isAt isAt, ?_, ?_⟩
  · intro replacement sink bytes room
    have same :
        bytes =
          Utf8.encode (regex.automaton.replaced replacement.toList (.start text.toList)) :=
      congrArg Utf8.encode String.toList_ofList
    rw [same] at room ⊢
    obtain ⟨next, replaces⟩ := Automaton.replaceIn_of_isAt isAt replacement.toList room
    refine ⟨⟨next, replaces⟩, ?_⟩
    rw [replaceSource, replaceIn, replaces]
  · intro limit
    obtain ⟨field, next, behind, separated, nextAt, whole⟩ :=
      Automaton.fieldsIn_of_isAt isAt (separatorLimit limit) #[] fun _ _ => Nat.zero_le _
    obtain ⟨last, place, readOn, lastAt, ended⟩ := nextAt.readOnto field
    refine ⟨regex.splitChars text.toList limit, last, ?_, rfl,
      lastAt.readOnto_eq.trans (congrArg Except.ok ended)⟩
    rw [splitIn, separated]
    dsimp only
    rw [readOn, whole, Array.empty_append]
    rfl

/-- A text with characters of several bytes. -/
def accentedText : String :=
  "abab é€é"

theorem stream_eq_text_accentedText :
    let source := (Source.ofBytes 1 (Utf8.encode accentedText.toList)).interrupting
    ∃ regex,
      Regex.compile "\\Gab|\\bé+" = .ok regex ∧
        regex.FindsIn accentedText.toList (.ofSource source) (regex.findAll accentedText) ∧
          (regex.findAll accentedText).map Match.text = [['a', 'b'], ['a', 'b'], ['é'], ['é']] ∧
            regex.replaceSource "-" (.withLimit none) source =
              (.ok (), (Sink.withLimit none).append (Utf8.encode "-- -€-".toList)) := by
  intro source
  have evaluated :
      ((Regex.compile "\\Gab|\\bé+").toOption.map fun regex =>
          ((regex.findAll accentedText).map Match.text, regex.replace accentedText "-")) =
        some ([['a', 'b'], ['a', 'b'], ['é'], ['é']], "-- -€-") := by
    decide +kernel
  obtain ⟨regex, isRegex, results⟩ := Option.map_eq_some_iff.mp evaluated
  obtain ⟨texts, replaced⟩ := Prod.mk.inj results
  have delivers := (Source.delivers_ofBytes 0 (Utf8.encode accentedText.toList)).interrupting
  obtain ⟨finds, replaces, _⟩ := stream_eq_text regex accentedText delivers
  refine ⟨regex, ok_of_toOption isRegex, finds, texts, ?_⟩
  rw [← replaced]
  exact (replaces "-" (.withLimit none) (Sink.hasRoom_of_limit_eq_none rfl _)).2

end Regex

end LexicalAutomata
