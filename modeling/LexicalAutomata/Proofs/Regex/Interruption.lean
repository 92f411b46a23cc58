import LexicalAutomata.Proofs.Regex.Stream
import LexicalAutomata.Proofs.Stream.Failing

namespace LexicalAutomata

/-!
# Copies that are cut short

A copy of a stream stops when the source fails or when the sink takes no more bytes.  Nothing
is written before it is certain: of the characters in front of a match, each is written when
the match cannot begin there, and the replacement when the match has been read.  So what has
been written is always a beginning of the whole copy.
-/

variable {σ τ : Type}

namespace Skip

/-- Skip characters one after the other, up to the first fault. -/
def through
    (skip : Skip σ)
    (state : σ) :
    List Char →
    Except StreamFault Unit × σ
  | [] =>
      (.ok (), state)
  | char :: rest =>
      match skip state char with
      | (.error fault, next) =>
          (.error fault, next)
      | (.ok (), next) =>
          skip.through next rest

theorem through_cons_of_ok
    {skip : Skip σ}
    {state middle : σ}
    {char : Char}
    (skips : skip state char = (.ok (), middle))
    (rest : List Char) :
    skip.through state (char :: rest) = skip.through middle rest := by
  rw [through, skips]

/-- Characters that are written one by one are written like a text. -/
theorem through_write
    (sink : Sink)
    (chars : List Char) :
    Skip.write.through sink chars = sink.writeText chars := by
  induction chars generalizing sink with
  | nil =>
      exact sink.write_nil.symm
  | cons char rest inductionHypothesis =>
      have split : Utf8.encode (char :: rest) = Utf8.encode [char] ++ Utf8.encode rest :=
        Utf8.encode_append [char] rest
      rw [Sink.writeText, split, Sink.write_append]
      simp only [through, inductionHypothesis, write, Sink.writeText]
      rcases sink.write (Utf8.encode [char]) with ⟨_ | _, next⟩ <;> rfl

end Skip

/-- What a search skips: the text in front of the match, or all of it. -/
def skippedBy
    (search : Option Match)
    (rest : List Char) :
    List Char :=
  (search.map Match.skipped).getD rest

theorem skippedBy_skipping
    (search : Option Match)
    (char : Char)
    (rest : List Char) :
    skippedBy (search.map (Match.skipping char)) (char :: rest) =
      char :: skippedBy search rest := by
  cases search <;> rfl

namespace Automaton

/--
A search of a reader finds what the search of its text finds, and has skipped what is in front
of that; or it has stopped before, at a character that could not be skipped or because the
source failed.
-/
inductive Seeks
    (skip : Skip σ)
    (state : σ)
    (tape : Tape)
    (search : Option Match) :
    Except StreamFault (Option (List Char)) × σ × Reader →
    Prop
  | found (found : Match) {last : σ} {reader : Reader} {next : Tape} :
      search = some found →
      skip.through state found.skipped = (.ok (), last) →
      reader.Holds next →
      next.whole = tape.whole →
      next.place = found.after →
      next.reasons = tape.reasons →
      Seeks skip state tape search (.ok (some found.text), last, reader)
  | ended {last : σ} {reader : Reader} :
      search = none →
      skip.through state tape.future = (.ok (), last) →
      Seeks skip state tape search (.ok none, last, reader)
  | refused (front : List Char) {fault : StreamFault} {last : σ} {reader : Reader} :
      front <+: skippedBy search tape.future →
      skip.through state front = (.error fault, last) →
      Seeks skip state tape search (.error fault, last, reader)
  | failed (front : List Char) {reason : String} {later : List String} {last : σ}
      {reader : Reader} :
      tape.reasons = reason :: later →
      front <+: skippedBy search tape.future →
      skip.through state front = (.ok (), last) →
      Seeks skip state tape search (.error (.failed reason), last, reader)

variable {automaton : Automaton τ} {skip : Skip σ} {reader : Reader} {tape : Tape}
  {place origin : Place} {searchStart : Nat} {state : σ} {before : Option Char} {offset : Nat}
  {char : Char} {rest : List Char} {search : Option Match}

/-- What comes of a search is not changed by a character that is skipped before it. -/
theorem Seeks.skipping
    {tape next : Tape}
    {middle : σ}
    {result : Except StreamFault (Option (List Char)) × σ × Reader}
    (seeks : Seeks skip middle next search result)
    (skips : skip state char = (.ok (), middle))
    (ahead : tape.future = char :: next.future)
    (whole : next.whole = tape.whole)
    (reasons : next.reasons = tape.reasons) :
    Seeks skip state tape (search.map (Match.skipping char)) result := by
  have skipped :
      skippedBy (search.map (Match.skipping char)) tape.future =
        char :: skippedBy search next.future := by
    rw [ahead, skippedBy_skipping]
  cases seeks with
  | found found isFound passes holds sameWhole there sameReasons =>
      refine .found (found.skipping char) ?_ ?_ holds (sameWhole.trans whole) there
        (sameReasons.trans reasons)
      · rw [isFound]
        rfl
      · exact (Skip.through_cons_of_ok skips _).trans passes
  | ended isNone passes =>
      refine .ended (by rw [isNone]; rfl) ?_
      rw [ahead, Skip.through_cons_of_ok skips]
      exact passes
  | refused front begins refuses =>
      refine .refused (char :: front) ?_ ?_
      · rw [skipped]
        exact List.cons_prefix_cons.mpr ⟨rfl, begins⟩
      · rw [Skip.through_cons_of_ok skips]
        exact refuses
  | failed front same begins passes =>
      refine .failed (char :: front) (reasons ▸ same) ?_ ?_
      · rw [skipped]
        exact List.cons_prefix_cons.mpr ⟨rfl, begins⟩
      · rw [Skip.through_cons_of_ok skips]
        exact passes

/-- A match at the place of the reader is taken, unless the source fails. -/
theorem seeks_takeMatch
    (holds : reader.Holds tape)
    {length : Nat}
    (le : length ≤ tape.future.length) :
    Seeks skip state tape (some ⟨[], tape.place, length⟩)
      (match reader.takeMatch length with
      | (.error fault, last) =>
          (.error fault, state, last)
      | (.ok text, last) =>
          (.ok (some text), state, last)) := by
  unfold Reader.takeMatch Reader.takeUpTo
  obtain ⟨next, took, nextHolds⟩ | ⟨done, reason, later, next, _, _, same, failed, _⟩ :=
    holds.clear.takeOnto #[] length
  · rw [took]
    have text : (Match.mk [] tape.place length).text = tape.future.take length :=
      congrArg (List.take length) tape.rest_place
    have there : ((tape.clear.advance length).clear).place = tape.place.advance length := by
      rw [Tape.place_clear, tape.clear.place_advance le, Tape.place_clear]
    rw [Array.toList_empty, List.nil_append]
    dsimp only
    rw [show tape.clear.future = tape.future from rfl, ← text]
    refine .found _ rfl rfl nextHolds.clear ?_ there rfl
    rw [Tape.whole_clear, Tape.whole_advance, Tape.whole_clear]
  · rw [failed]
    exact .failed [] same List.nil_prefix rfl

/-- A character that cannot be skipped ends a search that does not match in front of it. -/
theorem seeks_refused
    {fault : StreamFault}
    {last : σ}
    (future : tape.future = char :: rest)
    (refuses : skip state char = (.error fault, last)) :
    Seeks skip state tape (search.map (Match.skipping char)) (.error fault, last, reader) := by
  refine .refused [char] ?_ ?_
  · rw [future, skippedBy_skipping]
    exact List.cons_prefix_cons.mpr ⟨rfl, List.nil_prefix⟩
  · rw [Skip.through, refuses]

/-- Behind a character that has been skipped, a reader may drop what it has read. -/
theorem exists_holds_behind
    (holds : reader.Holds (tape.advance 1))
    (future : tape.future = char :: rest)
    (skipped : Nat) :
    ∃ next,
      (reader.clearSometimes skipped).Holds next ∧
        next.whole = tape.whole ∧
          next.place = tape.place.advance 1 ∧
            tape.future = char :: next.future ∧ next.reasons = tape.reasons := by
  have there : (tape.advance 1).place = tape.place.advance 1 :=
    tape.place_advance (future ▸ Nat.le_add_left 1 _)
  have behind : tape.future = char :: (tape.advance 1).future := by
    rw [Tape.advance, future]
    rfl
  unfold Reader.clearSometimes
  split
  · exact ⟨_, holds.clear, (Tape.whole_clear _).trans (tape.whole_advance 1),
      (Tape.place_clear _).trans there, behind, rfl⟩
  · exact ⟨_, holds, tape.whole_advance 1, there, behind, rfl⟩

/-- A search of a reader that may fail finds what the search of the text finds, if it does not. -/
theorem seeks_seekIn
    (holds : reader.Holds tape)
    (follows : origin.Follows tape.whole searchStart)
    (skipped : Nat)
    (here : tape.place = ⟨before, offset, rest⟩) :
    Seeks skip state tape (automaton.searchFrom origin.offset before offset rest)
      (automaton.seekIn skip searchStart skipped state reader) := by
  induction rest generalizing reader tape before offset skipped state with
  | nil =>
      have future : tape.future = [] := by
        rw [← tape.rest_place, here]
      rw [seekIn_eq]
      obtain ⟨looked, scanned, lookedHolds⟩ | ⟨reason, later, looked, same, scanned, _⟩ :=
        holds.longestIn automaton follows.marks
      · rw [scanned, here]
        simp only [positiveLength?_longestAt, nonemptyLengthAt?_nil]
        obtain ⟨next, read, nextHolds⟩ | ⟨reason, later, next, same, read, _⟩ := lookedHolds.read
        · rw [read, future]
          refine .ended rfl ?_
          rw [future]
          rfl
        · rw [read]
          exact .failed [] same List.nil_prefix rfl
      · rw [scanned]
        exact .failed [] same List.nil_prefix rfl
  | cons char rest inductionHypothesis =>
      have future : tape.future = char :: rest := by
        rw [← tape.rest_place, here]
      rw [seekIn_eq, searchFrom, matchLengthAt?_eq, ← here]
      obtain ⟨looked, scanned, lookedHolds⟩ | ⟨reason, later, looked, same, scanned, _⟩ :=
        holds.longestIn automaton follows.marks
      · rw [scanned]
        simp only [positiveLength?_longestAt]
        cases matched : automaton.nonemptyLengthAt? tape.place origin.offset with
        | some length =>
            have le := (bounds_of_nonemptyLengthAt? matched).2
            rw [tape.rest_place] at le
            exact seeks_takeMatch lookedHolds le
        | none =>
            obtain ⟨next, read, nextHolds⟩ | ⟨reason, later, next, same, read, _⟩ :=
              lookedHolds.read
            · rw [read, future]
              dsimp only [List.head?_cons]
              rcases skips : skip state char with ⟨fault | ⟨⟩, middle⟩
              · exact seeks_refused future skips
              · obtain ⟨cleared, clearedHolds, whole, there, behind, reasons⟩ :=
                  exists_holds_behind nextHolds future (skipped + 1)
                rw [here] at there
                exact (inductionHypothesis clearedHolds (whole ▸ follows) (skipped + 1)
                  there).skipping skips behind whole reasons
            · rw [read]
              exact .failed [] same List.nil_prefix rfl
      · rw [scanned]
        exact .failed [] same List.nil_prefix rfl

/-- A search of a reader finds what the search of its text finds, or it fails before. -/
theorem seeks_searchIn
    (automaton : Automaton τ)
    (skip : Skip σ)
    (state : σ)
    (holds : reader.Holds tape) :
    Seeks skip state tape (automaton.search tape.place)
      (automaton.searchIn skip state reader) := by
  have follows : tape.place.Follows tape.whole reader.position := by
    rw [holds.shows.position]
    exact tape.follows_place
  exact seeks_seekIn holds follows 0 rfl

/-- The calls that a copy makes between two matches. -/
theorem replaceIn_eq
    (automaton : Automaton τ)
    (replacement : List Char)
    (sink : Sink)
    (reader : Reader) :
    automaton.replaceIn replacement sink reader =
      match automaton.searchIn Skip.write sink reader with
      | (.error fault, sink, next) =>
          (.error fault, sink, next)
      | (.ok none, sink, next) =>
          (.ok (), sink, next)
      | (.ok (some _), sink, next) =>
          match sink.writeText replacement with
          | (.error fault, sink) =>
              (.error fault, sink, next)
          | (.ok (), sink) =>
              automaton.replaceIn replacement sink next := by
  rw [replaceIn]
  rcases automaton.searchIn Skip.write sink reader with ⟨fault | none | found, written, next⟩ <;>
    rfl

end Automaton

/--
A sink has got some bytes, as many as it takes; or the source has failed for the first of some
reasons, and the sink has got a beginning of the bytes.
-/
inductive Sink.Copies
    (sink : Sink)
    (bytes : List UInt8)
    (reasons : List String) :
    Except StreamFault Unit × Sink →
    Prop
  | whole {result : Except StreamFault Unit × Sink} :
      sink.write bytes = result →
      Copies sink bytes reasons result
  | cut {front : List UInt8} {reason : String} {later : List String} {last : Sink} :
      reasons = reason :: later →
      front <+: bytes →
      sink.write front = (.ok (), last) →
      Copies sink bytes reasons (.error (.failed reason), last)

section Copies

variable {sink middle last : Sink} {front bytes : List UInt8} {reasons : List String}
  {fault : StreamFault} {result : Except StreamFault Unit × Sink}

/-- A sink that refuses some of the first bytes has got as many bytes as it takes. -/
theorem Sink.Copies.refused
    (begins : front <+: bytes)
    (refuses : sink.write front = (.error fault, last)) :
    sink.Copies bytes reasons (.error fault, last) := by
  obtain ⟨more, rfl⟩ := begins
  apply Copies.whole
  rw [write_append, refuses]

/-- Behind what has been written, the copy goes on. -/
theorem Sink.Copies.behind
    (copies : middle.Copies bytes reasons result)
    (written : sink.write front = (.ok (), middle)) :
    sink.Copies (front ++ bytes) reasons result := by
  cases copies with
  | whole same =>
      apply Copies.whole
      rw [write_append, written]
      exact same
  | @cut others _ _ _ same begins fits =>
      refine .cut same ((List.prefix_append_right_inj front).mpr begins) ?_
      rw [write_append, written]
      exact fits

variable {limit : Option Nat}

/-- What a sink has got is a beginning of the bytes. -/
theorem Sink.Copies.written_prefix
    (copies : (Sink.withLimit limit).Copies bytes reasons result) :
    result.2.written.toList <+: bytes := by
  cases copies with
  | whole same =>
      rw [← same]
      exact Sink.written_prefix limit bytes
  | @cut front _ _ _ _ begins fits =>
      have got := Sink.written_prefix limit front
      rw [fits] at got
      exact got.trans begins

/-- A sink that has got everything without a fault has all bytes. -/
theorem Sink.Copies.written_eq_of_ok
    (copies : (Sink.withLimit limit).Copies bytes reasons result)
    (succeeds : result.1 = .ok ()) :
    result.2.written.toList = bytes := by
  cases copies with
  | whole same =>
      rw [← same] at succeeds ⊢
      exact Sink.written_eq_of_ok succeeds
  | cut =>
      contradiction

/-- A copy fails because the sink is full, or because the source does. -/
theorem Sink.Copies.fault_eq
    (copies : (Sink.withLimit limit).Copies bytes reasons result)
    (fails : result.1 = .error fault) :
    fault = .full ∨ ∃ reason ∈ reasons.head?, fault = .failed reason := by
  cases copies with
  | whole same =>
      rw [← same] at fails
      exact Or.inl (Sink.eq_full_of_write_error fails)
  | cut reason =>
      cases fails
      rw [reason]
      exact Or.inr ⟨_, rfl, rfl⟩

/-- From a source that does not fail, a sink gets as many bytes as it takes. -/
theorem Sink.Copies.eq_write
    (copies : sink.Copies bytes [] result) :
    result = sink.write bytes := by
  cases copies with
  | whole same =>
      exact same.symm
  | cut impossible =>
      contradiction

end Copies

theorem Utf8.encode_mono
    {front text : List Char}
    (begins : front <+: text) :
    encode front <+: encode text := by
  obtain ⟨more, rfl⟩ := begins
  rw [encode_append]
  exact List.prefix_append _ _

namespace Automaton

variable {automaton : Automaton τ} {reader : Reader} {tape : Tape}

/-- A copy of a reader that may fail is the copy of its text, or a beginning of that. -/
theorem copies_replaceIn
    (automaton : Automaton τ)
    (holds : reader.Holds tape)
    (replacement : List Char)
    (sink : Sink)
    {place : Place}
    (here : tape.place = place) :
    sink.Copies (Utf8.encode (automaton.replaced replacement place)) tape.reasons
      ((automaton.replaceIn replacement sink reader).1,
        (automaton.replaceIn replacement sink reader).2.1) := by
  induction place using tile.induct automaton generalizing reader tape sink with
  | case1 place search =>
      have seeks := automaton.seeks_searchIn Skip.write sink holds
      have future : tape.future = place.rest := by
        rw [← here, tape.rest_place]
      rw [replaceIn_eq, replaced_of_search_eq_none search]
      generalize automaton.searchIn Skip.write sink reader = sought at seeks
      rw [here, search] at seeks
      cases seeks with
      | found _ isFound =>
          contradiction
      | ended _ passes =>
          rw [future, Skip.through_write] at passes
          exact .whole passes
      | refused front begins refuses =>
          rw [Skip.through_write] at refuses
          exact .refused (Utf8.encode_mono (future ▸ begins)) refuses
      | failed front same begins passes =>
          rw [Skip.through_write] at passes
          exact .cut same (Utf8.encode_mono (future ▸ begins)) passes
  | case2 place found search _ _ _ inductionHypothesis =>
      have seeks := automaton.seeks_searchIn Skip.write sink holds
      rw [replaceIn_eq, replaced_of_search_eq_some search]
      generalize automaton.searchIn Skip.write sink reader = sought at seeks
      rw [here, search] at seeks
      cases seeks with
      | @found _ middle next _ isFound passes nextHolds whole there reasons =>
          cases isFound
          rw [Skip.through_write] at passes
          rw [Utf8.encode_append, Utf8.encode_append]
          refine Sink.Copies.behind ?_ passes
          dsimp only
          rcases writes : middle.writeText replacement with ⟨fault | ⟨⟩, last⟩
          · exact .refused (List.prefix_append _ _) writes
          · have copies := inductionHypothesis nextHolds last there
            rw [reasons] at copies
            exact copies.behind writes
      | ended isNone =>
          contradiction
      | refused front begins refuses =>
          rw [Skip.through_write] at refuses
          exact .refused (Utf8.encode_mono (begins.trans (List.prefix_append _ _))) refuses
      | failed front same begins passes =>
          rw [Skip.through_write] at passes
          exact .cut same (Utf8.encode_mono (begins.trans (List.prefix_append _ _))) passes

end Automaton

namespace Regex

/--
What has been written when a copy stops is a beginning of the whole copy.  It is all of it when
the copy succeeds.  A copy fails because the sink is full, or for the first reason for which the
source fails; when the source does not fail, the sink gets as many bytes as it takes, and the
copy fails just when these are not all.
-/
theorem replaceIn_writes_prefix
    (regex : Regex)
    (text replacement : String)
    {source : Source}
    {reasons : List String}
    (relays : source.Relays (Utf8.encode text.toList) reasons)
    (limit : Option Nat) :
    let bytes := Utf8.encode (regex.replace text replacement).toList
    let copy := regex.replaceIn replacement (.withLimit limit) (.ofSource source)
    let result := copy.1
    let written := copy.2.1.written.toList
    written <+: bytes ∧
      (result = .ok () → written = bytes) ∧
        (∀ fault,
          result = .error fault → fault = .full ∨ ∃ reason ∈ reasons.head?, fault = .failed reason) ∧
          (reasons = [] →
            (limit = none → result = .ok ()) ∧
              ∀ most ∈ limit,
                written = bytes.take most ∧
                  result = if bytes.length ≤ most then .ok () else .error .full) ∧
            regex.replaceSource replacement (.withLimit limit) source = (result, copy.2.1) := by
  intro bytes copy result written
  have same :
      bytes = Utf8.encode (regex.automaton.replaced replacement.toList (.start text.toList)) :=
    congrArg Utf8.encode String.toList_ofList
  have here : (Tape.start text.toList reasons).place = .start text.toList :=
    Place.advance_zero _
  have copies :=
    regex.automaton.copies_replaceIn (Reader.holds_ofSource relays) replacement.toList
      (.withLimit limit) here
  rw [← same] at copies
  refine ⟨copies.written_prefix, copies.written_eq_of_ok, fun _ => copies.fault_eq, ?_, rfl⟩
  intro reliable
  have reasonless : (Tape.start text.toList reasons).reasons = [] :=
    reliable
  rw [reasonless] at copies
  have writes : (result, copy.2.1) = (Sink.withLimit limit).write bytes :=
    copies.eq_write
  have isResult : result = ((Sink.withLimit limit).write bytes).1 :=
    congrArg Prod.fst writes
  have isWritten : written = ((Sink.withLimit limit).write bytes).2.written.toList :=
    congrArg (fun outcome => outcome.2.written.toList) writes
  constructor
  · rintro rfl
    exact isResult.trans (Sink.write_withLimit_none bytes).1
  · rintro most ⟨⟩
    exact ⟨isWritten.trans (Sink.write_withLimit_some most bytes).2,
      isResult.trans (Sink.write_withLimit_some most bytes).1⟩

/-- A source that fails while the look ahead behind a match is inside a character. -/
def lookaheadFailure : Source :=
  [.chunk [0x78, 0x61, 0x62, 0xC3], .failure "source failed", .chunk [0xA9]]

/-- The character in front of the match has been written, and nothing for the match. -/
theorem replaceIn_writes_prefix_lookaheadFailure :
    lookaheadFailure.Relays (Utf8.encode "xabé".toList) ["source failed"] ∧
      ∃ regex,
        Regex.compile "ab|é" = .ok regex ∧
          regex.replace "xabé" "-" = "x--" ∧
            let copy := regex.replaceIn "-" (.withLimit none) (.ofSource lookaheadFailure)
            copy.2.1.written.toList <+: Utf8.encode "x--".toList ∧
              regex.replaceSource "-" (.withLimit none) lookaheadFailure = (copy.1, copy.2.1) ∧
                (regex.replaceSource "-" (.withLimit none) lookaheadFailure).2.written = #[0x78] := by
  have relays : lookaheadFailure.Relays (Utf8.encode "xabé".toList) ["source failed"] :=
    .chunk (by decide) (.failure (.chunk (by decide) .ended))
  refine ⟨relays, ?_⟩
  have evaluated :
      ((Regex.compile "ab|é").toOption.map fun regex =>
          (regex.replace "xabé" "-",
            (regex.replaceSource "-" (.withLimit none) lookaheadFailure).2.written)) =
        some ("x--", #[0x78]) := by
    decide +kernel
  obtain ⟨regex, isRegex, results⟩ := Option.map_eq_some_iff.mp evaluated
  obtain ⟨replaced, written⟩ := Prod.mk.inj results
  obtain ⟨begins, _, _, _, source⟩ := replaceIn_writes_prefix regex "xabé" "-" relays none
  rw [replaced] at begins
  exact ⟨regex, ok_of_toOption isRegex, replaced, begins, source, written⟩

end Regex

end LexicalAutomata
