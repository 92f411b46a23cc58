import LexicalAutomata.Proofs.Regex.Match
import LexicalAutomata.Proofs.Text.Seek

namespace LexicalAutomata

/-!
# Searches are leftmost and complete

A search from a byte offset starts at the first place that is not in front of it.  It finds the
longest match at the first place, from there on, where the longest match has characters, and it
finds nothing just when there is no such place.  The matches of a text are those of one search
after the other, each from the end of the match before.
-/

variable {τ : Type}

/-- The text in front of a match, from where its search started, together with the match. -/
def Match.covered
    (found : Match) :
    List Char :=
  found.skipped ++ found.text

/-- The place behind a match is where the match stops. -/
theorem Match.offset_after
    (found : Match) :
    found.after.offset = found.stop :=
  found.place.offset_advance found.length

namespace Automaton

/-- The byte offset at which the longest accepted run stops that begins at a place. -/
def longestStop?
    (automaton : Automaton τ)
    (place : Place)
    (searchStart : Nat) :
    Option Nat :=
  (automaton.longestAt place searchStart).map fun found => found.endOffset place

/-- The longest accepted run at a place stops behind that place. -/
def MatchesAt
    (automaton : Automaton τ)
    (place : Place)
    (searchStart : Nat) :
    Prop :=
  ∃ stop, automaton.longestStop? place searchStart = some stop ∧ place.offset < stop

/-- The match that a search from a place of a text must find. -/
structure IsLeftmost
    (automaton : Automaton τ)
    (text : List Char)
    (origin : Place)
    (found : Match) : Prop where
  lies : found.place.LiesIn text
  behind : origin.offset ≤ found.start
  skips : origin.rest = found.skipped ++ found.place.rest
  within : found.length ≤ found.place.rest.length
  nonempty : found.start < found.stop
  longest : automaton.longestStop? found.place origin.offset = some found.stop
  leftmost (place : Place) :
    place.LiesIn text →
      origin.offset ≤ place.offset →
        place.offset < found.start →
          ¬automaton.MatchesAt place origin.offset

variable {automaton : Automaton τ} {searchStart : Nat}

/-- The length of a match that has characters tells where the longest run stops. -/
theorem longestStop?_of_nonemptyLengthAt?
    {place : Place}
    {length : Nat}
    (matched : automaton.nonemptyLengthAt? place searchStart = some length) :
    automaton.longestStop? place searchStart = some (place.advance length).offset ∧
      place.offset < (place.advance length).offset := by
  obtain ⟨positive, bound⟩ := bounds_of_nonemptyLengthAt? matched
  obtain ⟨isSome, _⟩ := Option.filter_eq_some_iff.mp matched
  obtain ⟨best, scanned, rfl⟩ := Option.map_eq_some_iff.mp isSome
  constructor
  · rw [longestStop?, scanned, Place.offset_advance]
    rfl
  · have later := place.offset_advance_lt positive bound
    rwa [Place.advance_zero] at later

/-- There is no match that has characters just where the longest run does not leave the place. -/
theorem nonemptyLengthAt?_eq_none_iff
    {place : Place} :
    automaton.nonemptyLengthAt? place searchStart = none ↔
      ¬automaton.MatchesAt place searchStart := by
  constructor
  · rintro unmatched ⟨stop, isStop, behind⟩
    obtain ⟨best, scanned, rfl⟩ := Option.map_eq_some_iff.mp isStop
    have isEmpty : best.length = 0 := by
      simpa [nonemptyLengthAt?, scanned, Option.filter] using unmatched
    rw [Found.endOffset, isEmpty, List.take_zero, Text.byteLength_nil] at behind
    exact Nat.lt_irrefl _ behind
  · intro unmatched
    rw [Option.eq_none_iff_forall_ne_some]
    intro length matched
    exact unmatched ⟨_, longestStop?_of_nonemptyLengthAt? matched⟩

section SearchFrom

variable {before : Option Char} {offset : Nat} {rest : List Char} {found : Match}

/-- A search that succeeds has passed only places without a match. -/
theorem searchFrom_eq_some
    (search : automaton.searchFrom searchStart before offset rest = some found) :
    ∃ count,
      count ≤ rest.length ∧
        found.place = (Place.mk before offset rest).advance count ∧
        found.skipped = rest.take count ∧
        automaton.nonemptyLengthAt? found.place searchStart = some found.length ∧
        ∀ fewer < count,
          automaton.nonemptyLengthAt? ((Place.mk before offset rest).advance fewer)
            searchStart = none := by
  induction rest generalizing before offset found with
  | nil =>
      contradiction
  | cons char rest inductionHypothesis =>
      rw [searchFrom, matchLengthAt?_eq] at search
      split at search
      · rename_i length matched
        cases search
        exact ⟨0, Nat.zero_le _, rfl, rfl, matched, fun _ => (absurd · (Nat.not_lt_zero _))⟩
      · rename_i unmatched
        obtain ⟨later, laterSearch, rfl⟩ := Option.map_eq_some_iff.mp search
        obtain ⟨count, bound, same, skips, matched, passed⟩ := inductionHypothesis laterSearch
        refine ⟨count + 1, Nat.succ_le_succ bound, same, ?_, matched, ?_⟩
        · rw [Match.skipping, List.take_succ_cons, skips]
        · rintro (_ | fewer) less
          · exact unmatched
          · exact passed fewer (Nat.lt_of_succ_lt_succ less)

/-- A search that fails has passed every place up to the end of the text. -/
theorem searchFrom_eq_none
    (search : automaton.searchFrom searchStart before offset rest = none)
    (count : Nat) :
    automaton.nonemptyLengthAt? ((Place.mk before offset rest).advance count) searchStart =
      none := by
  induction rest generalizing before offset count with
  | nil =>
      rw [Place.advance_nil]
      exact nonemptyLengthAt?_nil before offset
  | cons char rest inductionHypothesis =>
      rw [searchFrom, matchLengthAt?_eq] at search
      split at search
      · contradiction
      · rename_i unmatched
        cases count with
        | zero =>
            exact unmatched
        | succ count =>
            exact inductionHypothesis (Option.map_eq_none_iff.mp search) count

end SearchFrom

section Search

variable {text : List Char} {origin : Place} {found : Match}

/-- What a search has passed over lies in front of what it finds, and nothing is lost. -/
theorem parts_of_search
    (search : automaton.search origin = some found) :
    found.start = origin.offset + Text.byteLength found.skipped ∧
      origin.rest = found.covered ++ found.after.rest := by
  obtain ⟨count, _, same, skips, _⟩ := searchFrom_eq_some search
  replace same : found.place = origin.advance count := same
  constructor
  · rw [Match.start, same, Place.offset_advance, skips]
  · rw [Match.covered, Match.text, Match.after, Place.rest_advance, List.append_assoc,
      List.take_append_drop, same, Place.rest_advance, skips, List.take_append_drop]

/-- What a search finds is the leftmost match that has characters. -/
theorem isLeftmost_of_search
    (lies : origin.LiesIn text)
    (search : automaton.search origin = some found) :
    automaton.IsLeftmost text origin found := by
  obtain ⟨count, bound, same, skips, matched, passed⟩ := searchFrom_eq_some search
  replace same : found.place = origin.advance count := same
  obtain ⟨longest, nonempty⟩ := longestStop?_of_nonemptyLengthAt? matched
  have behind : origin.offset ≤ found.place.offset := by
    have later := origin.offset_advance_mono (Nat.zero_le count)
    rwa [Place.advance_zero, ← same] at later
  refine
    { lies := same ▸ lies.advance bound
      behind
      skips := by rw [skips, same, Place.rest_advance, List.take_append_drop]
      within := (bounds_of_nonemptyLengthAt? matched).2
      nonempty := found.offset_after ▸ nonempty
      longest := found.offset_after ▸ longest
      leftmost := ?_ }
  intro place placeLies placeBehind inFront
  obtain ⟨fewer, _, rfl⟩ := lies.exists_advance placeLies placeBehind
  refine nonemptyLengthAt?_eq_none_iff.mp (passed fewer ?_)
  refine Nat.lt_of_not_le fun le => Nat.not_le_of_lt inFront ?_
  rw [Match.start, same]
  exact origin.offset_advance_mono le

/-- A search finds nothing just when no match that has characters begins from there on. -/
theorem search_eq_none_iff
    (lies : origin.LiesIn text) :
    automaton.search origin = none ↔
      ∀ place : Place,
        place.LiesIn text →
          origin.offset ≤ place.offset → ¬automaton.MatchesAt place origin.offset := by
  constructor
  · intro search place placeLies behind
    obtain ⟨count, _, rfl⟩ := lies.exists_advance placeLies behind
    exact nonemptyLengthAt?_eq_none_iff.mp (searchFrom_eq_none search count)
  · intro unmatched
    rw [Option.eq_none_iff_forall_ne_some]
    intro found search
    have isLeftmost := isLeftmost_of_search lies search
    exact unmatched found.place isLeftmost.lies isLeftmost.behind
      ⟨found.stop, isLeftmost.longest, isLeftmost.nonempty⟩

theorem IsLeftmost.lies_after
    (isLeftmost : automaton.IsLeftmost text origin found) :
    found.after.LiesIn text :=
  isLeftmost.lies.advance isLeftmost.within

end Search

/-- The matches that one search after the other finds, each from the end of the match before. -/
inductive Tiling
    (automaton : Automaton τ) :
    Place → List Match → Prop
  | done {origin : Place} :
      automaton.search origin = none →
      Tiling automaton origin []
  | next {origin : Place} {found : Match} {others : List Match} :
      automaton.search origin = some found →
      Tiling automaton found.after others →
      Tiling automaton origin (found :: others)

theorem tiling_tile
    (automaton : Automaton τ)
    (origin : Place) :
    automaton.Tiling origin (automaton.tile origin).1 := by
  fun_induction tile automaton origin with
  | case1 origin search =>
      exact .done search
  | case2 origin found search others rest tiled inductionHypothesis =>
      rw [tiled] at inductionHypothesis
      exact .next search inductionHypothesis

/-- The place where the next search starts after some matches. -/
def placeBehind
    (origin : Place)
    (occurrences : List Match) :
    Place :=
  occurrences.getLast?.elim origin Match.after

theorem placeBehind_cons
    (origin : Place)
    (found : Match)
    (others : List Match) :
    placeBehind origin (found :: others) = placeBehind found.after others := by
  rw [placeBehind, placeBehind, List.getLast?_cons]
  cases others.getLast? <;> rfl

section Tiling

variable {text : List Char} {origin : Place} {occurrences front back : List Match} {found : Match}

theorem Tiling.le_start
    (tiling : automaton.Tiling origin occurrences)
    (lies : origin.LiesIn text)
    (member : found ∈ occurrences) :
    origin.offset ≤ found.start := by
  induction tiling with
  | done =>
      contradiction
  | @next origin first others search _ inductionHypothesis =>
      have isLeftmost := isLeftmost_of_search lies search
      rcases List.mem_cons.mp member with rfl | later
      · exact isLeftmost.behind
      · have behind := inductionHypothesis isLeftmost.lies_after later
        rw [Match.offset_after] at behind
        exact Nat.le_trans isLeftmost.behind
          (Nat.le_trans (Nat.le_of_lt isLeftmost.nonempty) behind)

/-- No match begins in front of the end of an earlier one. -/
theorem Tiling.pairwise
    (tiling : automaton.Tiling origin occurrences)
    (lies : origin.LiesIn text) :
    occurrences.Pairwise fun former latter => former.stop ≤ latter.start := by
  induction tiling with
  | done =>
      exact .nil
  | next search tiling inductionHypothesis =>
      have liesAfter := (isLeftmost_of_search lies search).lies_after
      refine .cons (fun latter member => ?_) (inductionHypothesis liesAfter)
      rw [← Match.offset_after]
      exact tiling.le_start liesAfter member

/-- Behind some of the matches, a search finds the next one, and behind all of them nothing. -/
theorem Tiling.search_placeBehind
    (tiling : automaton.Tiling origin (front ++ back))
    (lies : origin.LiesIn text) :
    (placeBehind origin front).LiesIn text ∧
      automaton.search (placeBehind origin front) = back.head? := by
  induction front generalizing origin with
  | nil =>
      refine ⟨lies, ?_⟩
      rw [List.nil_append] at tiling
      cases tiling <;> assumption
  | cons found front inductionHypothesis =>
      cases tiling with
      | next search tiling =>
          rw [placeBehind_cons]
          exact inductionHypothesis tiling (isLeftmost_of_search lies search).lies_after

end Tiling

end Automaton

namespace Regex

/-- The end of the last of some matches, or else the beginning of the text. -/
def stopBehind
    (occurrences : List Match) :
    Nat :=
  occurrences.getLast?.elim 0 Match.stop

/-- What a search from a byte offset is to find in a text. -/
structure SearchesFrom
    (regex : Regex)
    (text : String)
    (offset : Nat) : Prop where
  beyond : Text.byteLength text.toList < offset → regex.searchAt? text offset = none
  within :
    offset ≤ Text.byteLength text.toList →
      ∃ origin : Place,
        origin.IsFirstFrom text.toList offset ∧
          (regex.searchAt? text offset = none ↔
            ∀ place : Place,
              place.LiesIn text.toList →
                origin.offset ≤ place.offset →
                  ¬regex.automaton.MatchesAt place origin.offset) ∧
          ∀ found : Match,
            regex.searchAt? text offset = some found →
              regex.automaton.IsLeftmost text.toList origin found

/-- The matches of a text lie one behind the other and leave nothing out. -/
structure Tiles
    (regex : Regex)
    (text : String)
    (occurrences : List Match) : Prop where
  bounded (found : Match) :
    found ∈ occurrences →
      found.place.LiesIn text.toList ∧
        found.start < found.stop ∧
        ∃ behind : Place, behind.LiesIn text.toList ∧ behind.offset = found.stop
  ordered : occurrences.Pairwise fun former latter => former.stop ≤ latter.start
  successive (front back : List Match) :
    front ++ back = occurrences →
      regex.searchAt? text (stopBehind front) = back.head?
  complete (front back : List Match) (place : Place) :
    front ++ back = occurrences →
      place.LiesIn text.toList →
        stopBehind front ≤ place.offset →
          (∀ next ∈ back.head?, place.offset < next.start) →
            ¬regex.automaton.MatchesAt place (stopBehind front)

variable (regex : Regex) (text : String)

theorem searchesFrom
    (offset : Nat) :
    regex.SearchesFrom text offset where
  beyond beyond := by
    rw [searchAt?, Place.atOrAfter?_eq_none_iff.mpr beyond]
    rfl
  within within := by
    cases sought : Place.atOrAfter? text.toList offset with
    | none =>
        exact absurd within (Nat.not_le.mpr (Place.atOrAfter?_eq_none_iff.mp sought))
    | some origin =>
        have isFirst := Place.isFirstFrom_of_atOrAfter? sought
        rw [searchAt?, sought, Option.bind_some]
        exact ⟨origin, isFirst, Automaton.search_eq_none_iff isFirst.lies,
          fun found => Automaton.isLeftmost_of_search isFirst.lies⟩

/-- The offset where the next search starts is that of the place behind the matches so far. -/
theorem offset_placeBehind
    (text : List Char)
    (occurrences : List Match) :
    (Automaton.placeBehind (.start text) occurrences).offset = stopBehind occurrences := by
  rw [Automaton.placeBehind, stopBehind]
  cases occurrences.getLast? with
  | none =>
      rfl
  | some last =>
      exact last.offset_after

/-- Behind some of the matches, the search that starts there finds the next one. -/
theorem isNext_findAll
    {front back : List Match}
    (parts : front ++ back = regex.findAll text) :
    ∃ origin : Place,
      origin.LiesIn text.toList ∧
        origin.offset = stopBehind front ∧
        regex.automaton.search origin = back.head? ∧
        regex.searchAt? text (stopBehind front) = back.head? := by
  have tiling : regex.automaton.Tiling (.start text.toList) (front ++ back) :=
    parts ▸ regex.automaton.tiling_tile _
  obtain ⟨lies, search⟩ := tiling.search_placeBehind (Place.liesIn_start _)
  refine ⟨_, lies, offset_placeBehind _ _, search, ?_⟩
  rw [searchAt?, ← offset_placeBehind text.toList, lies.atOrAfter?_offset, Option.bind_some, search]

/-- A match of a text is what some search found. -/
theorem exists_isLeftmost_of_mem_findAll
    {found : Match}
    (member : found ∈ regex.findAll text) :
    ∃ origin, regex.automaton.IsLeftmost text.toList origin found := by
  obtain ⟨front, back, parts⟩ := List.append_of_mem member
  obtain ⟨origin, lies, _, search, _⟩ := regex.isNext_findAll text parts.symm
  exact ⟨origin, Automaton.isLeftmost_of_search lies search⟩

/-- The matches of a text tile it. -/
theorem tiles_findAll :
    regex.Tiles text (regex.findAll text) where
  bounded found member := by
    obtain ⟨origin, isLeftmost⟩ := regex.exists_isLeftmost_of_mem_findAll text member
    exact ⟨isLeftmost.lies, isLeftmost.nonempty, found.after, isLeftmost.lies_after,
      found.offset_after⟩
  ordered := (regex.automaton.tiling_tile _).pairwise (Place.liesIn_start _)
  successive front back parts := by
    obtain ⟨_, _, _, _, search⟩ := regex.isNext_findAll text parts
    exact search
  complete front back place parts placeLies behind inFront := by
    obtain ⟨origin, lies, same, search, _⟩ := regex.isNext_findAll text parts
    rw [← same] at behind ⊢
    cases back with
    | nil =>
        exact (Automaton.search_eq_none_iff lies).mp search place placeLies behind
    | cons next back =>
        exact (Automaton.isLeftmost_of_search lies search).leftmost place placeLies behind
          (inFront next rfl)

/--
A search finds the first match that has characters, at or behind the place that the offset leads
to, and the matches of a text are the searches from the end of one match to the next.
-/
theorem search_leftmost_and_findAll_tiles :
    (∀ offset, regex.SearchesFrom text offset) ∧ regex.Tiles text (regex.findAll text) :=
  ⟨regex.searchesFrom text, regex.tiles_findAll text⟩

end Regex

end LexicalAutomata
