import LexicalAutomata.Proofs.Text.Place

namespace LexicalAutomata.Place

/-!
# The place at a byte offset

The places of a text are the boundaries between its characters, its two ends among them.  A
byte offset leads to the first of them that is not in front of it.
-/

/-- A place is between two characters of a text, or at one of its ends. -/
def LiesIn
    (place : Place)
    (text : List Char) :
    Prop :=
  ∃ count, place.Follows text count

/-- The first place of a text that is not in front of a byte offset. -/
structure IsFirstFrom
    (place : Place)
    (text : List Char)
    (offset : Nat) : Prop where
  lies : place.LiesIn text
  le_offset : offset ≤ place.offset
  first (other : Place) : other.LiesIn text → offset ≤ other.offset → place.offset ≤ other.offset

section Order

variable {place other : Place} {text : List Char} {count more : Nat}

/-- The order of the offsets is the order of the places. -/
theorem Follows.offset_lt_iff
    (follows : place.Follows text count)
    (otherFollows : other.Follows text more) :
    place.offset < other.offset ↔ count < more := by
  have mono : more ≤ count → other.offset ≤ place.offset := by
    rw [follows.eq_advance, otherFollows.eq_advance]
    exact offset_advance_mono _
  constructor
  · intro less
    exact Nat.lt_of_not_le fun notLess => Nat.not_le_of_lt less (mono notLess)
  · intro less
    rw [follows.eq_advance, otherFollows.eq_advance]
    exact offset_advance_lt _ less otherFollows.le_length

theorem Follows.offset_le_iff
    (follows : place.Follows text count)
    (otherFollows : other.Follows text more) :
    place.offset ≤ other.offset ↔ count ≤ more := by
  rw [← Nat.not_lt, ← Nat.not_lt, otherFollows.offset_lt_iff follows]

/-- At an offset there is only one place of a text. -/
theorem LiesIn.eq_of_offset_eq
    (lies : place.LiesIn text)
    (otherLies : other.LiesIn text)
    (same : place.offset = other.offset) :
    place = other := by
  obtain ⟨count, follows⟩ := lies
  obtain ⟨more, otherFollows⟩ := otherLies
  obtain rfl := (follows.offset_eq_iff otherFollows).mp same
  exact follows.unique otherFollows

theorem liesIn_start
    (text : List Char) :
    (start text).LiesIn text :=
  ⟨0, follows_start text⟩

/-- A place further on in the text behind a place of a text is a place of that text. -/
theorem LiesIn.advance
    (lies : place.LiesIn text)
    {further : Nat}
    (le : further ≤ place.rest.length) :
    (place.advance further).LiesIn text := by
  obtain ⟨count, follows⟩ := lies
  exact ⟨count + further, follows.advance further le⟩

/-- The places that are not in front of a place of a text are those further on. -/
theorem LiesIn.exists_advance
    (lies : place.LiesIn text)
    (otherLies : other.LiesIn text)
    (le : place.offset ≤ other.offset) :
    ∃ further, further ≤ place.rest.length ∧ other = place.advance further := by
  obtain ⟨count, follows⟩ := lies
  obtain ⟨more, otherFollows⟩ := otherLies
  obtain ⟨further, rfl⟩ := Nat.exists_eq_add_of_le ((follows.offset_le_iff otherFollows).mp le)
  have bound := otherFollows.le_length
  rw [← follows.count_add_length] at bound
  refine ⟨further, Nat.le_of_add_le_add_left bound, ?_⟩
  rw [otherFollows.eq_advance, ← advance_advance, ← follows.eq_advance]

end Order

section Seek

variable {offset reached : Nat} {before : Option Char} {rest : List Char} {found : Place}

/-- What is sought is the first place behind which the offset does not lie any more. -/
theorem seekFrom_eq_some
    (sought : seekFrom offset before reached rest = some found) :
    ∃ count,
      count ≤ rest.length ∧
        found = (Place.mk before reached rest).advance count ∧
        offset ≤ found.offset ∧
        ∀ fewer < count, ((Place.mk before reached rest).advance fewer).offset < offset := by
  induction rest generalizing before reached with
  | nil =>
      rw [seekFrom] at sought
      split at sought
      · rename_i le
        cases sought
        exact ⟨0, Nat.le_refl _, rfl, le, fun _ => (absurd · (Nat.not_lt_zero _))⟩
      · contradiction
  | cons char rest inductionHypothesis =>
      rw [seekFrom] at sought
      split at sought
      · rename_i le
        cases sought
        exact ⟨0, Nat.zero_le _, rfl, le, fun _ => (absurd · (Nat.not_lt_zero _))⟩
      · rename_i beyond
        obtain ⟨count, bound, same, le, skipped⟩ := inductionHypothesis sought
        refine ⟨count + 1, Nat.succ_le_succ bound, same, le, ?_⟩
        rintro (_ | fewer) less
        · exact Nat.not_le.mp beyond
        · exact skipped fewer (Nat.lt_of_succ_lt_succ less)

/-- Nothing is found just when the text ends in front of the offset. -/
theorem seekFrom_eq_none_iff :
    seekFrom offset before reached rest = none ↔ reached + Text.byteLength rest < offset := by
  induction rest generalizing before reached with
  | nil =>
      rw [seekFrom, Text.byteLength_nil, Nat.add_zero, ← Nat.not_le]
      split <;> simp [*]
  | cons char rest inductionHypothesis =>
      rw [seekFrom, Text.byteLength_cons, ← Nat.add_assoc]
      split
      · rename_i le
        simp only [reduceCtorEq, false_iff]
        omega
      · exact inductionHypothesis

end Seek

variable {text : List Char} {offset : Nat} {place : Place}

/-- Behind the end of a text there is no place of it. -/
theorem atOrAfter?_eq_none_iff :
    atOrAfter? text offset = none ↔ Text.byteLength text < offset := by
  rw [atOrAfter?, seekFrom_eq_none_iff, Nat.zero_add]

/-- A byte offset leads to the first place that is not in front of it. -/
theorem isFirstFrom_of_atOrAfter?
    (sought : atOrAfter? text offset = some place) :
    place.IsFirstFrom text offset := by
  obtain ⟨count, bound, same, le, skipped⟩ := seekFrom_eq_some sought
  have follows : place.Follows text count := ⟨same, bound⟩
  refine ⟨⟨count, follows⟩, le, ?_⟩
  rintro other ⟨more, otherFollows⟩ otherBehind
  rw [follows.offset_le_iff otherFollows]
  refine Nat.le_of_not_lt fun fewer => ?_
  have inFront := skipped more fewer
  rw [← start, ← otherFollows.eq_advance] at inFront
  exact Nat.not_le_of_lt inFront otherBehind

/-- The offset of a place leads to that place. -/
theorem LiesIn.atOrAfter?_offset
    (lies : place.LiesIn text) :
    atOrAfter? text place.offset = some place := by
  cases sought : atOrAfter? text place.offset with
  | none =>
      obtain ⟨count, follows⟩ := lies
      have behind := atOrAfter?_eq_none_iff.mp sought
      have within := (start text).offset_advance_mono follows.le_length
      rw [← follows.eq_advance, offset_advance, start, List.take_length, Nat.zero_add] at within
      exact absurd behind (Nat.not_lt.mpr within)
  | some found =>
      have isFirst := isFirstFrom_of_atOrAfter? sought
      have same := Nat.le_antisymm (isFirst.first place lies (Nat.le_refl _)) isFirst.le_offset
      rw [isFirst.lies.eq_of_offset_eq lies same]

end LexicalAutomata.Place
