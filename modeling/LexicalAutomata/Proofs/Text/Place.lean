import LexicalAutomata.Text.Place

namespace LexicalAutomata.Place

/-!
# Moving through a text
-/

@[simp] theorem advance_zero
    (place : Place) :
    place.advance 0 = place := by
  cases place
  rfl

@[simp] theorem advance_succ_cons
    (before : Option Char)
    (offset : Nat)
    (char : Char)
    (rest : List Char)
    (count : Nat) :
    (Place.mk before offset (char :: rest)).advance (count + 1) =
      (Place.mk (some char) (offset + char.utf8Size) rest).advance count :=
  rfl

@[simp] theorem advance_nil
    (before : Option Char)
    (offset count : Nat) :
    (Place.mk before offset []).advance count = ⟨before, offset, []⟩ := by
  cases count <;> rfl

/-- Two moves make one. -/
theorem advance_advance
    (place : Place)
    (first second : Nat) :
    (place.advance first).advance second = place.advance (first + second) := by
  induction first generalizing place with
  | zero =>
      simp
  | succ first inductionHypothesis =>
      obtain ⟨before, offset, rest⟩ := place
      cases rest with
      | nil =>
          simp
      | cons char rest =>
          rw [advance_succ_cons, inductionHypothesis, Nat.succ_add, advance_succ_cons]

/-- The offset grows by the bytes of the characters that are passed. -/
theorem offset_advance
    (place : Place)
    (count : Nat) :
    (place.advance count).offset =
      place.offset + Text.byteLength (place.rest.take count) := by
  induction count generalizing place with
  | zero =>
      simp
  | succ count inductionHypothesis =>
      obtain ⟨before, offset, rest⟩ := place
      cases rest with
      | nil =>
          simp
      | cons char rest =>
          rw [advance_succ_cons, inductionHypothesis, List.take_succ_cons, Text.byteLength_cons,
            Nat.add_assoc]

/-- The offset behind fewer characters is not greater. -/
theorem offset_advance_mono
    (place : Place)
    {fewer count : Nat}
    (le : fewer ≤ count) :
    (place.advance fewer).offset ≤ (place.advance count).offset := by
  obtain ⟨more, rfl⟩ := Nat.exists_eq_add_of_le le
  rw [← advance_advance, offset_advance (place.advance fewer)]
  exact Nat.le_add_right _ _

/-- Within the text, the offset behind more characters is greater. -/
theorem offset_advance_lt
    (place : Place)
    {fewer count : Nat}
    (less : fewer < count)
    (le : count ≤ place.rest.length) :
    (place.advance fewer).offset < (place.advance count).offset := by
  obtain ⟨more, rfl⟩ := Nat.exists_eq_add_of_le (Nat.le_of_lt less)
  rw [← advance_advance, offset_advance (place.advance fewer)]
  have := Text.length_le_byteLength ((place.advance fewer).rest.take more)
  rw [rest_advance, List.length_take, List.length_drop] at this
  rw [rest_advance]
  omega

/-- The character in front of a place is the last one that has been passed. -/
theorem before_advance_succ
    (place : Place)
    {count : Nat}
    (less : count < place.rest.length) :
    (place.advance (count + 1)).before = place.rest[count]? := by
  induction count generalizing place with
  | zero =>
      obtain ⟨before, offset, _ | ⟨char, rest⟩⟩ := place
      · contradiction
      · rfl
  | succ count inductionHypothesis =>
      obtain ⟨before, offset, _ | ⟨char, rest⟩⟩ := place
      · contradiction
      · rw [advance_succ_cons, inductionHypothesis _ (Nat.lt_of_succ_lt_succ less),
          List.getElem?_cons_succ]

/-- A place is in a text behind a number of characters. -/
structure Follows
    (place : Place)
    (text : List Char)
    (count : Nat) : Prop where
  eq_advance : place = (Place.start text).advance count
  le_length : count ≤ text.length

theorem follows_start
    (text : List Char) :
    (Place.start text).Follows text 0 :=
  ⟨(advance_zero _).symm, Nat.zero_le _⟩

section Follows

variable {place other : Place} {text : List Char} {count more : Nat}

theorem Follows.rest_eq
    (follows : place.Follows text count) :
    place.rest = text.drop count := by
  rw [follows.eq_advance, rest_advance]
  rfl

/-- The characters that have been passed and those that come make up the text. -/
theorem Follows.count_add_length
    (follows : place.Follows text count) :
    count + place.rest.length = text.length := by
  have := follows.le_length
  rw [follows.rest_eq, List.length_drop]
  omega

/-- The offset of a place is the number of bytes of the characters in front of it. -/
theorem Follows.offset_eq
    (follows : place.Follows text count) :
    place.offset = Text.byteLength (text.take count) := by
  rw [follows.eq_advance, offset_advance]
  exact Nat.zero_add _

theorem Follows.advance
    (follows : place.Follows text count)
    (more : Nat)
    (le : more ≤ place.rest.length) :
    (place.advance more).Follows text (count + more) := by
  refine ⟨?_, ?_⟩
  · rw [← advance_advance, ← follows.eq_advance]
  · rw [← follows.count_add_length]
    exact Nat.add_le_add_left le count

/-- Two places of a text have the same offset just when they are behind equally many characters. -/
theorem Follows.offset_eq_iff
    (follows : place.Follows text count)
    (otherFollows : other.Follows text more) :
    place.offset = other.offset ↔ count = more := by
  constructor
  · intro same
    rw [follows.eq_advance, otherFollows.eq_advance] at same
    rcases Nat.lt_trichotomy count more with less | equal | greater
    · exact (Nat.ne_of_lt (offset_advance_lt _ less otherFollows.le_length) same).elim
    · exact equal
    · exact (Nat.ne_of_gt (offset_advance_lt _ greater follows.le_length) same).elim
  · rintro rfl
    rw [follows.eq_advance, otherFollows.eq_advance]

/-- The character in front of a place is the last of those that have been passed. -/
theorem Follows.before_eq
    (follows : place.Follows text count) :
    place.before = (text.take count).getLast? := by
  have le := follows.le_length
  rw [follows.eq_advance]
  cases count with
  | zero =>
      rfl
  | succ count =>
      have last : text[count]? = some text[count] := List.getElem?_eq_getElem le
      rw [before_advance_succ (start text) le, List.getLast?_take, if_neg (Nat.succ_ne_zero _),
        Nat.add_sub_cancel, last]
      exact last

/-- Behind a number of characters there is only one place. -/
theorem Follows.unique
    (follows : place.Follows text count)
    (otherFollows : other.Follows text count) :
    place = other := by
  rw [follows.eq_advance, otherFollows.eq_advance]

end Follows

/-- A byte offset and a number of characters belong to the same place of a text, or to none. -/
def Marks
    (text : List Char)
    (offset count : Nat) :
    Prop :=
  ∀ (place : Place) (passed : Nat),
    place.Follows text passed → (place.offset = offset ↔ passed = count)

theorem Follows.marks
    {origin : Place}
    {text : List Char}
    {count : Nat}
    (follows : origin.Follows text count) :
    Marks text origin.offset count :=
  fun _ _ otherFollows => otherFollows.offset_eq_iff follows

/--
The byte offset behind some characters of a text.  Behind the end of the text, every number
of characters has an offset of its own.
-/
def offsetBehind
    (text : List Char)
    (count : Nat) :
    Nat :=
  Text.byteLength (text.take count) + (count - text.length)

theorem marks_offsetBehind
    (text : List Char)
    (count : Nat) :
    Marks text (offsetBehind text count) count := by
  intro place passed follows
  unfold offsetBehind
  rcases Nat.le_total count text.length with le | beyond
  · have here : ((start text).advance count).Follows text count := ⟨rfl, le⟩
    rw [Nat.sub_eq_zero_of_le le, Nat.add_zero, ← here.offset_eq]
    exact follows.offset_eq_iff here
  · have atEnd : ((start text).advance text.length).Follows text text.length := ⟨rfl, Nat.le_refl _⟩
    have last : place.offset ≤ Text.byteLength text := by
      have := (start text).offset_advance_mono follows.le_length
      rwa [← follows.eq_advance, atEnd.offset_eq, List.take_length] at this
    rw [List.take_of_length_le beyond]
    constructor
    · intro same
      have sameOffset : place.offset = ((start text).advance text.length).offset := by
        rw [atEnd.offset_eq, List.take_length]
        omega
      rw [follows.offset_eq_iff atEnd] at sameOffset
      omega
    · intro same
      have := follows.le_length
      have passedAll : passed = text.length := by omega
      subst passedAll
      rw [follows.unique atEnd, atEnd.offset_eq, List.take_length]
      omega

end LexicalAutomata.Place
