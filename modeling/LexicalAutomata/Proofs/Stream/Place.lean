import LexicalAutomata.Proofs.Stream.Reader
import LexicalAutomata.Proofs.Text.Place
import LexicalAutomata.Regex.Stream

namespace LexicalAutomata

/-!
# Where a reader is in a text

A reader that has been made for the bytes of a text is always at a place of that text:
its position is the number of characters in front of the place, the last character it has
read is the one in front, and what it has before it is the rest.  Dropping what has been
read does not move it.
-/

namespace Reader

/-- A reader is at a place of a text. -/
structure IsAt
    (reader : Reader)
    (text : List Char)
    (place : Place) : Prop where
  follows : place.Follows text reader.position
  previous : reader.previous = place.before
  unread : reader.Unread place.rest

/-- A reader is at a place of a text, and its source is still to fail for some reasons. -/
structure StandsAt
    (reader : Reader)
    (text : List Char)
    (place : Place)
    (reasons : List String) : Prop where
  follows : place.Follows text reader.position
  previous : reader.previous = place.before
  expects : reader.Expects place.rest reasons

/-- Looking ahead does not move a reader, even if it fails. -/
theorem StandsAt.grows
    {reader next : Reader}
    {text : List Char}
    {place : Place}
    {reasons later : List String}
    (stands : reader.StandsAt text place reasons)
    (grows : reader.Grows next)
    (expects : next.Expects place.rest later) :
    next.StandsAt text place later where
  follows := by
    rw [grows.position_eq]
    exact stands.follows
  previous := by
    rw [grows.previous_eq]
    exact stands.previous
  expects :=
    expects

/-- A fresh reader is at the start of the text. -/
theorem isAt_ofSource
    {text : List Char}
    {source : Source}
    (delivers : source.Delivers (Utf8.encode text)) :
    (Reader.ofSource source).IsAt text (.start text) where
  follows :=
    Place.follows_start text
  previous :=
    rfl
  unread :=
    expects_ofSource delivers.relays

section IsAt

variable {reader next : Reader} {text rest : List Char} {place : Place} {before : Option Char}
  {offset : Nat} {char : Char}

/-- The source of a reader that is at a place does not fail. -/
theorem IsAt.standsAt
    (isAt : reader.IsAt text place) :
    reader.StandsAt text place [] :=
  ⟨isAt.follows, isAt.previous, isAt.unread⟩

theorem StandsAt.isAt
    (stands : reader.StandsAt text place []) :
    reader.IsAt text place :=
  ⟨stands.follows, stands.previous, stands.expects⟩

/-- Looking ahead does not move a reader. -/
theorem IsAt.grows
    (isAt : reader.IsAt text place)
    (grows : reader.Grows next)
    (unread : next.Unread place.rest) :
    next.IsAt text place :=
  (isAt.standsAt.grows grows unread).isAt

theorem IsAt.clear
    (isAt : reader.IsAt text place) :
    reader.clear.IsAt text place := by
  have unread := isAt.unread.clear
  unfold Reader.clear at unread ⊢
  split
  · exact isAt
  · rename_i behind
    rw [if_neg behind] at unread
    exact ⟨isAt.follows, isAt.previous, unread⟩

/-- The cursor moves over a character in the buffer. -/
theorem IsAt.step
    (isAt : reader.IsAt text ⟨before, offset, char :: rest⟩)
    (inside : reader.cursor < reader.buffer.size) :
    reader.step.IsAt text ⟨some char, offset + char.utf8Size, rest⟩ := by
  obtain ⟨moved, shown, unread⟩ := isAt.unread.step inside
  rw [moved] at unread ⊢
  exact ⟨isAt.follows.advance 1 (Nat.le_add_left _ _), shown, unread⟩

/-- Reading moves over the next character. -/
theorem IsAt.read_cons
    (isAt : reader.IsAt text ⟨before, offset, char :: rest⟩) :
    ∃ next,
      reader.read = (.ok (some char), next) ∧
        next.IsAt text ⟨some char, offset + char.utf8Size, rest⟩ := by
  obtain ⟨next, peeked, grows, unread⟩ := isAt.unread.peek 0
  refine ⟨next.step, ?_, (isAt.grows grows unread).step (lt_size_of_peek peeked)⟩
  rw [Reader.read, peeked]
  rfl

/-- There is nothing to read at the end. -/
theorem IsAt.read_nil
    (isAt : reader.IsAt text ⟨before, offset, []⟩) :
    ∃ next, reader.read = (.ok none, next) ∧ next.IsAt text ⟨before, offset, []⟩ := by
  obtain ⟨next, peeked, grows, unread⟩ := isAt.unread.peek 0
  refine ⟨next, ?_, isAt.grows grows unread⟩
  rw [Reader.read, peeked]
  rfl

/-- As many characters are taken as there are. -/
theorem IsAt.takeOnto
    (isAt : reader.IsAt text place)
    (taken : Array Char)
    {count : Nat}
    (le : count ≤ place.rest.length) :
    ∃ next,
      reader.takeOnto taken count = (.ok (taken.toList ++ place.rest.take count), next) ∧
        next.IsAt text (place.advance count) := by
  induction count generalizing reader place taken with
  | zero =>
      exact ⟨reader, by simp [Reader.takeOnto], by simpa using isAt⟩
  | succ count inductionHypothesis =>
      obtain ⟨before, offset, _ | ⟨char, rest⟩⟩ := place
      · contradiction
      · obtain ⟨next, read, nextAt⟩ := isAt.read_cons
        obtain ⟨last, took, lastAt⟩ :=
          inductionHypothesis nextAt (taken.push char) (Nat.le_of_succ_le_succ le)
        refine ⟨last, ?_, lastAt⟩
        simp only [Reader.takeOnto, read, took]
        simp

/-- A run that was found is taken as it stands in the text. -/
theorem IsAt.takeMatch
    (isAt : reader.IsAt text place)
    {length : Nat}
    (le : length ≤ place.rest.length) :
    ∃ next,
      reader.takeMatch length = (.ok (place.rest.take length), next) ∧
        next.IsAt text (place.advance length) := by
  obtain ⟨next, took, nextAt⟩ := isAt.clear.takeOnto #[] le
  refine ⟨next.clear, ?_, nextAt.clear⟩
  rw [Reader.takeMatch, takeUpTo, took]
  rfl

theorem IsAt.clearSometimes
    (isAt : reader.IsAt text place)
    (skipped : Nat) :
    (reader.clearSometimes skipped).IsAt text place := by
  unfold Reader.clearSometimes
  split
  · exact isAt.clear
  · exact isAt

/-- Reading on gives the rest of the text, and leaves nothing. -/
theorem IsAt.readOnto
    (isAt : reader.IsAt text place)
    (field : Array Char) :
    ∃ next last,
      reader.readOnto field = (.ok (field.toList ++ place.rest), next) ∧
        next.IsAt text last ∧ last.rest = [] := by
  obtain ⟨before, offset, rest⟩ := place
  induction rest generalizing reader before offset field with
  | nil =>
      obtain ⟨next, read, nextAt⟩ := isAt.read_nil
      refine ⟨next.clear, _, ?_, nextAt.clear, rfl⟩
      rw [Reader.readOnto]
      split <;> rename_i found <;> rw [read] at found <;> cases found
      rw [List.append_nil]
  | cons char rest inductionHypothesis =>
      obtain ⟨next, read, nextAt⟩ := isAt.read_cons
      obtain ⟨last, place, readOn, lastAt, ended⟩ :=
        inductionHypothesis (field.push char) _ _ nextAt
      refine ⟨last, place, ?_, lastAt, ended⟩
      rw [Reader.readOnto]
      split <;> rename_i found <;> rw [read] at found <;> cases found
      rw [readOn]
      simp

/-- What a reader leaves unread is what is behind its place. -/
theorem IsAt.readOnto_eq
    (isAt : reader.IsAt text place) :
    (reader.readOnto #[]).1 = .ok place.rest := by
  obtain ⟨next, last, readOn, _⟩ := isAt.readOnto #[]
  rw [readOn]
  rfl

end IsAt

end Reader

end LexicalAutomata
