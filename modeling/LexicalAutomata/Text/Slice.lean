import LexicalAutomata.Text.Offset

namespace LexicalAutomata.Text

/-!
# Slices of a text

A slice of a text is given by byte offsets.  There is none where an offset is inside of a
character or beyond the end of the text.
-/

/-- The parts of a text in front of a byte offset and behind it. -/
def splitAt? : List Char → Nat → Option (List Char × List Char)
  | text, 0 =>
      some ([], text)
  | [], _ + 1 =>
      none
  | char :: rest, offset + 1 =>
      if char.utf8Size ≤ offset + 1 then
        (splitAt? rest (offset + 1 - char.utf8Size)).map fun (front, back) => (char :: front, back)
      else
        none

/-- What is behind a byte offset. -/
def from?
    (text : List Char)
    (first : Nat) :
    Option (List Char) :=
  (splitAt? text first).map Prod.snd

/-- What is between two byte offsets. -/
def slice?
    (text : List Char)
    (first limit : Nat) :
    Option (List Char) :=
  if first ≤ limit then
    (from? text first).bind fun rest => (splitAt? rest (limit - first)).map Prod.fst
  else
    none

/-- The byte offset of the first character with a property. -/
def find?
    (property : Char → Bool) :
    List Char → Option Nat
  | [] =>
      none
  | char :: rest =>
      if property char then
        some 0
      else
        (find? property rest).map (char.utf8Size + ·)

/-- A text is split at the offsets between its characters, and nowhere else. -/
theorem splitAt?_eq_some_iff
    {text front back : List Char}
    {offset : Nat} :
    splitAt? text offset = some (front, back) ↔
      text = front ++ back ∧ offset = byteLength front := by
  fun_induction splitAt? text offset generalizing front with
  | case1 text =>
      constructor
      · rintro ⟨⟩
        exact ⟨rfl, rfl⟩
      · rintro ⟨rfl, empty⟩
        cases front with
        | nil =>
            rfl
        | cons char front =>
            have := char.utf8Size_pos
            simp only [byteLength_cons] at empty
            omega
  | case2 offset =>
      simp only [reduceCtorEq, false_iff, not_and]
      intro ends behind
      obtain ⟨rfl, rfl⟩ := List.append_eq_nil_iff.mp ends.symm
      simp at behind
  | case3 char rest offset fits inductionHypothesis =>
      cases front with
      | nil =>
          simp
      | cons head front =>
          have := @inductionHypothesis front
          simp only [Option.map_eq_some_iff, Prod.exists, Prod.mk.injEq, List.cons.injEq,
            List.cons_append, byteLength_cons]
          constructor
          · rintro ⟨_, _, split, ⟨rfl, rfl⟩, rfl⟩
            obtain ⟨rfl, same⟩ := this.mp split
            exact ⟨⟨rfl, rfl⟩, by omega⟩
          · rintro ⟨⟨rfl, rfl⟩, same⟩
            exact ⟨_, _, this.mpr ⟨rfl, by omega⟩, ⟨rfl, rfl⟩, rfl⟩
  | case4 char rest offset inside =>
      simp only [reduceCtorEq, false_iff, not_and]
      intro split same
      cases front with
      | nil =>
          simp at same
      | cons head front =>
          cases split
          simp only [byteLength_cons] at same
          omega

/-- A text is split where one part of it ends and the next one begins. -/
theorem splitAt?_append
    (front back : List Char) :
    splitAt? (front ++ back) (byteLength front) = some (front, back) :=
  splitAt?_eq_some_iff.mpr ⟨rfl, rfl⟩

/-- What is behind the front of a text is its back. -/
theorem from?_append
    (front back : List Char) :
    from? (front ++ back) (byteLength front) = some back := by
  rw [from?, splitAt?_append]
  rfl

/-- The slice from the end of the front to the beginning of the back is what is between them. -/
theorem slice?_append
    (front part back : List Char) :
    slice? (front ++ (part ++ back)) (byteLength front) (byteLength front + byteLength part) =
      some part := by
  rw [slice?, if_pos (Nat.le_add_right _ _), from?_append, Option.bind_some,
    Nat.add_sub_cancel_left, splitAt?_append]
  rfl

/-- The first character with a property is behind those that lack it. -/
theorem find?_append
    {property : Char → Bool}
    {front : List Char}
    {char : Char}
    (lacks : ∀ char ∈ front, property char = false)
    (has : property char = true)
    (back : List Char) :
    find? property (front ++ char :: back) = some (byteLength front) := by
  induction front with
  | nil =>
      simp [find?, has]
  | cons first front inductionHypothesis =>
      obtain ⟨firstLacks, othersLack⟩ := List.forall_mem_cons.mp lacks
      simp [find?, firstLacks, inductionHypothesis othersLack]

/-- Nothing is found where every character lacks the property. -/
theorem find?_eq_none
    {property : Char → Bool}
    {text : List Char}
    (lacks : ∀ char ∈ text, property char = false) :
    find? property text = none := by
  induction text with
  | nil =>
      rfl
  | cons first rest inductionHypothesis =>
      obtain ⟨firstLacks, othersLack⟩ := List.forall_mem_cons.mp lacks
      simp [find?, firstLacks, inductionHypothesis othersLack]

/-- Up to the first character with a property, or up to the end, is what lacks the property. -/
theorem getD_find?
    (property : Char → Bool)
    (text : List Char) :
    (find? (fun char => !property char) text).getD (byteLength text) =
      byteLength (text.takeWhile property) := by
  induction text with
  | nil =>
      rfl
  | cons char rest inductionHypothesis =>
      cases has : property char
      · simp [find?, has]
      · rw [List.takeWhile_cons_of_pos has, byteLength_cons, byteLength_cons,
          ← inductionHypothesis, find?]
        cases find? (fun char => !property char) rest <;> simp [has]

end LexicalAutomata.Text
