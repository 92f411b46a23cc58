namespace LexicalAutomata.Text

/-!
# Byte offsets in a text

A text is a list of characters, and places in it are counted in the bytes of its
UTF-8 form.
-/

/-- The number of bytes that a text takes. -/
def byteLength
    (text : List Char) :
    Nat :=
  text.foldr (fun char length => char.utf8Size + length) 0

@[simp] theorem byteLength_nil :
    byteLength [] = 0 :=
  rfl

@[simp] theorem byteLength_cons
    (char : Char)
    (rest : List Char) :
    byteLength (char :: rest) = char.utf8Size + byteLength rest :=
  rfl

@[simp] theorem byteLength_append
    (first second : List Char) :
    byteLength (first ++ second) = byteLength first + byteLength second := by
  induction first with
  | nil =>
      simp
  | cons char rest inductionHypothesis =>
      simp only [List.cons_append, byteLength_cons, inductionHypothesis, Nat.add_assoc]

/-- Every character takes at least one byte. -/
theorem length_le_byteLength
    (text : List Char) :
    text.length ≤ byteLength text := by
  induction text with
  | nil =>
      simp
  | cons char rest inductionHypothesis =>
      have := Char.utf8Size_pos char
      simp only [List.length_cons, byteLength_cons]
      omega

end LexicalAutomata.Text
