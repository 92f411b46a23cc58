import LexicalAutomata.Text.Offset

namespace LexicalAutomata.Text

/-!
# Byte offsets of strings

The bytes of the characters of a string are those of the string, so what the characters of a
beginning take is an offset between two characters.
-/

theorem utf8ByteSize_ofList
    (chars : List Char) :
    (String.ofList chars).utf8ByteSize = byteLength chars := by
  induction chars with
  | nil =>
      rfl
  | cons char rest inductionHypothesis =>
      rw [← List.singleton_append, String.ofList_append, String.utf8ByteSize_append,
        inductionHypothesis, byteLength_append]
      simp

theorem utf8ByteSize_eq
    (text : String) :
    text.utf8ByteSize = byteLength text.toList := by
  rw [← utf8ByteSize_ofList, String.ofList_toList]

/-- A byte offset between two characters of a text, or at one of its ends. -/
def IsBoundary
    (text : List Char)
    (offset : Nat) :
    Prop :=
  ∃ front back, text = front ++ back ∧ offset = byteLength front

/-- The boundaries of a string are its valid positions, none of them beyond its end. -/
theorem IsBoundary.isValid
    {text : String}
    {offset : Nat}
    (isBoundary : IsBoundary text.toList offset) :
    String.Pos.Raw.IsValid text ⟨offset⟩ ∧ offset ≤ text.utf8ByteSize := by
  obtain ⟨front, back, split, rfl⟩ := isBoundary
  have whole : text = .ofList front ++ .ofList back := by
    rw [← String.ofList_append, ← split, String.ofList_toList]
  constructor
  · refine String.Pos.Raw.isValid_iff_exists_append.mpr ⟨_, _, whole, ?_⟩
    rw [← utf8ByteSize_ofList]
    rfl
  · rw [utf8ByteSize_eq, split, byteLength_append]
    exact Nat.le_add_right _ _

end LexicalAutomata.Text
