namespace LexicalAutomata

/-!
# Code points

Code points are natural numbers below `codePointLimit`.  The surrogates among
them are no characters: a set may hold them, but no text contains them.
-/

/-- Exclusive upper bound of the code-point domain. -/
def codePointLimit : Nat :=
  0x110000

/-- The first surrogate. -/
def surrogateFirst : Nat :=
  0xD800

/-- The first code point after the surrogates. -/
def surrogateLimit : Nat :=
  0xE000

/-- The character with code point `codePoint`, unless that is a surrogate or too large. -/
def charOfCodePoint?
    (codePoint : Nat) :
    Option Char :=
  if valid : codePoint.isValidChar then
    some (Char.ofNatAux codePoint valid)
  else
    none

/-- A character is the one with its own code point. -/
@[simp] theorem charOfCodePoint?_toNat
    (char : Char) :
    charOfCodePoint? char.toNat = some char := by
  have valid : char.toNat.isValidChar := char.valid
  unfold charOfCodePoint?
  rw [dif_pos valid]
  apply congrArg some
  apply Char.ext
  apply UInt32.toNat_inj.mp
  rfl

/-- Looking up a code point finds the character that has it, and nothing else. -/
theorem charOfCodePoint?_eq_some_iff
    {codePoint : Nat}
    {char : Char} :
    charOfCodePoint? codePoint = some char ↔ char.toNat = codePoint := by
  constructor
  · intro found
    unfold charOfCodePoint? at found
    by_cases valid : codePoint.isValidChar
    · rw [dif_pos valid] at found
      cases found
      rfl
    · rw [dif_neg valid] at found
      contradiction
  · rintro rfl
    exact charOfCodePoint?_toNat char

/-- Every character lies in the code-point domain. -/
theorem toNat_lt_codePointLimit
    (char : Char) :
    char.toNat < codePointLimit := by
  have valid : char.toNat.isValidChar := char.valid
  unfold Nat.isValidChar at valid
  unfold codePointLimit
  omega

end LexicalAutomata
