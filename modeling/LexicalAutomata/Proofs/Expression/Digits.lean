import LexicalAutomata.Expression.Escape
import LexicalAutomata.Label.ClassText

namespace LexicalAutomata

/-!
# Reading code points in hexadecimal digits

The digits of a number have its value, so the braced escape of a code point
stands for the character with that code point, whatever text is behind it.
-/

/-- Each hexadecimal digit is one to the reader. -/
theorem isHexDigit_digitChar
    {digit : Nat}
    (small : digit < 16) :
    isHexDigit digit.digitChar = true :=
  (by decide +kernel : ∀ digit : Fin 16, isHexDigit digit.val.digitChar = true) ⟨digit, small⟩

/-- Each hexadecimal digit is read as its value. -/
theorem digitValue_digitChar
    {digit : Nat}
    (small : digit < 16) :
    digitValue digit.digitChar = digit :=
  (by decide : ∀ digit : Fin 16, digitValue digit.val.digitChar = digit.val) ⟨digit, small⟩

/-- The last digit counts once, those in front of it sixteen times. -/
theorem digitsValue_concat
    (base : Nat)
    (digits : List Char)
    (last : Char) :
    digitsValue base (digits ++ [last]) = digitsValue base digits * base + digitValue last := by
  simp [digitsValue]

/-- The hexadecimal digits of a number are digits to the reader. -/
theorem isHexDigit_of_mem_toDigits
    {number : Nat}
    {digit : Char}
    (member : digit ∈ Nat.toDigits 16 number) :
    isHexDigit digit = true := by
  induction number using Nat.strongRecOn with
  | ind number inductionHypothesis =>
      rw [Nat.toDigits_eq_if (by decide)] at member
      split at member
      · rename_i small
        rw [List.mem_singleton.mp member]
        exact isHexDigit_digitChar small
      · rename_i large
        rcases List.mem_append.mp member with front | last
        · exact inductionHypothesis (number / 16) (by omega) front
        · rw [List.mem_singleton.mp last]
          exact isHexDigit_digitChar (Nat.mod_lt _ (by decide))

/-- The hexadecimal digits of a number have its value. -/
theorem digitsValue_toDigits
    (number : Nat) :
    digitsValue 16 (Nat.toDigits 16 number) = number := by
  induction number using Nat.strongRecOn with
  | ind number inductionHypothesis =>
      rw [Nat.toDigits_eq_if (by decide)]
      split
      · rename_i small
        simp [digitsValue, digitValue_digitChar small]
      · rename_i large
        have lastValue : digitValue (number % 16).digitChar = number % 16 :=
          digitValue_digitChar (Nat.mod_lt _ (by decide))
        rw [digitsValue_concat, inductionHypothesis (number / 16) (by omega), lastValue]
        omega

namespace Cursor

/-- A run of characters with a property ends in front of the first that lacks it. -/
theorem run_append
    {property : Char → Bool}
    {front : List Char}
    (allHave : ∀ char ∈ front, property char = true)
    {stop : Char}
    (stops : property stop = false)
    (rest : List Char)
    (offset : Nat) :
    run ⟨front ++ stop :: rest, offset⟩ property = front := by
  simp [run, List.takeWhile_append_of_pos allHave, stops]

/-- A required character is read where it is next. -/
theorem require_cons
    (wanted : Char)
    (rest : List Char)
    (offset : Nat) :
    require ⟨wanted :: rest, offset⟩ wanted = .ok ⟨rest, offset + Text.byteLength [wanted]⟩ := by
  simp [require, next, peek?, advance, bind, Except.bind]

/-- The hexadecimal digits of a code point are read as the code point. -/
theorem readHex_toDigits
    (opening : Cursor)
    {number : Nat}
    (small : number < codePointLimit)
    (rest : List Char)
    (offset : Nat) :
    readHex opening (Nat.toDigits 16 number).length ⟨Nat.toDigits 16 number ++ rest, offset⟩ =
      .ok (number, ⟨rest, offset + Text.byteLength (Nat.toDigits 16 number)⟩) := by
  have allDigits : (Nat.toDigits 16 number).all isHexDigit = true :=
    List.all_eq_true.mpr fun _ member => isHexDigit_of_mem_toDigits member
  have inLimit : ¬ hexLimit < number := by
    unfold codePointLimit at small
    unfold hexLimit
    omega
  simp [readHex, advance, allDigits, digitsValue_toDigits, inLimit]

/-- Hexadecimal digits in braces are read up to the brace. -/
theorem readBracedHex_toDigits
    (opening : Cursor)
    {number : Nat}
    (small : number < codePointLimit)
    (rest : List Char)
    (offset : Nat) :
    ∃ behind,
      readBracedHex opening ⟨Nat.toDigits 16 number ++ '\x7d' :: rest, offset⟩ =
        .ok (number, ⟨rest, behind⟩) := by
  have digits :
      run ⟨Nat.toDigits 16 number ++ '\x7d' :: rest, offset⟩ isHexDigit =
        Nat.toDigits 16 number :=
    run_append (fun _ member => isHexDigit_of_mem_toDigits member) (by decide +kernel) rest offset
  have nonempty : (Nat.toDigits 16 number).isEmpty = false := by
    simp [Nat.toDigits_ne_nil]
  unfold readBracedHex
  simp only [digits, nonempty, Bool.false_eq_true, if_false, readHex_toDigits opening small,
    bind, Except.bind, require_cons]
  exact ⟨_, rfl⟩

/-- The character with a character's own code point is that character. -/
theorem charWith_toNat
    (opening : Cursor)
    (char : Char) :
    opening.charWith char.toNat = .ok char := by
  simp [charWith]

/-- The braced escape of a character's code point is read as the character. -/
theorem readEscape_escapedCodePoint
    [PropertyParser]
    (caseInsensitive : Bool)
    (char : Char)
    (rest : List Char)
    (offset : Nat) :
    ∃ behind,
      readEscape caseInsensitive ⟨Label.escapedCodePoint char.toNat ++ rest, offset⟩ =
        .ok (.char char, ⟨rest, behind⟩) := by
  have written :
      Label.escapedCodePoint char.toNat ++ rest =
        '\\' :: 'x' :: '\x7b' :: (Nat.toDigits 16 char.toNat ++ '\x7d' :: rest) := by
    simp [Label.escapedCodePoint]
  have notLetter : Escaped.ofLetter? 'x' = none := by
    decide +kernel
  rw [written]
  obtain ⟨behind, read⟩ :=
    readBracedHex_toDigits
      ⟨'\\' :: 'x' :: '\x7b' :: (Nat.toDigits 16 char.toNat ++ '\x7d' :: rest), offset⟩
      (toNat_lt_codePointLimit char) rest
      (offset + Text.byteLength ['\\', 'x'] + Text.byteLength ['\x7b'])
  refine ⟨behind, ?_⟩
  simp only [readEscape, peek?, rest_advance, List.drop_succ_cons, List.drop_zero,
    List.head?_cons, notLetter, readLongEscape, readCodePoint, if_true]
  simp only [advance, List.drop_succ_cons, List.drop_zero, List.take_succ_cons, List.take_zero,
    read, bind, Except.bind, charWith_toNat]

end Cursor

end LexicalAutomata
