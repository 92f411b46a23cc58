import LexicalAutomata.Expression.Basic
import LexicalAutomata.Expression.Cursor

namespace LexicalAutomata

/-!
# Numbers and quantifiers in expression text
-/

/-- The value of a digit up to `f`. -/
def digitValue
    (digit : Char) :
    Nat :=
  if digit.isDigit then
    digit.toNat - '0'.toNat
  else
    digit.toLower.toNat - 'a'.toNat + 10

/-- The value of a list of digits, the most significant one first. -/
def digitsValue
    (base : Nat)
    (digits : List Char) :
    Nat :=
  digits.foldl (fun value digit => value * base + digitValue digit) 0

namespace Cursor

/-- The largest number in a quantifier; as a maximum it means that there is none. -/
def quantifierLimit : Nat :=
  0xFFFFFFFFFFFFFFFF

/-- Read a decimal number. -/
def readNumber
    (cursor : Cursor) :
    Except TextError (Nat × Cursor) :=
  let digits := cursor.run Char.isDigit
  if digits.isEmpty then
    cursor.fail .missingNumber
  else if quantifierLimit < digitsValue 10 digits then
    cursor.fail .quantifierTooLarge
  else
    .ok (digitsValue 10 digits, cursor.advance digits.length)

theorem readNumber_shorter
    {cursor after : Cursor}
    {value : Nat}
    (read : cursor.readNumber = .ok (value, after)) :
    after.rest.length < cursor.rest.length := by
  simp only [readNumber, fail, failAt] at read
  split at read
  · contradiction
  · rename_i digits
    split at read
    · contradiction
    · simp only [Except.ok.injEq, Prod.mk.injEq] at read
      have : (cursor.run Char.isDigit).length ≤ cursor.rest.length :=
        (List.takeWhile_prefix _).length_le
      have : 0 < (cursor.run Char.isDigit).length :=
        List.length_pos_iff.mpr (by simpa using digits)
      simp only [← read.2, rest_advance, List.length_drop]
      omega

/-- The maximum that a number stands for. -/
def maximumOf
    (number : Nat) :
    Option Nat :=
  if number = quantifierLimit then
    none
  else
    some number

/-- Read the brace that closes a quantifier, whose bounds must not be reversed. -/
def closeBounds
    (opening : Cursor)
    (bounds : Quantifier)
    (cursor : Cursor) :
    Except TextError (Quantifier × Cursor) :=
  cursor.require '\x7d' >>= fun after =>
    match bounds.max with
    | none =>
        .ok (bounds, after)
    | some most =>
        if most < bounds.min then
          opening.fail (.reversedQuantifier bounds.min most)
        else
          .ok (bounds, after)

theorem closeBounds_shorter
    {opening cursor after : Cursor}
    {bounds quantifier : Quantifier}
    (read : closeBounds opening bounds cursor = .ok (quantifier, after)) :
    after.rest.length < cursor.rest.length := by
  obtain ⟨closed, first, second⟩ := bind_eq_ok_iff.mp read
  have := require_shorter first
  split at second
  · cases second
    exact this
  · split at second
    · simp [fail, failAt] at second
    · cases second
      exact this

/-- Read the maximum behind the comma, where there may be none. -/
def readMaximum
    (opening : Cursor)
    (minimum : Nat)
    (cursor : Cursor) :
    Except TextError (Quantifier × Cursor) :=
  if cursor.peek? = some '\x7d' then
    closeBounds opening ⟨minimum, none⟩ cursor
  else
    cursor.readNumber >>= fun (maximum, after) =>
      closeBounds opening ⟨minimum, maximumOf maximum⟩ after

theorem readMaximum_shorter
    {opening cursor after : Cursor}
    {minimum : Nat}
    {quantifier : Quantifier}
    (read : readMaximum opening minimum cursor = .ok (quantifier, after)) :
    after.rest.length < cursor.rest.length := by
  unfold readMaximum at read
  split at read
  · exact closeBounds_shorter read
  · obtain ⟨⟨maximum, next⟩, first, second⟩ := bind_eq_ok_iff.mp read
    exact Nat.lt_trans (closeBounds_shorter second) (readNumber_shorter first)

/-- Read the bounds between the braces of a quantifier, the first of which is at `opening`. -/
def readBounds
    (opening : Cursor) :
    Except TextError (Quantifier × Cursor) :=
  (opening.advance 1).readNumber >>= fun (minimum, after) =>
    if after.peek? = some ',' then
      readMaximum opening minimum (after.advance 1)
    else
      closeBounds opening ⟨minimum, maximumOf minimum⟩ after

theorem readBounds_shorter
    {opening after : Cursor}
    {quantifier : Quantifier}
    (read : readBounds opening = .ok (quantifier, after)) :
    after.rest.length < opening.rest.length := by
  obtain ⟨⟨minimum, next⟩, first, second⟩ := bind_eq_ok_iff.mp read
  have behindNumber := readNumber_shorter first
  dsimp only at second
  simp only [rest_advance, List.length_drop] at behindNumber
  split at second
  · have behindMaximum := readMaximum_shorter second
    simp only [rest_advance, List.length_drop] at behindMaximum
    omega
  · have := closeBounds_shorter second
    omega

/-- Read the quantifier behind an atom, where there may be none. -/
def readQuantifier
    (cursor : Cursor) :
    Except TextError (Quantifier × Cursor) :=
  match cursor.peek? with
  | some '*' =>
      .ok (⟨0, none⟩, cursor.advance 1)
  | some '+' =>
      .ok (⟨1, none⟩, cursor.advance 1)
  | some '?' =>
      .ok (⟨0, some 1⟩, cursor.advance 1)
  | some '\x7b' =>
      cursor.readBounds
  | _ =>
      .ok (.once, cursor)

theorem readQuantifier_le
    {cursor after : Cursor}
    {quantifier : Quantifier}
    (read : cursor.readQuantifier = .ok (quantifier, after)) :
    after.rest.length ≤ cursor.rest.length := by
  unfold readQuantifier at read
  split at read
  case h_4 =>
    exact Nat.le_of_lt (readBounds_shorter read)
  all_goals
    cases read
    simp [rest_advance]

end Cursor

end LexicalAutomata
