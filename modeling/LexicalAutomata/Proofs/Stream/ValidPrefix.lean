import LexicalAutomata.Proofs.Stream.Utf8
import Mathlib.Data.List.Basic

namespace LexicalAutomata.Utf8

/-!
# The longest text that bytes begin with

What is read of some bytes is a text, and they begin with the bytes of no longer one.
Reading may stop between any two bytes and go on there with those that were left over; what
is malformed stays so, whatever follows it.
-/

/-- The bytes begin with the bytes of the text, and with those of no longer one. -/
structure IsLongestPrefix
    (bytes : List UInt8)
    (text : List Char) :
    Prop where
  begins : encode text <+: bytes
  longest : ∀ other, encode other <+: bytes → other <+: text

/-- A byte holds six bits of a character that has begun before it. -/
def Continues
    (byte : UInt8) :
    Prop :=
  0x80 ≤ byte.toNat ∧ byte.toNat ≤ 0xBF

/-- The code point of a character whose first bits are `value`, and whose others are in bytes. -/
def joinBits
    (value : Nat)
    (behind : List UInt8) :
    Nat :=
  behind.foldl (fun value byte => value * 0x40 + (byte.toNat - 0x80)) value

section Encode

variable {first second third fourth : UInt8} {value : Nat}

theorem val_ofNat
    (valid : value < 0xD800 ∨ 0xDFFF < value ∧ value < 0x110000) :
    (Char.ofNat value).val.toNat = value := by
  rw [Char.ofNat, dif_pos valid]
  rfl

theorem ofNat_eq_of_toNat_eq
    {byte : UInt8}
    (same : value = byte.toNat) :
    UInt8.ofNat value = byte := by
  rw [same, UInt8.ofNat_toNat]

theorem utf8EncodeChar_one
    (single : first.toNat < 0x80) :
    String.utf8EncodeChar (.ofNat first.toNat) = [first] := by
  unfold String.utf8EncodeChar
  rw [val_ofNat (by omega)]
  dsimp only
  rw [if_pos (by omega), UInt8.ofNat_toNat]

theorem utf8EncodeChar_two
    (leads : 0xC2 ≤ first.toNat ∧ first.toNat ≤ 0xDF)
    (continues : Continues second) :
    String.utf8EncodeChar (.ofNat (joinBits (first.toNat - 0xC0) [second])) = [first, second] := by
  unfold Continues at continues
  simp only [joinBits, List.foldl_cons, List.foldl_nil]
  unfold String.utf8EncodeChar
  rw [val_ofNat (by omega)]
  dsimp only
  rw [if_neg (by omega), if_pos (by omega)]
  simp only [List.cons.injEq, and_true]
  exact ⟨ofNat_eq_of_toNat_eq (by omega), ofNat_eq_of_toNat_eq (by omega)⟩

theorem utf8EncodeChar_three
    (leads : 0xE0 ≤ first.toNat ∧ first.toNat ≤ 0xEF)
    (continues : Continues second ∧ Continues third)
    (joined : joinBits (first.toNat - 0xE0) [second, third] = value)
    (long : 0x800 ≤ value)
    (noSurrogate : value < 0xD800 ∨ 0xDFFF < value) :
    String.utf8EncodeChar (.ofNat value) = [first, second, third] := by
  unfold Continues at continues
  simp only [joinBits, List.foldl_cons, List.foldl_nil] at joined
  unfold String.utf8EncodeChar
  rw [val_ofNat (by omega)]
  dsimp only
  rw [if_neg (by omega), if_neg (by omega), if_pos (by omega)]
  simp only [List.cons.injEq, and_true]
  exact ⟨ofNat_eq_of_toNat_eq (by omega), ofNat_eq_of_toNat_eq (by omega),
    ofNat_eq_of_toNat_eq (by omega)⟩

theorem utf8EncodeChar_four
    (leads : 0xF0 ≤ first.toNat ∧ first.toNat ≤ 0xF4)
    (continues : Continues second ∧ Continues third ∧ Continues fourth)
    (joined : joinBits (first.toNat - 0xF0) [second, third, fourth] = value)
    (long : 0x10000 ≤ value)
    (inside : value < 0x110000) :
    String.utf8EncodeChar (.ofNat value) = [first, second, third, fourth] := by
  unfold Continues at continues
  simp only [joinBits, List.foldl_cons, List.foldl_nil] at joined
  unfold String.utf8EncodeChar
  rw [val_ofNat (by omega)]
  dsimp only
  rw [if_neg (by omega), if_neg (by omega), if_neg (by omega)]
  simp only [List.cons.injEq, and_true]
  exact ⟨ofNat_eq_of_toNat_eq (by omega), ofNat_eq_of_toNat_eq (by omega),
    ofNat_eq_of_toNat_eq (by omega), ofNat_eq_of_toNat_eq (by omega)⟩

end Encode

section Read

variable {first : UInt8} {bytes rest more : List UInt8} {char : Char}

/-- A character is put together from the six bits of each byte that follows. -/
theorem readFollowing_eq_char
    {size value following : Nat}
    (item : readFollowing size value following bytes = .char char rest) :
    ∃ behind,
      behind.length = following ∧
        bytes = behind ++ rest ∧
          (∀ byte ∈ behind, Continues byte) ∧ char = .ofNat (joinBits value behind) := by
  fun_induction readFollowing size value following bytes with
  | case1 =>
      cases item
      exact ⟨[], rfl, rfl, by simp, rfl⟩
  | case2 =>
      contradiction
  | case3 _ _ _ byte _ continues inductionHypothesis =>
      obtain ⟨behind, length, same, allContinue, isChar⟩ := inductionHypothesis item
      refine ⟨byte :: behind, congrArg (· + 1) length, congrArg (byte :: ·) same,
        List.forall_mem_cons.mpr ⟨continues, allContinue⟩, ?_⟩
      rw [isChar, joinBits, joinBits, List.foldl_cons]
  | case4 =>
      contradiction

/-- A character that takes several bytes is put together from all of them. -/
theorem readBehind_eq_char
    {lead : Lead}
    (item : readBehind lead bytes = .char char rest) :
    ∃ second behind,
      behind.length = lead.following - 1 ∧
        bytes = second :: behind ++ rest ∧
          (lead.least ≤ second.toNat ∧ second.toNat ≤ lead.greatest) ∧
            (∀ byte ∈ behind, Continues byte) ∧
              char = .ofNat (joinBits lead.value (second :: behind)) := by
  unfold readBehind at item
  split at item
  · contradiction
  · rename_i second tail
    split at item
    · rename_i fits
      obtain ⟨behind, length, rfl, allContinue, isChar⟩ := readFollowing_eq_char item
      refine ⟨second, behind, length, rfl, fits, allContinue, ?_⟩
      rw [isChar, joinBits, joinBits, List.foldl_cons]
    · contradiction

/-- A first byte asks for one, two or three more.  What it demands of the second one keeps out
the code points that fewer bytes would do for, the surrogates, and what no code point is. -/
theorem lead?_eq_some
    {byte : Nat}
    {lead : Lead}
    (found : lead? byte = some lead) :
    (lead.following = 1 ∧ (0xC2 ≤ byte ∧ byte ≤ 0xDF) ∧ lead.value = byte - 0xC0 ∧
        0x80 ≤ lead.least ∧ lead.greatest ≤ 0xBF) ∨
      (lead.following = 2 ∧ (0xE0 ≤ byte ∧ byte ≤ 0xEF) ∧ lead.value = byte - 0xE0 ∧
        (0x80 ≤ lead.least ∧ lead.greatest ≤ 0xBF) ∧
          (byte = 0xE0 → 0xA0 ≤ lead.least) ∧ (byte = 0xED → lead.greatest ≤ 0x9F)) ∨
      (lead.following = 3 ∧ (0xF0 ≤ byte ∧ byte ≤ 0xF4) ∧ lead.value = byte - 0xF0 ∧
        (0x80 ≤ lead.least ∧ lead.greatest ≤ 0xBF) ∧
          (byte = 0xF0 → 0x90 ≤ lead.least) ∧ (byte = 0xF4 → lead.greatest ≤ 0x8F)) := by
  unfold lead? at found
  repeat' split at found
  all_goals cases found
  all_goals dsimp only
  all_goals omega

/-- The bytes that a first byte asks for are those of the character they make up. -/
theorem utf8EncodeChar_of_lead?
    {lead : Lead}
    {second : UInt8}
    {behind : List UInt8}
    (found : lead? first.toNat = some lead)
    (length : behind.length = lead.following - 1)
    (fits : lead.least ≤ second.toNat ∧ second.toNat ≤ lead.greatest)
    (allContinue : ∀ byte ∈ behind, Continues byte) :
    String.utf8EncodeChar (.ofNat (joinBits lead.value (second :: behind))) =
      first :: second :: behind := by
  obtain ⟨following, leads, value, allowed⟩ | ⟨following, leads, value, allowed, fromE0, toED⟩ |
    ⟨following, leads, value, allowed, fromF0, toF4⟩ := lead?_eq_some found
  all_goals
    rw [following] at length
    rw [value]
    have continues : Continues second := by
      unfold Continues
      omega
  · cases List.length_eq_zero_iff.mp length
    exact utf8EncodeChar_two leads continues
  · obtain ⟨third, rfl⟩ := List.length_eq_one_iff.mp length
    have thirdContinues := allContinue third List.mem_cons_self
    refine utf8EncodeChar_three leads ⟨continues, thirdContinues⟩ rfl ?_ ?_
    all_goals
      unfold Continues at thirdContinues
      simp only [joinBits, List.foldl_cons, List.foldl_nil]
      omega
  · obtain ⟨third, fourth, rfl⟩ := List.length_eq_two.mp length
    have thirdContinues := allContinue third List.mem_cons_self
    have fourthContinues := allContinue fourth (List.mem_cons_of_mem _ List.mem_cons_self)
    refine utf8EncodeChar_four leads ⟨continues, thirdContinues, fourthContinues⟩ rfl ?_ ?_
    all_goals
      unfold Continues at thirdContinues fourthContinues
      simp only [joinBits, List.foldl_cons, List.foldl_nil]
      omega

/-- What is read as a character is the bytes of that character. -/
theorem read_eq_char
    (item : read first bytes = .char char rest) :
    first :: bytes = String.utf8EncodeChar char ++ rest := by
  unfold read at item
  split at item
  · rename_i single
    cases item
    rw [utf8EncodeChar_one single]
    rfl
  · split at item
    · contradiction
    · rename_i lead found
      obtain ⟨second, behind, length, rfl, fits, allContinue, rfl⟩ := readBehind_eq_char item
      rw [utf8EncodeChar_of_lead? found length fits allContinue]
      rfl

/-- More bytes behind them do not make malformed bytes a character. -/
theorem readFollowing_malformed_append
    {size value following malformed : Nat}
    (item : readFollowing size value following bytes = .malformed malformed) :
    readFollowing size value following (bytes ++ more) = .malformed malformed := by
  fun_induction readFollowing size value following bytes with
  | case1 =>
      contradiction
  | case2 =>
      contradiction
  | case3 _ _ _ _ _ continues inductionHypothesis =>
      rw [List.cons_append, readFollowing, if_pos continues]
      exact inductionHypothesis item
  | case4 _ _ _ _ _ stops =>
      rw [List.cons_append, readFollowing, if_neg stops]
      exact item

theorem readBehind_malformed_append
    {lead : Lead}
    {malformed : Nat}
    (item : readBehind lead bytes = .malformed malformed) :
    readBehind lead (bytes ++ more) = .malformed malformed := by
  cases bytes with
  | nil =>
      contradiction
  | cons second tail =>
      unfold readBehind at item ⊢
      dsimp only [List.cons_append] at item ⊢
      split at item
      · rename_i fits
        rw [if_pos fits]
        exact readFollowing_malformed_append item
      · rename_i fits
        rw [if_neg fits]
        exact item

theorem read_malformed_append
    {malformed : Nat}
    (item : read first bytes = .malformed malformed) :
    read first (bytes ++ more) = .malformed malformed := by
  unfold read at item ⊢
  split at item
  · contradiction
  · rename_i several
    rw [if_neg several]
    split at item
    · exact item
    · exact readBehind_malformed_append item

end Read

section Decode

variable {bytes more : List UInt8} {text : List Char}

/-- What has been read and what is left over make up the bytes. -/
theorem encode_decode
    (bytes : List UInt8) :
    encode (decode bytes).chars ++ (decode bytes).rest = bytes := by
  fun_induction decode bytes with
  | case1 =>
      rfl
  | case2 first bytes char rest item inductionHypothesis =>
      rw [read_eq_char item, Decoded.cons, encode_cons, List.append_assoc]
      exact congrArg (String.utf8EncodeChar char ++ ·) inductionHypothesis
  | case3 =>
      rfl
  | case4 =>
      rfl

/-- A text is read from its bytes, whatever comes behind them. -/
theorem chars_decode_encode_append
    (text : List Char)
    (more : List UInt8) :
    (decode (encode text ++ more)).chars = text ++ (decode more).chars := by
  induction text with
  | nil =>
      rfl
  | cons char rest inductionHypothesis =>
      rw [encode_cons, List.append_assoc, (readsAs_utf8EncodeChar char).decode_append]
      exact congrArg (char :: ·) inductionHypothesis

/-- Reading gives the longest text that the bytes begin with. -/
theorem isLongestPrefix_decode
    (bytes : List UInt8) :
    IsLongestPrefix bytes (decode bytes).chars where
  begins :=
    ⟨_, encode_decode bytes⟩
  longest other := by
    rintro ⟨more, rfl⟩
    rw [chars_decode_encode_append]
    exact List.prefix_append _ _

/-- Bytes are those of a text when nothing is left over. -/
theorem exists_encode_iff :
    (∃ text, bytes = encode text) ↔ (decode bytes).rest = [] := by
  constructor
  · rintro ⟨text, rfl⟩
    rw [decode_encode]
  · intro nothing
    have whole := encode_decode bytes
    rw [nothing, List.append_nil] at whole
    exact ⟨_, whole.symm⟩

/-- Of bytes that are not malformed, reading goes on with what was left over. -/
theorem decode_append
    (sound : (decode bytes).malformed = none)
    (more : List UInt8) :
    decode (bytes ++ more) =
      let later := decode ((decode bytes).rest ++ more)
      { later with chars := (decode bytes).chars ++ later.chars } := by
  fun_induction decode bytes with
  | case1 =>
      rfl
  | case2 first bytes char rest item inductionHypothesis =>
      rw [read_eq_char item, List.append_assoc, (readsAs_utf8EncodeChar char).decode_append,
        inductionHypothesis sound]
      rfl
  | case3 =>
      contradiction
  | case4 =>
      rfl

/-- What is malformed stays so, whatever follows it. -/
theorem malformed_decode_append
    {size : Nat}
    (malformed : (decode bytes).malformed = some size)
    (more : List UInt8) :
    (decode (bytes ++ more)).malformed = some size := by
  fun_induction decode bytes with
  | case1 =>
      contradiction
  | case2 first bytes char rest item inductionHypothesis =>
      rw [read_eq_char item, List.append_assoc, (readsAs_utf8EncodeChar char).decode_append]
      exact inductionHypothesis malformed
  | case3 first bytes size item =>
      rw [List.cons_append, decode]
      split <;> rename_i found <;> rw [read_malformed_append item] at found <;> cases found
      exact malformed
  | case4 =>
      contradiction

/-- Malformed bytes are left over. -/
theorem rest_ne_nil_of_malformed
    {size : Nat}
    (malformed : (decode bytes).malformed = some size) :
    (decode bytes).rest ≠ [] := by
  fun_induction decode bytes with
  | case1 =>
      contradiction
  | case2 first bytes char rest item inductionHypothesis =>
      exact inductionHypothesis malformed
  | case3 =>
      exact List.cons_ne_nil _ _
  | case4 =>
      contradiction

end Decode

end LexicalAutomata.Utf8
