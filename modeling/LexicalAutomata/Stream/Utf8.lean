import LexicalAutomata.CodePoint

namespace LexicalAutomata.Utf8

/-!
# Reading UTF-8

The first byte of a character tells how many bytes follow it and which values the
second one may have; the other bytes are all between `0x80` and `0xBF`.  Bytes
that no character can begin with are malformed, and bytes that more bytes could
complete are cut off.
-/

/-- What a first byte says about the bytes behind it. -/
structure Lead where
  /-- The number of bytes that follow. -/
  following : Nat
  /-- The least and the greatest second byte. -/
  least : Nat
  greatest : Nat
  /-- The part of the code point that is in the first byte. -/
  value : Nat
  deriving Repr, DecidableEq

/-- The meaning of a first byte that is not a character by itself. -/
def lead?
    (byte : Nat) :
    Option Lead :=
  if 0xC2 ≤ byte ∧ byte ≤ 0xDF then
    some ⟨1, 0x80, 0xBF, byte - 0xC0⟩
  else if byte = 0xE0 then
    some ⟨2, 0xA0, 0xBF, 0⟩
  else if byte = 0xED then
    some ⟨2, 0x80, 0x9F, byte - 0xE0⟩
  else if 0xE1 ≤ byte ∧ byte ≤ 0xEF then
    some ⟨2, 0x80, 0xBF, byte - 0xE0⟩
  else if byte = 0xF0 then
    some ⟨3, 0x90, 0xBF, 0⟩
  else if 0xF1 ≤ byte ∧ byte ≤ 0xF3 then
    some ⟨3, 0x80, 0xBF, byte - 0xF0⟩
  else if byte = 0xF4 then
    some ⟨3, 0x80, 0x8F, byte - 0xF0⟩
  else
    none

/-- What bytes begin with. -/
inductive Item where
  | char (char : Char) (rest : List UInt8)
  /-- The first `size` bytes begin no character. -/
  | malformed (size : Nat)
  /-- The bytes are the beginning of a character. -/
  | cut
  deriving Repr, DecidableEq

/-- Read `following` more bytes behind `size` bytes of a character. -/
def readFollowing
    (size value : Nat) :
    (following : Nat) →
    List UInt8 →
    Item
  | 0, bytes =>
      .char (.ofNat value) bytes
  | _ + 1, [] =>
      .cut
  | following + 1, byte :: rest =>
      if 0x80 ≤ byte.toNat ∧ byte.toNat ≤ 0xBF then
        readFollowing (size + 1) (value * 0x40 + (byte.toNat - 0x80)) following rest
      else
        .malformed size

/-- Read the bytes behind a first byte. -/
def readBehind
    (lead : Lead) :
    List UInt8 →
    Item
  | [] =>
      .cut
  | byte :: rest =>
      if lead.least ≤ byte.toNat ∧ byte.toNat ≤ lead.greatest then
        readFollowing 2 (lead.value * 0x40 + (byte.toNat - 0x80)) (lead.following - 1) rest
      else
        .malformed 1

/-- Read one character. -/
def read
    (first : UInt8)
    (rest : List UInt8) :
    Item :=
  if first.toNat < 0x80 then
    .char (.ofNat first.toNat) rest
  else
    match lead? first.toNat with
    | none =>
        .malformed 1
    | some lead =>
        readBehind lead rest

theorem readFollowing_le
    {size value following : Nat}
    {bytes rest : List UInt8}
    {char : Char}
    (item : readFollowing size value following bytes = .char char rest) :
    rest.length ≤ bytes.length := by
  fun_induction readFollowing size value following bytes with
  | case1 =>
      cases item
      exact Nat.le_refl _
  | case2 =>
      contradiction
  | case3 _ _ _ _ tail _ inductionHypothesis =>
      have := inductionHypothesis item
      simp only [List.length_cons]
      omega
  | case4 =>
      contradiction

theorem read_le
    {first : UInt8}
    {bytes rest : List UInt8}
    {char : Char}
    (item : read first bytes = .char char rest) :
    rest.length ≤ bytes.length := by
  unfold read at item
  split at item
  · cases item
    exact Nat.le_refl _
  · split at item
    · contradiction
    · unfold readBehind at item
      split at item
      · contradiction
      · split at item
        · have := readFollowing_le item
          simp only [List.length_cons]
          omega
        · contradiction

/-- The characters at the beginning of some bytes, and the bytes behind them. -/
structure Decoded where
  chars : List Char
  /-- The bytes behind the characters. -/
  rest : List UInt8
  /-- How many of those bytes are malformed, unless they are merely cut off. -/
  malformed : Option Nat
  deriving Repr, DecidableEq

/-- Put a character in front. -/
def Decoded.cons
    (char : Char)
    (decoded : Decoded) :
    Decoded :=
  { decoded with chars := char :: decoded.chars }

/-- Read characters until the bytes end, or are malformed, or are cut off. -/
def decode : List UInt8 → Decoded
  | [] =>
      ⟨[], [], none⟩
  | first :: rest =>
      match _ : read first rest with
      | .char char rest =>
          (decode rest).cons char
      | .malformed size =>
          ⟨[], first :: rest, some size⟩
      | .cut =>
          ⟨[], first :: rest, none⟩
  termination_by bytes => bytes.length
  decreasing_by
    have := read_le ‹_›
    simp only [List.length_cons]
    omega

/-- Every character takes at least one byte, and the other bytes are left over. -/
theorem length_decode_le
    (bytes : List UInt8) :
    (decode bytes).chars.length + (decode bytes).rest.length ≤ bytes.length := by
  fun_induction decode bytes with
  | case1 =>
      simp
  | case2 _ _ _ _ item inductionHypothesis =>
      have := read_le item
      simp only [Decoded.cons, List.length_cons]
      omega
  | case3 =>
      simp
  | case4 =>
      simp

/-- Stands for bytes that are no character. -/
def replacementCharacter : Char :=
  '\ufffd'

/-- The characters of some bytes, where each malformed or cut off stretch becomes one character. -/
def decodeLossy : List UInt8 → List Char
  | [] =>
      []
  | first :: rest =>
      match _ : read first rest with
      | .char char rest =>
          char :: decodeLossy rest
      | .malformed size =>
          replacementCharacter :: decodeLossy (rest.drop (size - 1))
      | .cut =>
          [replacementCharacter]
  termination_by bytes => bytes.length
  decreasing_by
    · have := read_le ‹_›
      simp only [List.length_cons]
      omega
    · simp only [List.length_drop, List.length_cons]
      omega

/-- The bytes of a text. -/
def encode
    (text : List Char) :
    List UInt8 :=
  text.flatMap String.utf8EncodeChar

end LexicalAutomata.Utf8
