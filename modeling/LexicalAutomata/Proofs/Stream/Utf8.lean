import LexicalAutomata.Stream.Utf8

namespace LexicalAutomata.Utf8

/-!
# Reading what has been encoded

The bytes of a character are read as that character, whatever follows them, and fewer of
them are cut off.  So a beginning of the bytes of a text, wherever it ends, is read as the
characters that it has all bytes of.
-/

/-- The bytes behind a first one hold six bits each. -/
theorem toNat_following
    (value : Nat) :
    (UInt8.ofNat (value % 0x40 + 0x80)).toNat = value % 0x40 + 0x80 := by
  rw [UInt8.toNat_ofNat']
  omega

/-- A byte that follows adds its six bits. -/
theorem readFollowing_ofNat
    (size value following : Nat)
    (rest : List UInt8) :
    readFollowing size (value / 0x40) (following + 1) (.ofNat (value % 0x40 + 0x80) :: rest) =
      readFollowing (size + 1) value following rest := by
  have byte := toNat_following value
  have whole : value / 0x40 * 0x40 + (value % 0x40 + 0x80 - 0x80) = value := by
    omega
  rw [readFollowing, if_pos (by omega), byte, whole]

/-- A first byte announces a value that is continued by `following` bytes, of which `second`
is the first. -/
def Announces
    (first second following value : Nat) :
    Prop :=
  ∃ lead,
    lead? first = some lead ∧
      lead.following = following ∧
        lead.value = value ∧
          lead.least ≤ second ∧ second ≤ lead.greatest

/-- The first of two bytes announces one more. -/
theorem announces_two
    {value : Nat}
    (least : 0x80 ≤ value)
    (most : value ≤ 0x7FF) :
    Announces (value / 0x40 + 0xC0) (value % 0x40 + 0x80) 1 (value / 0x40) := by
  refine ⟨⟨1, 0x80, 0xBF, value / 0x40 + 0xC0 - 0xC0⟩, ?_, rfl, ?_, ?_, ?_⟩
  · rw [lead?, if_pos (by omega)]
  all_goals
    dsimp only
    omega

/-- The first of three bytes announces two more, which make no surrogate. -/
theorem announces_three
    {value : Nat}
    (least : 0x800 ≤ value)
    (most : value ≤ 0xFFFF)
    (noSurrogate : value < 0xD800 ∨ 0xDFFF < value) :
    Announces (value / 0x1000 + 0xE0) (value / 0x40 % 0x40 + 0x80) 2 (value / 0x40 / 0x40) := by
  unfold Announces lead?
  rw [if_neg (by omega)]
  split
  · exact ⟨_, rfl, rfl, by dsimp only; omega, by dsimp only; omega, by dsimp only; omega⟩
  · split
    · exact ⟨_, rfl, rfl, by dsimp only; omega, by dsimp only; omega, by dsimp only; omega⟩
    · rw [if_pos (by omega)]
      exact ⟨_, rfl, rfl, by dsimp only; omega, by dsimp only; omega, by dsimp only; omega⟩

/-- The first of four bytes announces three more. -/
theorem announces_four
    {value : Nat}
    (least : 0x10000 ≤ value)
    (most : value ≤ 0x10FFFF) :
    Announces (value / 0x40000 + 0xF0) (value / 0x40 / 0x40 % 0x40 + 0x80) 3
      (value / 0x40 / 0x40 / 0x40) := by
  unfold Announces lead?
  rw [if_neg (by omega), if_neg (by omega), if_neg (by omega), if_neg (by omega)]
  split
  · exact ⟨_, rfl, rfl, by dsimp only; omega, by dsimp only; omega, by dsimp only; omega⟩
  · split
    · exact ⟨_, rfl, rfl, by dsimp only; omega, by dsimp only; omega, by dsimp only; omega⟩
    · rw [if_pos (by omega)]
      exact ⟨_, rfl, rfl, by dsimp only; omega, by dsimp only; omega, by dsimp only; omega⟩

section Announces

variable {first : UInt8} {following whole : Nat}

/-- A byte that announces others is no character by itself. -/
theorem Announces.read_eq
    {second : Nat}
    (announces : Announces first.toNat second following whole) :
    ∃ lead,
      (∀ rest, read first rest = readBehind lead rest) ∧
        lead.following = following ∧
          lead.value = whole ∧
            lead.least ≤ second ∧ second ≤ lead.greatest := by
  obtain ⟨lead, found, fits⟩ := announces
  refine ⟨lead, fun rest => ?_, fits⟩
  have several : ¬ first.toNat < 0x80 := by
    intro single
    unfold lead? at found
    repeat rw [if_neg (by omega)] at found
    contradiction
  rw [read, if_neg several, found]

/-- A byte that announces more is cut off at the end. -/
theorem Announces.read_nil
    {second : Nat}
    (announces : Announces first.toNat second following whole) :
    read first [] = .cut := by
  obtain ⟨lead, reads, _⟩ := announces.read_eq
  rw [reads, readBehind]

/-- The second byte is read like the bytes behind it. -/
theorem Announces.read_cons
    (announces :
      Announces first.toNat (whole % 0x40 + 0x80) (following + 1) (whole / 0x40))
    (rest : List UInt8) :
    read first (.ofNat (whole % 0x40 + 0x80) :: rest) = readFollowing 2 whole following rest := by
  obtain ⟨lead, reads, count, value, fits⟩ := announces.read_eq
  have joined : whole / 0x40 * 0x40 + (whole % 0x40 + 0x80 - 0x80) = whole := by
    omega
  rw [reads, readBehind, toNat_following, if_pos fits, count, value, joined, Nat.add_sub_cancel]

end Announces

/-- A character is read from some bytes, and is cut off in fewer of them. -/
def ReadsAs
    (bytes : List UInt8)
    (char : Char) :
    Prop :=
  ∃ first others,
    bytes = first :: others ∧
      (∀ rest, read first (others ++ rest) = .char char rest) ∧
        ∀ count < others.length, read first (others.take count) = .cut

section ReadsAs

variable {value : Nat} {char : Char}

/-- A character of one byte is read back. -/
theorem readsAs_one
    (same : Char.ofNat value = char)
    (most : value ≤ 0x7F) :
    ReadsAs [.ofNat value] char := by
  refine ⟨_, _, rfl, fun rest => ?_, fun count less => (Nat.not_lt_zero _ less).elim⟩
  have byte : (UInt8.ofNat value).toNat = value := by
    rw [UInt8.toNat_ofNat']
    omega
  rw [read, byte, if_pos (by omega), same]
  rfl

/-- So is a character of two bytes. -/
theorem readsAs_two
    (same : Char.ofNat value = char)
    (least : 0x80 ≤ value)
    (most : value ≤ 0x7FF) :
    ReadsAs [.ofNat (value / 64 % 0x20 + 0xC0), .ofNat (value % 0x40 + 0x80)] char := by
  have byte : (UInt8.ofNat (value / 64 % 0x20 + 0xC0)).toNat = value / 0x40 + 0xC0 := by
    rw [UInt8.toNat_ofNat']
    omega
  have announces := announces_two least most
  rw [← byte] at announces
  refine ⟨_, _, rfl, ?_, ?_⟩
  · intro rest
    rw [List.singleton_append, announces.read_cons, readFollowing, same]
  · intro count less
    cases Nat.lt_one_iff.mp less
    exact announces.read_nil

/-- So is a character of three bytes. -/
theorem readsAs_three
    (same : Char.ofNat value = char)
    (least : 0x800 ≤ value)
    (most : value ≤ 0xFFFF)
    (noSurrogate : value < 0xD800 ∨ 0xDFFF < value) :
    ReadsAs
      [.ofNat (value / 4096 % 0x10 + 0xE0), .ofNat (value / 64 % 0x40 + 0x80),
        .ofNat (value % 0x40 + 0x80)]
      char := by
  have byte : (UInt8.ofNat (value / 4096 % 0x10 + 0xE0)).toNat = value / 0x1000 + 0xE0 := by
    rw [UInt8.toNat_ofNat']
    omega
  have announces := announces_three least most noSurrogate
  rw [← byte] at announces
  refine ⟨_, _, rfl, ?_, ?_⟩
  · intro rest
    rw [List.cons_append, announces.read_cons, List.singleton_append, readFollowing_ofNat,
      readFollowing, same]
  · intro count less
    match count with
    | 0 =>
        exact announces.read_nil
    | 1 =>
        exact announces.read_cons []

/-- So is a character of four bytes. -/
theorem readsAs_four
    (same : Char.ofNat value = char)
    (least : 0x10000 ≤ value)
    (most : value ≤ 0x10FFFF) :
    ReadsAs
      [.ofNat (value / 262144 % 0x08 + 0xF0), .ofNat (value / 4096 % 0x40 + 0x80),
        .ofNat (value / 64 % 0x40 + 0x80), .ofNat (value % 0x40 + 0x80)]
      char := by
  have byte : (UInt8.ofNat (value / 262144 % 0x08 + 0xF0)).toNat = value / 0x40000 + 0xF0 := by
    rw [UInt8.toNat_ofNat']
    omega
  have quotient : value / 4096 = value / 0x40 / 0x40 := by
    omega
  have announces := announces_four least most
  rw [← byte] at announces
  rw [quotient]
  refine ⟨_, _, rfl, ?_, ?_⟩
  · intro rest
    rw [List.cons_append, announces.read_cons, List.cons_append, readFollowing_ofNat,
      List.singleton_append, readFollowing_ofNat, readFollowing, same]
  · intro count less
    match count with
    | 0 =>
        exact announces.read_nil
    | 1 =>
        exact announces.read_cons []
    | 2 =>
        refine (announces.read_cons _).trans ?_
        exact readFollowing_ofNat 2 (value / 0x40) 1 []

/-- A character is read from its bytes. -/
theorem readsAs_utf8EncodeChar
    (char : Char) :
    ReadsAs (String.utf8EncodeChar char) char := by
  have same : Char.ofNat char.val.toNat = char :=
    Char.ofNat_toNat char
  have valid : char.val.toNat < 0xD800 ∨ 0xDFFF < char.val.toNat ∧ char.val.toNat < 0x110000 :=
    char.valid
  unfold String.utf8EncodeChar
  dsimp only
  split
  · exact readsAs_one same ‹_›
  · split
    · exact readsAs_two same (by omega) ‹_›
    · split
      · exact readsAs_three same (by omega) ‹_› (by omega)
      · exact readsAs_four same (by omega) (by omega)

end ReadsAs

section Decode

variable {first : UInt8} {rest others : List UInt8} {char : Char}

/-- Behind a character, decoding goes on. -/
theorem decode_of_char
    (item : read first rest = .char char others) :
    decode (first :: rest) = (decode others).cons char := by
  rw [decode]
  split <;> rename_i found <;> rw [item] at found <;> cases found
  rfl

/-- Bytes that are cut off are left for later. -/
theorem decode_of_cut
    (item : read first rest = .cut) :
    decode (first :: rest) = ⟨[], first :: rest, none⟩ := by
  rw [decode]
  split <;> rename_i found <;> rw [item] at found <;> cases found

/-- Bytes without a complete character are all left over. -/
theorem rest_decode_of_chars_eq_nil
    {bytes : List UInt8}
    (nothing : (decode bytes).chars = []) :
    (decode bytes).rest = bytes := by
  fun_induction decode bytes with
  | case2 =>
      simp [Decoded.cons] at nothing
  | _ =>
      rfl

end Decode

/-- The bytes of no character are all there, and no byte is wrong. -/
def Unfinished
    (bytes : List UInt8) :
    Prop :=
  decode bytes = ⟨[], bytes, none⟩

/-- No bytes at all are no whole character. -/
theorem unfinished_nil :
    Unfinished [] := by
  rw [Unfinished, decode]

/-- A character that is read stands in front of what is decoded behind it. -/
theorem ReadsAs.decode_append
    {bytes : List UInt8}
    {char : Char}
    (readsAs : ReadsAs bytes char)
    (rest : List UInt8) :
    decode (bytes ++ rest) = (decode rest).cons char := by
  obtain ⟨first, others, rfl, whole, _⟩ := readsAs
  exact decode_of_char (whole rest)

/-- A character with bytes missing is unfinished. -/
theorem ReadsAs.unfinished
    {front back : List UInt8}
    {char : Char}
    (readsAs : ReadsAs (front ++ back) char)
    (missing : back ≠ []) :
    Unfinished front := by
  obtain ⟨first, others, same, _, cut⟩ := readsAs
  cases front with
  | nil =>
      exact unfinished_nil
  | cons byte fewer =>
      cases same
      apply decode_of_cut
      have less : fewer.length < (fewer ++ back).length := by
        rw [List.length_append]
        exact Nat.lt_add_of_pos_right (List.length_pos_iff.mpr missing)
      have taken : read first ((fewer ++ back).take fewer.length) = .cut :=
        cut fewer.length less
      rwa [List.take_left] at taken

theorem encode_cons
    (char : Char)
    (rest : List Char) :
    encode (char :: rest) = String.utf8EncodeChar char ++ encode rest :=
  rfl

/-- The parts of a text are encoded one after the other. -/
theorem encode_append
    (first second : List Char) :
    encode (first ++ second) = encode first ++ encode second :=
  List.flatMap_append

/-- A beginning of the bytes of a text is read as the characters that are complete in it. -/
theorem decode_of_append_eq
    {text : List Char}
    {bytes later : List UInt8}
    (whole : bytes ++ later = encode text) :
    ∃ front back rest,
      text = front ++ back ∧
        decode bytes = ⟨front, rest, none⟩ ∧
          rest ++ later = encode back ∧
            Unfinished rest := by
  induction text generalizing bytes with
  | nil =>
      obtain ⟨rfl, rfl⟩ := List.append_eq_nil_iff.mp whole
      exact ⟨[], [], [], rfl, unfinished_nil, rfl, unfinished_nil⟩
  | cons char text inductionHypothesis =>
      have readsAs := readsAs_utf8EncodeChar char
      have complete :
          ∀ {more}, bytes = String.utf8EncodeChar char ++ more → more ++ later = encode text →
            ∃ front back rest,
              char :: text = front ++ back ∧
                decode bytes = ⟨front, rest, none⟩ ∧
                  rest ++ later = encode back ∧
                    Unfinished rest := by
        rintro more rfl moreWhole
        obtain ⟨front, back, rest, rfl, decoded, restWhole, unfinished⟩ :=
          inductionHypothesis moreWhole
        refine ⟨char :: front, back, rest, rfl, ?_, restWhole, unfinished⟩
        rw [readsAs.decode_append, decoded]
        rfl
      rw [encode_cons] at whole
      rcases List.append_eq_append_iff.mp whole with ⟨missing, own, behind⟩ | ⟨more, own, behind⟩
      · by_cases none : missing = []
        · rw [none, List.append_nil] at own
          rw [none, List.nil_append] at behind
          have nothingMore : bytes = String.utf8EncodeChar char ++ [] := by
            rw [List.append_nil, own]
          exact complete nothingMore behind
        · rw [own] at readsAs
          have unfinished := readsAs.unfinished none
          refine ⟨[], char :: text, bytes, rfl, unfinished, ?_, unfinished⟩
          rw [encode_cons, whole]
      · exact complete own behind.symm

/-- The bytes of a text are read as the text. -/
theorem decode_encode
    (text : List Char) :
    decode (encode text) = ⟨text, [], none⟩ := by
  induction text with
  | nil =>
      exact unfinished_nil
  | cons char text inductionHypothesis =>
      rw [encode_cons, (readsAs_utf8EncodeChar char).decode_append, inductionHypothesis]
      rfl

/-- Bytes that are a whole text and have no complete character are none. -/
theorem Unfinished.eq_nil
    {text : List Char}
    (unfinished : Unfinished (encode text)) :
    text = [] := by
  rw [Unfinished, decode_encode] at unfinished
  cases unfinished
  rfl

end LexicalAutomata.Utf8
