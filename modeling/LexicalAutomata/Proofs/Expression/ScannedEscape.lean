import LexicalAutomata.Proofs.Expression.Scanning

namespace LexicalAutomata.Scan

/-!
# A scanner keeps step with escapes

Digits take one byte each, so that a scanner which counts bytes goes as far as a cursor which
counts characters.  The name of a class may hold any characters, and is a slice of the text.
-/

variable {scanner base : Scanner} {text : List Char} {cursor opening : Cursor}

/-- A digit takes one byte, as every ASCII character does. -/
theorem utf8Size_of_isHexDigit
    {char : Char}
    (isDigit : isHexDigit char = true) :
    char.utf8Size = 1 := by
  have member : char.toNat ∈ NamedClass.hexDigit :=
    (CodePointSet.contains_iff _ _).mp isDigit
  have ascii : char.toNat ≤ 0x7F := by
    simp only [NamedClass.hexDigit, NamedClass.digit, NamedClass.between, CodePointSet.span,
      CodePointSet.mem_union, CodePointSet.mem_addSpan, CodePointSet.not_mem_empty, or_false,
      Char.reduceToNat] at member
    omega
  unfold Char.utf8Size
  rw [if_pos]
  exact ascii

/-- An octal digit takes one byte too. -/
theorem utf8Size_of_isOctalDigit
    {char : Char}
    (isDigit : isOctalDigit char = true) :
    char.utf8Size = 1 := by
  simp only [isOctalDigit, Bool.and_eq_true, decide_eq_true_eq] at isDigit
  have ascii : char.val ≤ 0x7F :=
    UInt32.le_trans isDigit.2 (by decide)
  unfold Char.utf8Size
  exact if_pos ascii

/-- Where each character takes one byte, bytes are counted like characters. -/
theorem byteLength_eq_length
    {chars : List Char}
    (single : ∀ char ∈ chars, char.utf8Size = 1) :
    Text.byteLength chars = chars.length := by
  induction chars with
  | nil =>
      rfl
  | cons char others inductionHypothesis =>
      obtain ⟨first, behind⟩ := List.forall_mem_cons.mp single
      rw [Text.byteLength_cons, first, inductionHypothesis behind, List.length_cons, Nat.add_comm]

/-- The character of an escape is the last part of what is read. -/
theorem tracks_charWith
    {α : Type}
    (opening : Cursor)
    (stands : scanner.Stands text base cursor)
    (codePoint : Nat)
    (wrap : Char → α) :
    Tracks text base (opening.charWith codePoint >>= fun char => .ok (wrap char, cursor))
      ((charWith opening.offset codePoint >>= fun char => pure (wrap char)) scanner) := by
  unfold charWith Cursor.charWith
  cases charOfCodePoint? codePoint with
  | none =>
      exact rfl
  | some char =>
      exact tracks_pure stands _

/-- The octal digits at the front of a text, up to `left`, as long as the value fits. -/
def octalRun :
    (left value : Nat) →
    List Char →
    List Char
  | 0, _, _ =>
      []
  | _ + 1, _, [] =>
      []
  | left + 1, value, char :: behind =>
      if isOctalDigit char ∧ ¬ (left = 0 ∧ 0x1F < value) then
        char :: octalRun left (value * 8 + digitValue char) behind
      else
        []

/-- A scanner goes through octal digits one by one. -/
theorem readOctalDigits_run
    (left value : Nat)
    (stands : scanner.Stands text base cursor) :
    ∃ last,
      (readOctalDigits text left value scanner).run =
          some (.ok
            (((octalRun left value cursor.rest).foldl
              (fun value digit => value * 8 + digitValue digit) value,
              left - (octalRun left value cursor.rest).length), last)) ∧
        last.Stands text base (cursor.advance (octalRun left value cursor.rest).length) := by
  induction left generalizing value cursor scanner with
  | zero =>
      exact ⟨scanner, rfl, stands⟩
  | succ left inductionHypothesis =>
      unfold readOctalDigits
      rw [peek_bind stands, Cursor.peek?]
      cases shape : cursor.rest with
      | nil =>
          exact ⟨scanner, rfl, stands⟩
      | cons char behind =>
          simp only [List.head?_cons, octalRun]
          by_cases fits : isOctalDigit char = true ∧ ¬ (left = 0 ∧ 0x1F < value)
          · have skipped : (scanner.skip 1).Stands text base (cursor.advance 1) := by
              have ahead : [char] <+: cursor.rest := by
                simp [shape]
              have passed := stands.skip ahead
              rwa [Text.byteLength_cons, utf8Size_of_isOctalDigit fits.1] at passed
            obtain ⟨last, run, lastStands⟩ :=
              inductionHypothesis (value * 8 + digitValue char) skipped
            rw [Cursor.rest_advance, shape, List.drop_one, List.tail_cons] at run lastStands
            rw [Cursor.advance_advance, Nat.add_comm] at lastStands
            simp only [if_pos fits, modify_bind]
            refine ⟨last, ?_, lastStands⟩
            rw [run, List.length_cons, Nat.add_sub_add_right, List.foldl_cons]
          · simp only [if_neg fits]
            exact ⟨scanner, rfl, stands⟩

/-- The value of an octal digit is below eight. -/
theorem digitValue_lt_of_isOctalDigit
    {char : Char}
    (isDigit : isOctalDigit char = true) :
    digitValue char < 8 := by
  rw [digitValue, if_pos (isDigit_of_isOctalDigit isDigit)]
  simp only [isOctalDigit, Bool.and_eq_true, decide_eq_true_eq] at isDigit
  have atMost : char.toNat ≤ '7'.toNat := UInt32.le_iff_toNat_le.mp isDigit.2
  simp only [Char.reduceToNat] at atMost ⊢
  omega

/-- The value of three octal digits fits into a byte if that of the first two is small enough. -/
theorem octalRun_eq
    (cursor : Cursor) :
    octalRun 3 0 cursor.rest = cursor.octalDigits := by
  unfold Cursor.octalDigits Cursor.run
  rcases cursor.rest with _ | ⟨first, rest⟩
  · rfl
  by_cases isFirst : isOctalDigit first = true
  case neg =>
    simp [octalRun, isFirst]
  rcases rest with _ | ⟨second, rest⟩
  · simp [octalRun, isFirst]
  by_cases isSecond : isOctalDigit second = true
  case neg =>
    simp [octalRun, isFirst, isSecond]
  rcases rest with _ | ⟨third, rest⟩
  · simp [octalRun, isFirst, isSecond]
  by_cases isThird : isOctalDigit third = true
  case neg =>
    simp [octalRun, isFirst, isSecond, isThird]
  have small := digitValue_lt_of_isOctalDigit isThird
  have digits :
      ((first :: second :: third :: rest).takeWhile isOctalDigit).take 3 =
        [first, second, third] := by
    simp [isFirst, isSecond, isThird]
  have value :
      digitsValue 8 [first, second, third] =
        (digitValue first * 8 + digitValue second) * 8 + digitValue third := by
    simp [digitsValue]
  simp only [digits, value]
  by_cases fits : digitValue first * 8 + digitValue second ≤ 0x1F
  · rw [if_pos (by omega)]
    simp [octalRun, isFirst, isSecond, isThird, fits]
  · rw [if_neg (by omega)]
    simp [octalRun, isFirst, isSecond, fits]

/-- An octal escape. -/
theorem tracks_readOctal
    (stands : scanner.Stands text base cursor) :
    Tracks text base (Cursor.readOctal opening cursor) (readOctal text opening.offset scanner) := by
  obtain ⟨last, run, lastStands⟩ := readOctalDigits_run 3 0 stands
  rw [octalRun_eq] at run lastStands
  have few : cursor.octalDigits.length ≤ 3 := by
    unfold Cursor.octalDigits
    dsimp only
    split <;> simp only [List.length_take] <;> omega
  unfold readOctal Cursor.readOctal
  rw [run_ok_bind run]
  dsimp only
  cases digits : cursor.octalDigits with
  | nil =>
      exact rfl
  | cons digit others =>
      rw [digits] at few lastStands
      have something : 3 - (digit :: others).length ≠ 3 := by
        simp only [List.length_cons]
        omega
      simp only [if_neg something, List.isEmpty_cons, Bool.false_eq_true, if_false]
      have tracks := tracks_charWith opening lastStands
        (digitsValue 8 (digit :: others)) id
      simp only [id_eq, bind_pure] at tracks
      exact tracks

/-- Hexadecimal digits. -/
theorem tracks_readHex
    (stands : scanner.Stands text base cursor)
    (size : Nat) :
    Tracks text base (Cursor.readHex opening size cursor)
      (readHex text opening.offset size scanner) := by
  unfold readHex Cursor.readHex
  rw [rest_bind stands]
  dsimp only
  by_cases digits :
      (cursor.rest.take size).length = size ∧ (cursor.rest.take size).all isHexDigit = true
  · have single : Text.byteLength (cursor.rest.take size) = size :=
      (byteLength_eq_length fun char member =>
        utf8Size_of_isHexDigit (List.all_eq_true.mp digits.2 char member)).trans digits.1
    have split :
        Text.splitAt? cursor.rest size = some (cursor.rest.take size, cursor.rest.drop size) :=
      Text.splitAt?_eq_some_iff.mpr ⟨(List.take_append_drop _ _).symm, single.symm⟩
    simp only [split, if_pos digits, if_pos (And.intro single digits.2)]
    by_cases tooLarge : Cursor.hexLimit < digitsValue 16 (cursor.rest.take size)
    · simp only [if_pos tooLarge]
      exact rfl
    · have skipped := stands.skip (List.take_prefix size cursor.rest)
      rw [single, digits.1] at skipped
      simp only [if_neg tooLarge]
      exact tracks_pure skipped _
  · simp only [if_neg digits]
    cases split : Text.splitAt? cursor.rest size with
    | none =>
        exact rfl
    | some parts =>
        obtain ⟨front, back⟩ := parts
        obtain ⟨shape, same⟩ := Text.splitAt?_eq_some_iff.mp split
        have noDigits : ¬ (Text.byteLength front = size ∧ front.all isHexDigit = true) := by
          rintro ⟨length, allDigits⟩
          rw [byteLength_eq_length fun char member =>
            utf8Size_of_isHexDigit (List.all_eq_true.mp allDigits char member)] at length
          refine digits ⟨?_, ?_⟩ <;> rw [shape, ← length, List.take_left]
          exact allDigits
        simp only [if_neg noDigits]
        exact rfl

/-- A number of hexadecimal digits in braces. -/
theorem tracks_readBracedHex
    (stands : scanner.Stands text base cursor) :
    Tracks text base (Cursor.readBracedHex opening cursor)
      (readBracedHex text opening.offset scanner) := by
  have single : Text.byteLength (cursor.run isHexDigit) = (cursor.run isHexDigit).length :=
    byteLength_eq_length fun char member =>
      utf8Size_of_isHexDigit (List.all_eq_true.mp List.all_takeWhile char member)
  unfold readBracedHex Cursor.readBracedHex
  simp only [sizeOfRun_bind stands, single]
  cases digits : cursor.run isHexDigit with
  | nil =>
      exact tracks_failHere stands _
  | cons digit others =>
      simp only [List.length_cons, Nat.succ_ne_zero, if_false, List.isEmpty_cons,
        Bool.false_eq_true]
      exact (tracks_readHex stands _).bind fun _ _ _ _ lastStands =>
        tracks_require_bind lastStands fun _ closedStands => tracks_pure closedStands _

/-- A code point, with braces or without them. -/
theorem tracks_readCodePoint
    (stands : scanner.Stands text base cursor) :
    Tracks text base (Cursor.readCodePoint opening cursor)
      (readCodePoint text opening.offset scanner) := by
  unfold readCodePoint Cursor.readCodePoint
  simp only [bypass_one_bind stands]
  by_cases braced : cursor.peek? = some '\x7b'
  · simp only [if_pos braced, if_true]
    exact tracks_readBracedHex (stands.pass_one braced)
  · simp only [if_neg braced, Bool.false_eq_true, if_false]
    exact tracks_readHex stands 2

/-- The letter of a control character. -/
theorem tracks_readControl
    (stands : scanner.Stands text base cursor) :
    Tracks text base (Cursor.readControl opening cursor)
      (readControl text opening.offset scanner) := by
  unfold readControl Cursor.readControl Cursor.next
  cases present : cursor.peek? with
  | none =>
      rw [next_bind_end stands present]
      exact tracks_failHere stands _
  | some letter =>
      simp only [next_bind stands present, ok_bind]
      by_cases isControl : 'A' ≤ letter ∧ letter ≤ '_'
      · have tracks := tracks_charWith opening (stands.pass_one present)
          (letter.toNat - 'A'.toNat + 1) id
        simp only [id_eq, bind_pure] at tracks
        simp only [if_pos isControl]
        exact tracks
      · simp only [if_neg isControl]
        exact tracks_failHere stands _

/-- The name of a class up to its closing brace. -/
theorem tracks_readBracedName
    (stands : scanner.Stands text base (cursor.advance 1)) :
    Tracks text base
      (let name := (cursor.advance 1).run (· != '\x7d')
      let behind := cursor.advance (1 + name.length)
      if behind.rest.isEmpty then
        cursor.fail .unclosedClassName
      else
        .ok (.ofList name, behind.advance 1))
      (readBracedName text cursor.offset scanner) := by
  obtain ⟨others, shape, stops⟩ := (cursor.advance 1).exists_behind_run (· != '\x7d')
  generalize isName : (cursor.advance 1).run (· != '\x7d') = name at shape ⊢
  have noBrace : ∀ char ∈ name, (char == '\x7d') = false := by
    intro char member
    rw [← isName] at member
    simpa using List.all_eq_true.mp List.all_takeWhile char member
  have behindName : (cursor.advance (1 + name.length)).rest = others := by
    rw [← Cursor.advance_advance, Cursor.rest_advance, shape, List.drop_left]
  unfold readBracedName
  rw [rest_bind stands]
  dsimp only
  rw [behindName, shape]
  cases others with
  | nil =>
      rw [List.append_nil, Text.find?_eq_none noBrace]
      exact rfl
  | cons brace others =>
      have isBrace : brace = '\x7d' := by
        simpa using stops brace rfl
      subst isBrace
      have slice := Text.slice?_append [] name ('\x7d' :: others)
      have ahead : name ++ ['\x7d'] <+: (cursor.advance 1).rest :=
        ⟨others, by rw [shape, List.append_assoc, List.singleton_append]⟩
      have skipped := stands.skip ahead
      simp only [List.nil_append, Text.byteLength_nil, Nat.zero_add] at slice
      simp only [Text.byteLength_append, List.length_append, Cursor.advance_advance,
        ← Nat.add_assoc] at skipped
      simp only [Text.find?_append noBrace (beq_self_eq_true _), slice, checked_bind, modify_bind,
        List.isEmpty_cons, Bool.false_eq_true, if_false, Cursor.advance_advance]
      exact tracks_pure skipped _

/-- The name of a class. -/
theorem tracks_readClassName
    (stands : scanner.Stands text base cursor) :
    Tracks text base cursor.readClassName (readClassName text scanner) := by
  unfold readClassName Cursor.readClassName
  simp only [get_bind, bypass_one_bind stands]
  by_cases braced : cursor.peek? = some '\x7b'
  · simp only [if_pos braced, if_true, stands.index]
    exact tracks_readBracedName (stands.pass_one braced)
  · simp only [if_neg braced, Bool.false_eq_true, if_false]
    unfold Cursor.next
    cases present : cursor.peek? with
    | none =>
        rw [next_bind_end stands present]
        exact tracks_failHere stands _
    | some char =>
        have name :
            Text.slice? text scanner.index (scanner.index + char.utf8Size) = some [char] :=
          stands.slice?_eq (Scanner.singleton_prefix_iff.mpr present)
        simp only [next_bind stands present, ok_bind, get_bind, Scanner.lastIndex_pass, name,
          checked_bind, String.singleton_eq_ofList]
        exact tracks_pure (stands.pass_one present) _

variable {caseInsensitive : Bool}

/-- A class by its name. -/
theorem tracks_readNamedClass
    [PropertyParser]
    (stands : scanner.Stands text base cursor) :
    Tracks text base (cursor.readNamedClass caseInsensitive)
      (readNamedClass text caseInsensitive scanner) := by
  unfold readNamedClass Cursor.readNamedClass
  simp only [get_bind, stands.index]
  refine (tracks_readClassName stands).bind fun name after last _ lastStands => ?_
  dsimp only
  cases NamedClass.named? name caseInsensitive with
  | none =>
      exact rfl
  | some points =>
      exact tracks_pure lastStands _

/-- What follows a letter that needs something behind it. -/
theorem tracks_readLongEscape
    [PropertyParser]
    (opening : Cursor)
    (stands : scanner.Stands text base cursor)
    (letter : Char) :
    Tracks text base (Cursor.readLongEscape caseInsensitive opening letter cursor)
      (readLongEscape text caseInsensitive opening.offset letter scanner) := by
  unfold Cursor.readLongEscape
  split
  · exact (tracks_readOctal stands).bind fun _ _ _ _ lastStands => tracks_pure lastStands _
  · exact (tracks_readCodePoint stands).bind fun _ _ _ _ lastStands =>
      tracks_charWith opening lastStands _ _
  · exact (tracks_readHex stands 4).bind fun _ _ _ _ lastStands =>
      tracks_charWith opening lastStands _ _
  · exact (tracks_readControl stands).bind fun _ _ _ _ lastStands => tracks_pure lastStands _
  · exact (tracks_readNamedClass stands).bind fun _ _ _ _ lastStands => tracks_pure lastStands _
  · exact (tracks_readNamedClass stands).bind fun _ _ _ _ lastStands => tracks_pure lastStands _
  · simp only [readLongEscape, *]
    exact rfl

/-- Boundaries have no more than a letter. -/
theorem ne_boundary_of_readLongEscape
    [PropertyParser]
    {letter : Char}
    {after : Cursor}
    {escaped : Escaped}
    (read : Cursor.readLongEscape caseInsensitive opening letter cursor = .ok (escaped, after))
    (boundary : Boundary) :
    escaped ≠ .boundary boundary := by
  rintro rfl
  unfold Cursor.readLongEscape at read
  split at read
  case h_2 | h_3 =>
    obtain ⟨_, _, second⟩ := bind_eq_ok_iff.mp read
    obtain ⟨_, _, third⟩ := bind_eq_ok_iff.mp second
    cases third
  case h_7 =>
    contradiction
  all_goals
    obtain ⟨_, _, second⟩ := bind_eq_ok_iff.mp read
    cases second

/--
An escape, the backslash of which has been read.  If it is a boundary, its letter is the last
character.
-/
theorem follows_readEscape
    [PropertyParser]
    (stands : scanner.Stands text base (opening.advance 1))
    (begun : scanner.lastIndex = opening.offset) :
    Follows (opening.readEscape caseInsensitive)
      (fun escaped last =>
        ∃ after,
          opening.readEscape caseInsensitive = .ok (escaped, after) ∧
            last.Stands text base after ∧
              ∀ boundary, escaped = .boundary boundary →
                last.lastIndex = (opening.advance 1).offset)
      (readEscape text caseInsensitive scanner) := by
  unfold readEscape
  simp only [get_bind, begun]
  cases present : (opening.advance 1).peek? with
  | none =>
      have caught :
          (tryCatch (next text) fun _ => failAt opening.offset .unfinishedEscape) scanner =
            (failAt opening.offset .unfinishedEscape : Scan Char) scanner := by
        change tryCatch (next text scanner) _ = _
        rw [next_eq_end stands present]
        rfl
      have refused :
          opening.readEscape caseInsensitive = opening.fail .unfinishedEscape := by
        simp only [Cursor.readEscape, present]
      rw [Follows, bind_run, caught]
      exact refused
  | some letter =>
      have read :
          (tryCatch (next text) fun _ => failAt opening.offset .unfinishedEscape) scanner =
            (pure letter : Scan Char) (scanner.pass letter.utf8Size) := by
        change tryCatch (next text scanner) _ = _
        rw [next_eq stands present]
        rfl
      have passed := stands.pass_one present
      rw [Cursor.advance_advance] at passed
      rw [run_ok_bind (congrArg ExceptT.run read)]
      cases short : Escaped.ofLetter? letter with
      | some escaped =>
          have isRead :
              opening.readEscape caseInsensitive = .ok (escaped, opening.advance 2) := by
            simp only [Cursor.readEscape, present, short]
          exact ⟨_, isRead, passed, fun _ _ => stands.index⟩
      | none =>
          have isRead :
              opening.readEscape caseInsensitive =
                Cursor.readLongEscape caseInsensitive opening letter (opening.advance 2) := by
            simp only [Cursor.readEscape, present, short]
          rw [isRead]
          refine (tracks_readLongEscape opening passed letter).mono fun escaped last ends => ?_
          obtain ⟨after, same, lastStands⟩ := ends
          exact ⟨after, same, lastStands, fun boundary isBoundary =>
            (ne_boundary_of_readLongEscape same boundary isBoundary).elim⟩

/-- An escape, wherever the last character is behind it. -/
theorem tracks_readEscape
    [PropertyParser]
    (stands : scanner.Stands text base (opening.advance 1))
    (begun : scanner.lastIndex = opening.offset) :
    Tracks text base (opening.readEscape caseInsensitive)
      (readEscape text caseInsensitive scanner) :=
  (follows_readEscape stands begun).mono fun _ _ ⟨after, read, lastStands, _⟩ =>
    ⟨after, read, lastStands⟩

end LexicalAutomata.Scan
