import LexicalAutomata.Proofs.Expression.Steps

namespace LexicalAutomata.Cursor

/-!
# What is left behind a reader

Every reader goes forward only: the text behind what it has read is the end of the text
that it was given.
-/

variable {cursor opening after : Cursor} {caseInsensitive : Bool} {groups : Nat}

/-- Going on by some characters leaves the end of the text. -/
theorem suffix_advance
    (cursor : Cursor)
    (count : Nat) :
    (cursor.advance count).rest <:+ cursor.rest :=
  List.drop_suffix _ _

/-- A run goes up to the end of the text, or to a character that lacks the property. -/
theorem exists_behind_run
    (cursor : Cursor)
    (property : Char → Bool) :
    ∃ behind : List Char,
      cursor.rest = cursor.run property ++ behind ∧
        ∀ char ∈ behind.head?, property char = false := by
  refine ⟨_, List.takeWhile_append_dropWhile.symm, ?_⟩
  intro char first
  have stops := List.head?_dropWhile_not property cursor.rest
  rw [Option.mem_def.mp first] at stops
  exact stops

section Number

variable {quantifier : Quantifier}

/-- What is behind one character is the end of the text that was given. -/
theorem suffix_of_next
    {char : Char}
    (read : cursor.next = .ok (char, after)) :
    after.rest <:+ cursor.rest := by
  unfold next at read
  split at read
  · contradiction
  · cases read
    exact cursor.suffix_advance 1

/-- What is behind a required character is the end of the text that was given. -/
theorem suffix_of_require
    {wanted : Char}
    (read : cursor.require wanted = .ok after) :
    after.rest <:+ cursor.rest := by
  obtain ⟨⟨found, next⟩, first, second⟩ := bind_eq_ok_iff.mp read
  dsimp only at second
  split at second
  · cases second
    exact suffix_of_next first
  · contradiction

/-- The digits of a number stand at the front of the text. -/
theorem suffix_of_readNumber
    {value : Nat}
    (read : cursor.readNumber = .ok (value, after)) :
    after.rest <:+ cursor.rest := by
  unfold readNumber at read
  dsimp only at read
  split at read
  · contradiction
  · split at read
    · contradiction
    · cases read
      exact cursor.suffix_advance _

/-- Closing the bounds reads the brace and nothing else. -/
theorem suffix_of_closeBounds
    {bounds : Quantifier}
    (read : closeBounds opening bounds cursor = .ok (quantifier, after)) :
    after.rest <:+ cursor.rest := by
  obtain ⟨closed, first, second⟩ := bind_eq_ok_iff.mp read
  have suffix := suffix_of_require first
  split at second
  · cases second
    exact suffix
  · split at second
    · contradiction
    · cases second
      exact suffix

/-- A maximum is read off the front, whether it is given or left out. -/
theorem suffix_of_readMaximum
    {minimum : Nat}
    (read : readMaximum opening minimum cursor = .ok (quantifier, after)) :
    after.rest <:+ cursor.rest := by
  unfold readMaximum at read
  split at read
  · exact suffix_of_closeBounds read
  · obtain ⟨⟨maximum, next⟩, first, second⟩ := bind_eq_ok_iff.mp read
    exact (suffix_of_closeBounds second).trans (suffix_of_readNumber first)

/-- Bounds go on from the opening brace, through the numbers, to behind the closing one. -/
theorem suffix_of_readBounds
    (read : readBounds opening = .ok (quantifier, after)) :
    after.rest <:+ opening.rest := by
  obtain ⟨⟨minimum, next⟩, first, second⟩ := bind_eq_ok_iff.mp read
  have behindNumber := (suffix_of_readNumber first).trans (opening.suffix_advance 1)
  dsimp only at second
  split at second
  · exact ((suffix_of_readMaximum second).trans (next.suffix_advance 1)).trans behindNumber
  · exact (suffix_of_closeBounds second).trans behindNumber

/-- A quantifier is read off the front, and where there is none nothing is read. -/
theorem suffix_of_readQuantifier
    (read : cursor.readQuantifier = .ok (quantifier, after)) :
    after.rest <:+ cursor.rest := by
  unfold readQuantifier at read
  split at read
  case h_4 =>
    exact suffix_of_readBounds read
  case h_5 =>
    cases read
    exact List.suffix_rfl
  all_goals
    cases read
    exact cursor.suffix_advance 1

end Number

section Escape

variable {char : Char} {value : Nat}

/-- An octal escape ends behind its digits. -/
theorem suffix_of_readOctal
    (read : readOctal opening cursor = .ok (char, after)) :
    after.rest <:+ cursor.rest := by
  unfold readOctal at read
  split at read
  · contradiction
  · obtain ⟨_, _, second⟩ := bind_eq_ok_iff.mp read
    cases second
    exact cursor.suffix_advance _

/-- A hexadecimal number ends behind its digits. -/
theorem suffix_of_readHex
    {count : Nat}
    (read : readHex opening count cursor = .ok (value, after)) :
    after.rest <:+ cursor.rest := by
  unfold readHex at read
  dsimp only at read
  split at read
  · split at read
    · contradiction
    · cases read
      exact cursor.suffix_advance _
  · contradiction

/-- A hexadecimal number in braces ends behind the closing one. -/
theorem suffix_of_readBracedHex
    (read : readBracedHex opening cursor = .ok (value, after)) :
    after.rest <:+ cursor.rest := by
  unfold readBracedHex at read
  dsimp only at read
  split at read
  · contradiction
  · obtain ⟨⟨codePoint, next⟩, first, second⟩ := bind_eq_ok_iff.mp read
    obtain ⟨closed, third, fourth⟩ := bind_eq_ok_iff.mp second
    cases fourth
    exact (suffix_of_require third).trans (suffix_of_readHex first)

/-- A code point is read off the front, with braces or without them. -/
theorem suffix_of_readCodePoint
    (read : readCodePoint opening cursor = .ok (value, after)) :
    after.rest <:+ cursor.rest := by
  unfold readCodePoint at read
  split at read
  · exact (suffix_of_readBracedHex read).trans (cursor.suffix_advance 1)
  · exact suffix_of_readHex read

/-- A control escape ends behind its letter. -/
theorem suffix_of_readControl
    (read : readControl opening cursor = .ok (char, after)) :
    after.rest <:+ cursor.rest := by
  obtain ⟨⟨letter, next⟩, first, second⟩ := bind_eq_ok_iff.mp read
  dsimp only at second
  split at second
  · obtain ⟨control, _, third⟩ := bind_eq_ok_iff.mp second
    cases third
    exact suffix_of_next first
  · contradiction

/-- The name of a class is read off the front, with braces or as a single letter. -/
theorem suffix_of_readClassName
    {name : String}
    (read : cursor.readClassName = .ok (name, after)) :
    after.rest <:+ cursor.rest := by
  unfold readClassName at read
  dsimp only at read
  split at read
  · split at read
    · contradiction
    · cases read
      exact ((cursor.advance _).suffix_advance 1).trans (cursor.suffix_advance _)
  · obtain ⟨⟨letter, next⟩, first, second⟩ := bind_eq_ok_iff.mp read
    cases second
    exact suffix_of_next first

/-- Looking the class up reads nothing further than its name. -/
theorem suffix_of_readNamedClass
    [PropertyParser]
    {points : CodePointSet}
    (read : cursor.readNamedClass caseInsensitive = .ok (points, after)) :
    after.rest <:+ cursor.rest := by
  obtain ⟨⟨name, next⟩, first, second⟩ := bind_eq_ok_iff.mp read
  dsimp only at second
  split at second
  · contradiction
  · cases second
    exact suffix_of_readClassName first

/-- An escape with more than a letter is read off the front, whatever the letter calls for. -/
theorem suffix_of_readLongEscape
    [PropertyParser]
    {letter : Char}
    {escaped : Escaped}
    (read : readLongEscape caseInsensitive opening letter cursor = .ok (escaped, after)) :
    after.rest <:+ cursor.rest := by
  unfold readLongEscape at read
  split at read
  · obtain ⟨⟨char, next⟩, first, second⟩ := bind_eq_ok_iff.mp read
    cases second
    exact suffix_of_readOctal first
  · obtain ⟨⟨codePoint, next⟩, first, second⟩ := bind_eq_ok_iff.mp read
    obtain ⟨char, _, third⟩ := bind_eq_ok_iff.mp second
    cases third
    exact suffix_of_readCodePoint first
  · obtain ⟨⟨codePoint, next⟩, first, second⟩ := bind_eq_ok_iff.mp read
    obtain ⟨char, _, third⟩ := bind_eq_ok_iff.mp second
    cases third
    exact suffix_of_readHex first
  · obtain ⟨⟨char, next⟩, first, second⟩ := bind_eq_ok_iff.mp read
    cases second
    exact suffix_of_readControl first
  · obtain ⟨⟨points, next⟩, first, second⟩ := bind_eq_ok_iff.mp read
    cases second
    exact suffix_of_readNamedClass first
  · obtain ⟨⟨points, next⟩, first, second⟩ := bind_eq_ok_iff.mp read
    cases second
    exact suffix_of_readNamedClass first
  · contradiction

/-- What is behind an escape is the end of the text at its backslash. -/
theorem suffix_of_readEscape
    [PropertyParser]
    {escaped : Escaped}
    (read : readEscape caseInsensitive opening = .ok (escaped, after)) :
    after.rest <:+ opening.rest := by
  unfold readEscape at read
  split at read
  · contradiction
  · split at read
    · cases read
      exact opening.suffix_advance 2
    · exact (suffix_of_readLongEscape read).trans (opening.suffix_advance 2)

end Escape

section Class

variable {frame : ClassFrame} {outer : List ClassFrame} {points : CodePointSet}

/-- Opening a class reads the bracket, and the caret where there is one. -/
theorem suffix_of_openClass
    {depth : Nat}
    (read : cursor.openClass depth = .ok (frame, after)) :
    after.rest <:+ cursor.rest := by
  unfold openClass at read
  split at read
  · contradiction
  · split at read
    · cases read
      exact cursor.suffix_advance 2
    · cases read
      exact cursor.suffix_advance 1

/-- The end of a span is read off the front, as a character or as an escape. -/
theorem suffix_of_readSpanEnd
    [PropertyParser]
    {last : Char}
    (read : readSpanEnd caseInsensitive cursor = .ok (last, after)) :
    after.rest <:+ cursor.rest := by
  unfold readSpanEnd at read
  dsimp only at read
  split at read
  · obtain ⟨⟨escaped, next⟩, first, second⟩ := bind_eq_ok_iff.mp read
    dsimp only at second
    split at second
    · cases second
      exact (suffix_of_readEscape first).trans (cursor.suffix_advance 1)
    · contradiction
  · contradiction
  · exact (suffix_of_next read).trans (cursor.suffix_advance 1)

/-- An entry that begins with a character goes on forward only. -/
theorem suffix_of_readSpan
    [PropertyParser]
    {first : Char}
    (read : readSpan caseInsensitive first cursor = .ok (points, after)) :
    after.rest <:+ cursor.rest := by
  unfold readSpan at read
  split at read
  · obtain ⟨⟨last, next⟩, readEnd, second⟩ := bind_eq_ok_iff.mp read
    dsimp only at second
    split at second
    · contradiction
    · cases second
      exact suffix_of_readSpanEnd readEnd
  · cases read
    exact List.suffix_rfl

/-- What is behind an entry of a class is the end of the text in front of it. -/
theorem suffix_of_readEntry
    [PropertyParser]
    (read : readEntry caseInsensitive cursor = .ok (points, after)) :
    after.rest <:+ cursor.rest := by
  unfold readEntry at read
  split at read
  · cases read
    exact cursor.suffix_advance 1
  · obtain ⟨⟨escaped, next⟩, first, second⟩ := bind_eq_ok_iff.mp read
    have suffix := suffix_of_readEscape first
    dsimp only at second
    split at second
    · exact (suffix_of_readSpan second).trans suffix
    · cases second
      exact suffix
    · contradiction
  · obtain ⟨⟨char, next⟩, first, second⟩ := bind_eq_ok_iff.mp read
    exact (suffix_of_readSpan second).trans (suffix_of_next first)

/-- A step inside a class goes forward, whether it opens, closes or adds to one. -/
theorem suffix_of_readInClass
    [PropertyParser]
    {progress : ClassProgress}
    (read : readInClass caseInsensitive groups frame outer cursor = .ok (progress, after)) :
    after.rest <:+ cursor.rest := by
  unfold readInClass at read
  split at read
  · contradiction
  · split at read
    · cases read
      exact cursor.suffix_advance 1
    · contradiction
  · split at read
    · cases read
      exact cursor.suffix_advance 2
    · contradiction
  · obtain ⟨⟨inner, next⟩, first, second⟩ := bind_eq_ok_iff.mp read
    cases second
    exact suffix_of_openClass first
  · obtain ⟨⟨entry, next⟩, first, second⟩ := bind_eq_ok_iff.mp read
    cases second
    exact suffix_of_readEntry first

/-- What is behind a class is the end of the text at any moment inside it. -/
theorem suffix_of_readClassBody
    [PropertyParser]
    (read : readClassBody caseInsensitive groups frame outer cursor = .ok (points, after)) :
    after.rest <:+ cursor.rest := by
  fun_induction readClassBody caseInsensitive groups frame outer cursor with
  | case1 =>
      contradiction
  | case2 _ _ _ _ _ step =>
      cases read
      exact suffix_of_readInClass step
  | case3 _ _ _ _ _ _ step inductionHypothesis =>
      exact (inductionHypothesis read).trans (suffix_of_readInClass step)

/-- What is behind a class is the end of the text at its bracket. -/
theorem suffix_of_readClass
    [PropertyParser]
    (read : cursor.readClass caseInsensitive groups = .ok (points, after)) :
    after.rest <:+ cursor.rest := by
  obtain ⟨⟨frame, next⟩, first, second⟩ := bind_eq_ok_iff.mp read
  exact (suffix_of_readClassBody second).trans (suffix_of_openClass first)

end Class

section Expression

/-- A label is read off the front of the text. -/
theorem suffix_of_readLabel
    [PropertyParser]
    {label : Label}
    (read : readLabel caseInsensitive groups cursor = .ok (label, after)) :
    after.rest <:+ cursor.rest := by
  unfold readLabel at read
  split at read
  · obtain ⟨⟨points, next⟩, first, second⟩ := bind_eq_ok_iff.mp read
    cases second
    exact suffix_of_readClass first
  · obtain ⟨⟨escaped, next⟩, first, second⟩ := bind_eq_ok_iff.mp read
    cases second
    exact suffix_of_readEscape first
  · cases read
    exact cursor.suffix_advance 1
  · cases read
    exact cursor.suffix_advance 1
  · cases read
    exact cursor.suffix_advance 1
  · split at read
    · contradiction
    · split at read
      · contradiction
      · cases read
        exact cursor.suffix_advance 1
  · contradiction

/-- A step of the reader leaves the end of the text it has come to. -/
theorem suffix_of_readInExpression
    [PropertyParser]
    {level : Level}
    {outer : List GroupFrame}
    {progress : ExpressionProgress}
    (read : readInExpression caseInsensitive level outer cursor = .ok (progress, after)) :
    after.rest <:+ cursor.rest := by
  cases expressionStep_of_readInExpression read with
  | ended =>
      exact List.suffix_rfl
  | barred | opened =>
      exact cursor.suffix_advance 1
  | closed _ _ _ quantifierRead =>
      exact (suffix_of_readQuantifier quantifierRead).trans (cursor.suffix_advance 1)
  | labelled _ _ labelRead quantifierRead =>
      exact (suffix_of_readQuantifier quantifierRead).trans (suffix_of_readLabel labelRead)

end Expression

end LexicalAutomata.Cursor
