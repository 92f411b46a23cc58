import LexicalAutomata.Expression.Scanner
import LexicalAutomata.Proofs.Expression.Safety

namespace LexicalAutomata

/-!
# A scanner keeps step with a cursor

A scanner at the offset of a cursor takes only slices that begin and end between two characters
of the text.  It refuses the text for the same fault and at the same offset as the reader of
the cursor, or it reads the same and stands where the cursor is then.
-/

/-- A scanner is where a cursor is; what is open, and what is literal, is as in another state. -/
structure Scanner.Stands
    (scanner : Scanner)
    (text : List Char)
    (base : Scanner)
    (cursor : Cursor) : Prop where
  lies : cursor.LiesIn text
  index : scanner.index = cursor.offset
  depth : scanner.depth = base.depth
  literal : scanner.literal = base.literal

namespace Scanner

/-- What has been noted, and something else that the expression must be to be literal. -/
def noting
    (scanner : Scanner)
    (plain : Bool) :
    Scanner :=
  { scanner with literal := scanner.literal && plain }

end Scanner

namespace Scan

/--
A scan has a result, refuses the text only as the whole reading of it does, and otherwise ends
as is said of its value and of the last state.
-/
def Follows
    {α β : Type}
    (whole : Except TextError β)
    (ends : α → Scanner → Prop)
    (outcome : ExceptT TextError Option (α × Scanner)) :
    Prop :=
  match outcome.run with
  | none =>
      False
  | some (.error error) =>
      whole = .error error
  | some (.ok (value, last)) =>
      ends value last

/-- A scan follows a reader with the same value, and ends where the reader ends. -/
def Tracks
    {α : Type}
    (text : List Char)
    (base : Scanner)
    (read : Except TextError (α × Cursor))
    (outcome : ExceptT TextError Option (α × Scanner)) :
    Prop :=
  Follows read (fun value last => ∃ after, read = .ok (value, after) ∧ last.Stands text base after)
    outcome

section Rules

variable {α β γ δ : Type} {scan : Scan α} {next : α → Scan β} {scanner base : Scanner}
  {text : List Char} {cursor : Cursor} {whole : Except TextError γ}
  {ends : α → Scanner → Prop} {endsBehind : β → Scanner → Prop}

/-- What a scan behind another one comes to. -/
theorem bind_run
    (scan : Scan α)
    (next : α → Scan β)
    (scanner : Scanner) :
    ((scan >>= next) scanner).run =
      match (scan scanner).run with
      | none => none
      | some (.error error) => some (.error error)
      | some (.ok (value, last)) => (next value last).run := by
  change ((scan >>= next).run scanner).run = match (scan.run scanner).run with
    | none => none
    | some (.error error) => some (.error error)
    | some (.ok (value, last)) => (next value last).run
  rw [StateT.run_bind, ExceptT.run_bind]
  cases (scan.run scanner).run with
  | none =>
      rfl
  | some result =>
      cases result <;> rfl

/-- A scan that follows a part of a reading follows the whole one. -/
theorem Follows.imp
    {read : Except TextError δ}
    {outcome : ExceptT TextError Option (α × Scanner)}
    {weaker : α → Scanner → Prop}
    (follows : Follows read ends outcome)
    (refuses : ∀ error, read = .error error → whole = .error error)
    (weaken : ∀ value last, ends value last → weaker value last) :
    Follows whole weaker outcome := by
  unfold Follows at *
  split at follows
  · exact follows
  · exact refuses _ follows
  · exact weaken _ _ follows

/-- Less may be said of where a scan ends. -/
theorem Follows.mono
    {outcome : ExceptT TextError Option (α × Scanner)}
    {weaker : α → Scanner → Prop}
    (follows : Follows whole ends outcome)
    (weaken : ∀ value last, ends value last → weaker value last) :
    Follows whole weaker outcome :=
  follows.imp (fun _ => id) weaken

/-- One scan behind another one; the first may follow a part of the whole reading. -/
theorem Follows.bind
    {read : Except TextError δ}
    (first : Follows read ends (scan scanner))
    (refuses : ∀ error, read = .error error → whole = .error error)
    (goesOn : ∀ value last, ends value last → Follows whole endsBehind (next value last)) :
    Follows whole endsBehind ((scan >>= next) scanner) := by
  unfold Follows at first
  rw [Follows, bind_run]
  split at first
  · exact first.elim
  · exact refuses _ first
  · exact goesOn _ _ first

/-- A scan that keeps step, and another one behind it that goes on from there. -/
theorem Tracks.follows
    {read : Except TextError (α × Cursor)}
    {behind : α × Cursor → Except TextError γ}
    (first : Tracks text base read (scan scanner))
    (goesOn :
      ∀ value after last,
        read = .ok (value, after) →
          last.Stands text base after →
            Follows (behind (value, after)) endsBehind (next value last)) :
    Follows (read >>= behind) endsBehind ((scan >>= next) scanner) := by
  refine Follows.bind first ?_ ?_
  · rintro error failed
    rw [failed]
    rfl
  · rintro value last ⟨after, isRead, stands⟩
    have followed := goesOn value after last isRead stands
    rw [isRead]
    exact followed

/-- Two scans that keep step, one behind the other. -/
theorem Tracks.bind
    {read : Except TextError (α × Cursor)}
    {behind : α × Cursor → Except TextError (β × Cursor)}
    (first : Tracks text base read (scan scanner))
    (goesOn :
      ∀ value after last,
        read = .ok (value, after) →
          last.Stands text base after →
            Tracks text base (behind (value, after)) (next value last)) :
    Tracks text base (read >>= behind) ((scan >>= next) scanner) := by
  refine first.follows fun value after last isRead stands => ?_
  have goes := goesOn value after last isRead stands
  unfold Tracks at goes
  rw [isRead]
  exact goes

/-- A scan that gives a value goes on with it. -/
theorem run_ok_bind
    {value : α}
    {last : Scanner}
    (run : (scan scanner).run = some (.ok (value, last)))
    (next : α → Scan β) :
    (scan >>= next) scanner = next value last := by
  refine ExceptT.ext ?_
  rw [bind_run, run]

/-- A reader that gives a value goes on with it. -/
theorem ok_bind
    (value : α)
    (behind : α → Except TextError β) :
    (Except.ok value >>= behind) = behind value :=
  rfl

/-- Looking at the state leaves it as it is. -/
theorem get_bind
    (next : Scanner → Scan β)
    (scanner : Scanner) :
    (get >>= next) scanner = next scanner scanner :=
  rfl

/-- A change of the state is there for what is behind it. -/
theorem modify_bind
    (change : Scanner → Scanner)
    (next : PUnit → Scan β)
    (scanner : Scanner) :
    (modify change >>= next) scanner = next ⟨⟩ (change scanner) :=
  rfl

/-- A value that is not missing is gone on with. -/
theorem checked_bind
    (value : α)
    (next : α → Scan β)
    (scanner : Scanner) :
    (checked (some value) >>= next) scanner = next value scanner :=
  rfl

end Rules

end Scan

/-- Two ways on are one. -/
theorem Cursor.advance_advance
    (cursor : Cursor)
    (first second : Nat) :
    (cursor.advance first).advance second = cursor.advance (first + second) := by
  simp only [advance, List.drop_drop, List.take_add, Text.byteLength_append, Nat.add_assoc]

namespace Scanner

variable {scanner base : Scanner} {text chars : List Char} {cursor : Cursor}

/-- Behind some of the characters that are next. -/
theorem Stands.skip
    (stands : scanner.Stands text base cursor)
    (ahead : chars <+: cursor.rest) :
    (scanner.skip (Text.byteLength chars)).Stands text base (cursor.advance chars.length) where
  lies := stands.lies.advance _
  index := by
    rw [Cursor.advance, ← List.prefix_iff_eq_take.mp ahead, ← stands.index]
    rfl
  depth := stands.depth
  literal := stands.literal

/-- Behind some of the characters that are next, which count as the last one. -/
theorem Stands.pass
    (stands : scanner.Stands text base cursor)
    (ahead : chars <+: cursor.rest) :
    (scanner.pass (Text.byteLength chars)).Stands text base (cursor.advance chars.length) where
  lies := stands.lies.advance _
  index := (stands.skip ahead).index
  depth := stands.depth
  literal := stands.literal

/-- Some of the characters that are next, as a slice of the text. -/
theorem Stands.slice?_eq
    (stands : scanner.Stands text base cursor)
    (ahead : chars <+: cursor.rest) :
    Text.slice? text scanner.index (scanner.index + Text.byteLength chars) = some chars := by
  obtain ⟨front, split, same⟩ := stands.lies
  obtain ⟨back, shape⟩ := ahead
  rw [stands.index, same, split, ← shape, Text.slice?_append]

/-- No more characters are ahead than the text has. -/
theorem Stands.length_rest_lt
    (stands : scanner.Stands text base cursor) :
    cursor.rest.length < text.length + 1 := by
  obtain ⟨front, split, _⟩ := stands.lies
  rw [split, List.length_append]
  omega

/-- With one more group or class open. -/
theorem Stands.nest
    (stands : scanner.Stands text base cursor) :
    scanner.deeper.Stands text base.deeper cursor where
  lies := stands.lies
  index := stands.index
  depth := congrArg (· + 1) stands.depth
  literal := stands.literal

/-- With other groups and classes open. -/
theorem Stands.withDepth
    (stands : scanner.Stands text base cursor)
    (depth : Nat) :
    { scanner with depth : Scanner }.Stands text { base with depth } cursor where
  lies := stands.lies
  index := stands.index
  depth := rfl
  literal := stands.literal

/-- A text of one character is next if the character is. -/
theorem singleton_prefix_iff
    {char : Char} :
    [char] <+: cursor.rest ↔ cursor.peek? = some char := by
  rw [Cursor.peek?]
  cases cursor.rest with
  | nil =>
      simp
  | cons head tail =>
      simp [eq_comm]

/-- Behind the next character. -/
theorem Stands.pass_one
    {char : Char}
    (stands : scanner.Stands text base cursor)
    (present : cursor.peek? = some char) :
    (scanner.pass char.utf8Size).Stands text base (cursor.advance 1) :=
  stands.pass (singleton_prefix_iff.mpr present)

end Scanner

namespace Scan

section Primitives

variable {α β : Type} {scanner base : Scanner} {text : List Char} {cursor : Cursor}

/-- Ending without another step. -/
theorem tracks_pure
    (stands : scanner.Stands text base cursor)
    (value : α) :
    Tracks text base (.ok (value, cursor)) ((pure value : Scan α) scanner) :=
  ⟨cursor, rfl, stands⟩

/-- A scanner refuses the text where the cursor is. -/
theorem follows_failHere
    {γ : Type}
    {ends : α → Scanner → Prop}
    (stands : scanner.Stands text base cursor)
    (fault : Fault) :
    Follows (cursor.fail fault : Except TextError γ) ends
      ((failHere fault : Scan α) scanner) := by
  change cursor.fail fault = .error ⟨fault, scanner.index⟩
  rw [stands.index]
  rfl

/-- A scanner refuses the text where the cursor does. -/
theorem tracks_failHere
    (stands : scanner.Stands text base cursor)
    (fault : Fault) :
    Tracks text base (cursor.fail fault) ((failHere fault : Scan α) scanner) :=
  follows_failHere stands fault

/-- A scanner refuses the text at the last character. -/
theorem follows_failBehind
    {γ : Type}
    {ends : α → Scanner → Prop}
    (begun : scanner.lastIndex = cursor.offset)
    (fault : Fault) :
    Follows (cursor.fail fault : Except TextError γ) ends
      ((failBehind fault : Scan α) scanner) := by
  change cursor.fail fault = .error ⟨fault, scanner.lastIndex⟩
  rw [begun]
  rfl

/-- What a scanner sees ahead is what the cursor sees, as a slice between two characters. -/
theorem rest_bind
    (stands : scanner.Stands text base cursor)
    (behind : List Char → Scan β) :
    (rest text >>= behind) scanner = behind cursor.rest scanner := by
  obtain ⟨front, split, same⟩ := stands.lies
  have slice : Text.from? text scanner.index = some cursor.rest := by
    rw [stands.index, same, split, Text.from?_append]
  change (checked (Text.from? text scanner.index) >>= behind) scanner = _
  rw [slice, checked_bind]

/-- A scanner looks at the character that the cursor is in front of. -/
theorem peek_bind
    (stands : scanner.Stands text base cursor)
    (behind : Option Char → Scan β) :
    (peek text >>= behind) scanner = behind cursor.peek? scanner := by
  unfold peek
  rw [bind_assoc, rest_bind stands]
  rfl

/-- A scanner goes past the character that the cursor is in front of. -/
theorem next_eq
    {char : Char}
    (stands : scanner.Stands text base cursor)
    (present : cursor.peek? = some char) :
    next text scanner = (pure char : Scan Char) (scanner.pass char.utf8Size) := by
  unfold next
  rw [peek_bind stands, present]
  rfl

/-- At the end of the text, there is no character to read. -/
theorem next_eq_end
    (stands : scanner.Stands text base cursor)
    (ended : cursor.peek? = none) :
    next text scanner = (failHere .unexpectedEnd : Scan Char) scanner := by
  unfold next
  rw [peek_bind stands, ended]

/-- Behind a character that has been read. -/
theorem next_bind
    {char : Char}
    (stands : scanner.Stands text base cursor)
    (present : cursor.peek? = some char)
    (behind : Char → Scan β) :
    (next text >>= behind) scanner = behind char (scanner.pass char.utf8Size) :=
  run_ok_bind (congrArg ExceptT.run (next_eq stands present)) behind

/-- Nothing is gone on with behind the end of the text. -/
theorem next_bind_end
    (stands : scanner.Stands text base cursor)
    (ended : cursor.peek? = none)
    (behind : Char → Scan β) :
    (next text >>= behind) scanner = (failHere .unexpectedEnd : Scan β) scanner := by
  refine ExceptT.ext ?_
  rw [bind_run, next_eq_end stands ended]
  rfl

/-- Some characters are passed if they are next. -/
theorem bypass_bind
    (stands : scanner.Stands text base cursor)
    (chars : List Char)
    (behind : Bool → Scan β) :
    (bypass text chars >>= behind) scanner =
      if chars <+: cursor.rest then
        behind true (scanner.pass (Text.byteLength chars))
      else
        behind false scanner := by
  unfold bypass
  rw [bind_assoc, rest_bind stands]
  split
  · rfl
  · rfl

/-- One character is passed if it is next. -/
theorem bypass_one_bind
    (stands : scanner.Stands text base cursor)
    (char : Char)
    (behind : Bool → Scan β) :
    (bypass text [char] >>= behind) scanner =
      if cursor.peek? = some char then
        behind true (scanner.pass char.utf8Size)
      else
        behind false scanner := by
  simp only [bypass_bind stands, Scanner.singleton_prefix_iff]
  rfl

/-- A run of characters is measured by its bytes. -/
theorem sizeOfRun_bind
    (stands : scanner.Stands text base cursor)
    (property : Char → Bool)
    (behind : Nat → Scan β) :
    (sizeOfRun text property >>= behind) scanner =
      behind (Text.byteLength (cursor.run property)) scanner := by
  unfold sizeOfRun
  rw [bind_assoc, rest_bind stands, Text.getD_find?]
  rfl

/-- A scanner reads the next character, or refuses the text at its end. -/
theorem tracks_next
    (stands : scanner.Stands text base cursor) :
    Tracks text base cursor.next (next text scanner) := by
  unfold next Cursor.next
  rw [peek_bind stands]
  cases present : cursor.peek? with
  | none =>
      exact tracks_failHere stands _
  | some char =>
      exact ⟨_, rfl, stands.pass_one present⟩

/-- Behind a character that was required. -/
theorem tracks_require_bind
    {wanted : Char}
    {behind : Unit → Scan α}
    {goesOn : Cursor → Except TextError (α × Cursor)}
    (stands : scanner.Stands text base cursor)
    (tracks :
      ∀ last,
        last.Stands text base (cursor.advance 1) →
          Tracks text base (goesOn (cursor.advance 1)) (behind () last)) :
    Tracks text base (cursor.require wanted >>= goesOn)
      ((require text wanted >>= behind) scanner) := by
  unfold require Cursor.require Cursor.next
  cases present : cursor.peek? with
  | none =>
      simp only [bind_assoc, next_bind_end stands present]
      exact tracks_failHere stands _
  | some found =>
      simp only [bind_assoc, next_bind stands present, ok_bind]
      by_cases same : found = wanted
      · simp only [if_pos same]
        exact tracks _ (stands.pass_one present)
      · simp only [if_neg same]
        exact tracks_failHere stands _

/-- One more group or class is opened unless too many are open. -/
theorem nest_bind
    (behind : Unit → Scan β)
    (scanner : Scanner) :
    (nest >>= behind) scanner =
      if nestingLimit ≤ scanner.depth then
        (failBehind .nestingTooDeep : Scan β) scanner
      else
        behind () scanner.deeper := by
  unfold nest
  simp only [bind_assoc, get_bind]
  split
  · rfl
  · rfl

/-- A group or class that is open is closed. -/
theorem unnest_bind
    {depth : Nat}
    (isOpen : scanner.depth = depth + 1)
    (behind : Unit → Scan β) :
    (unnest >>= behind) scanner = behind () { scanner with depth } := by
  unfold unnest
  simp only [bind_assoc, get_bind, isOpen]
  rfl

end Primitives

section Number

variable {scanner base : Scanner} {text : List Char} {cursor : Cursor}

/-- A decimal number. -/
theorem tracks_readNumber
    (stands : scanner.Stands text base cursor) :
    Tracks text base cursor.readNumber (readNumber text scanner) := by
  have ahead : cursor.run Char.isDigit <+: cursor.rest :=
    List.takeWhile_prefix _
  unfold readNumber Cursor.readNumber
  simp only [get_bind, sizeOfRun_bind stands]
  cases digits : cursor.run Char.isDigit with
  | nil =>
      exact tracks_failHere stands _
  | cons digit others =>
      rw [digits] at ahead
      have something : Text.byteLength (digit :: others) ≠ 0 := by
        have := digit.utf8Size_pos
        rw [Text.byteLength_cons]
        omega
      simp only [if_neg something, modify_bind, get_bind]
      simp only [Scanner.index_skip, stands.slice?_eq ahead, checked_bind]
      by_cases tooLarge : Cursor.quantifierLimit < digitsValue 10 (digit :: others)
      · simp only [List.isEmpty_cons, Bool.false_eq_true, if_false, if_pos tooLarge]
        exact tracks_failHere stands _
      · simp only [List.isEmpty_cons, Bool.false_eq_true, if_false, if_neg tooLarge]
        exact tracks_pure (stands.skip ahead) _

/-- No number in a quantifier is above the limit. -/
theorem le_quantifierLimit_of_readNumber
    {after : Cursor}
    {value : Nat}
    (read : cursor.readNumber = .ok (value, after)) :
    value ≤ Cursor.quantifierLimit := by
  unfold Cursor.readNumber at read
  dsimp only at read
  split at read
  · contradiction
  · split at read
    · contradiction
    · cases read
      omega

/-- The brace behind the bounds of a quantifier, which must not be reversed. -/
theorem tracks_closeBounds
    {opening : Cursor}
    {minimum maximum : Nat}
    (stands : scanner.Stands text base cursor)
    (fits : minimum ≤ Cursor.quantifierLimit) :
    Tracks text base (Cursor.closeBounds opening ⟨minimum, Cursor.maximumOf maximum⟩ cursor)
      ((require text '\x7d' >>= fun _ =>
        if maximum < minimum then
          failAt opening.offset (.reversedQuantifier minimum maximum)
        else
          pure ⟨minimum, Cursor.maximumOf maximum⟩) scanner) := by
  refine tracks_require_bind stands fun last lastStands => ?_
  by_cases unbounded : maximum = Cursor.quantifierLimit
  · subst unbounded
    rw [if_neg (Nat.not_lt.mpr fits)]
    exact tracks_pure lastStands _
  · simp only [Cursor.maximumOf, if_neg unbounded]
    split
    · exact rfl
    · exact tracks_pure lastStands _

/-- The bounds of a quantifier. -/
theorem tracks_readBounds
    (stands : scanner.Stands text base cursor)
    (present : cursor.peek? = some '\x7b') :
    Tracks text base cursor.readBounds (readBounds text scanner) := by
  unfold readBounds Cursor.readBounds
  simp only [next_bind stands present, get_bind]
  refine (tracks_readNumber (stands.pass_one present)).bind
    fun minimum after last isRead lastStands => ?_
  have fits := le_quantifierLimit_of_readNumber isRead
  unfold readMaximum Cursor.readMaximum
  simp only [bind_assoc, bypass_one_bind lastStands, Scanner.lastIndex_pass, stands.index]
  by_cases comma : after.peek? = some ','
  · have behindComma := lastStands.pass_one comma
    simp only [if_pos comma, if_true, bind_assoc, peek_bind behindComma]
    by_cases unbounded : (after.advance 1).peek? = some '\x7d'
    · simp only [if_pos unbounded, pure_bind]
      exact tracks_closeBounds behindComma fits
    · simp only [if_neg unbounded]
      exact (tracks_readNumber behindComma).bind fun _ _ _ _ lastStands =>
        tracks_closeBounds lastStands fits
  · simp only [if_neg comma]
    exact tracks_closeBounds lastStands fits

/-- The quantifier behind an atom, where there may be none. -/
theorem tracks_readQuantifier
    (stands : scanner.Stands text base cursor) :
    Tracks text base cursor.readQuantifier (readQuantifier text scanner) := by
  unfold Cursor.readQuantifier
  split
  case h_4 present =>
    simp only [readQuantifier, peek_bind stands, present]
    exact tracks_readBounds stands present
  case h_5 =>
    simp only [readQuantifier, peek_bind stands, *]
    exact tracks_pure stands _
  all_goals
    rename_i present
    simp only [readQuantifier, peek_bind stands, present, next_bind stands present]
    exact tracks_pure (stands.pass_one present) _

end Number

end Scan

end LexicalAutomata
