import LexicalAutomata.Proofs.Expression.ScannedEscape

namespace LexicalAutomata.Scan

/-!
# A scanner keeps step inside of a class

A scanner reads a class inside a class by a call of its own, where a cursor keeps the classes
that are still open on a stack.  While the scanner is in a call, what remains of reading the
whole class is what the cursor makes of the stack at that place.
-/

variable {text : List Char} {caseInsensitive : Bool} {groups : Nat} {scanner base : Scanner}
  {cursor opening dash : Cursor} {frame : ClassFrame} {outer : List ClassFrame}

section Spans

variable [PropertyParser]

/-- The last character of a span. -/
theorem tracks_readSpanEnd
    (stands : scanner.Stands text base (dash.advance 1)) :
    Tracks text base (dash.readSpanEnd caseInsensitive)
      (readSpanEnd text caseInsensitive dash.offset scanner) := by
  unfold readSpanEnd Cursor.readSpanEnd
  dsimp only
  split
  · rename_i isEscape
    have passed := stands.pass_one isEscape
    rw [next_bind stands isEscape]
    refine (tracks_readEscape passed stands.index).bind fun escaped after last _ lastStands => ?_
    cases escaped with
    | char last =>
        exact tracks_pure lastStands _
    | points | boundary =>
        exact rfl
  · rename_i opens
    rw [next_bind stands opens]
    exact rfl
  · rename_i notEscape notOpening
    unfold Cursor.next
    cases present : (dash.advance 1).peek? with
    | none =>
        rw [next_bind_end stands present]
        exact tracks_failHere stands _
    | some char =>
        rw [present, Option.some.injEq] at notEscape notOpening
        simp only [next_bind stands present]
        exact tracks_pure (stands.pass_one present) _

omit [PropertyParser] in
/-- A dash that makes a span is next. -/
theorem peek?_of_dashMakesSpan
    (makesSpan : Cursor.dashMakesSpan cursor.rest = true) :
    cursor.peek? = some '-' := by
  rw [Cursor.peek?]
  unfold Cursor.dashMakesSpan at makesSpan
  split at makesSpan
  · contradiction
  · contradiction
  · simp_all
  · contradiction

/-- What is behind the first character of an entry. -/
theorem tracks_readSpan
    (stands : scanner.Stands text base cursor)
    (first : Char) :
    Tracks text base (cursor.readSpan caseInsensitive first)
      (readSpan text caseInsensitive first scanner) := by
  unfold readSpan Cursor.readSpan
  rw [rest_bind stands]
  by_cases makesSpan : Cursor.dashMakesSpan cursor.rest = true
  · have present := peek?_of_dashMakesSpan makesSpan
    simp only [if_pos makesSpan, next_bind stands present, get_bind, Scanner.lastIndex_pass,
      stands.index]
    refine (tracks_readSpanEnd (stands.pass_one present)).bind
      fun last after state _ lastStands => ?_
    dsimp only
    split
    · exact rfl
    · exact tracks_pure lastStands _
  · simp only [if_neg makesSpan]
    exact tracks_pure stands _

/-- An entry that is not a class in brackets. -/
theorem tracks_readEntry
    {char : Char}
    (inside : Scan CodePointSet)
    (stands : scanner.Stands text base cursor)
    (present : cursor.peek? = some char)
    (plain : char ≠ '[') :
    Tracks text base (cursor.readEntry caseInsensitive)
      (readEntry text caseInsensitive inside char (scanner.pass char.utf8Size)) := by
  have passed := stands.pass_one present
  unfold readEntry Cursor.readEntry
  split
  · rename_i isDot
    cases present.symm.trans isDot
    exact tracks_pure passed _
  · rename_i isEscape
    cases present.symm.trans isEscape
    dsimp only
    unfold readEscapedEntry
    refine Follows.bind (follows_readEscape passed stands.index) ?_ ?_
    · rintro error failed
      rw [failed]
      rfl
    · rintro escaped last ⟨after, read, lastStands, isBehind⟩
      rw [read]
      cases escaped with
      | char first =>
          exact tracks_readSpan lastStands first
      | points points =>
          exact tracks_pure lastStands _
      | boundary boundary =>
          exact follows_failBehind (isBehind boundary rfl) _
  · rename_i notDot notEscape
    rw [present, Option.some.injEq] at notDot notEscape
    simp only [Cursor.next, present]
    exact tracks_readSpan passed _

end Spans

section Calls

/-- What a class comes to where it stands: the whole class, or an entry of the class around it. -/
def handBack
    (points : CodePointSet) :
    List ClassFrame →
    ClassProgress
  | [] =>
      .complete points
  | parent :: rest =>
      .inside (parent.add points) rest

/-- A class that is closed hands its set back. -/
theorem closeClass_eq
    (frame : ClassFrame)
    (outer : List ClassFrame) :
    Cursor.closeClass frame outer = handBack frame.close outer := by
  cases outer with
  | nil =>
      rfl
  | cons parent rest =>
      rfl

variable [PropertyParser] {inside : Scan CodePointSet}

/-- Reading a class on from where a step has led. -/
def readClassOn
    (caseInsensitive : Bool)
    (groups : Nat) :
    ClassProgress × Cursor →
    Except TextError (CodePointSet × Cursor)
  | (.inside frame outer, cursor) =>
      Cursor.readClassBody caseInsensitive groups frame outer cursor
  | (.complete points, cursor) =>
      .ok (points, cursor)

/-- Reading a class is one step, and reading on from where it has led. -/
theorem readClassBody_eq
    (frame : ClassFrame)
    (outer : List ClassFrame)
    (cursor : Cursor) :
    Cursor.readClassBody caseInsensitive groups frame outer cursor =
      Cursor.readInClass caseInsensitive groups frame outer cursor >>=
        readClassOn caseInsensitive groups := by
  rw [Cursor.readClassBody]
  split <;> simp_all [bind, Except.bind, readClassOn]

/-- What ends an operand is next. -/
def OperandEnds
    (cursor : Cursor) :
    Prop :=
  cursor.peek? = some ']' ∨ ['&', '&'] <+: cursor.rest

/-- An entry has been read, and has been added to the innermost class. -/
def EntryDone
    (text : List Char)
    (caseInsensitive : Bool)
    (groups : Nat)
    (base : Scanner)
    (frame : ClassFrame)
    (outer : List ClassFrame)
    (cursor : Cursor)
    (entry : CodePointSet)
    (last : Scanner) :
    Prop :=
  ∃ after,
    last.Stands text base after ∧
      after.rest.length < cursor.rest.length ∧
        Cursor.readClassBody caseInsensitive groups frame outer cursor =
          Cursor.readClassBody caseInsensitive groups (frame.add entry) outer after

/-- The rest of an operand has been read: the last operand of the innermost class is complete. -/
def OperandDone
    (text : List Char)
    (caseInsensitive : Bool)
    (groups : Nat)
    (base : Scanner)
    (frame : ClassFrame)
    (outer : List ClassFrame)
    (cursor : Cursor)
    (points : CodePointSet)
    (last : Scanner) :
    Prop :=
  ∃ after,
    last.Stands text base after ∧
      OperandEnds after ∧
        after.rest.length ≤ cursor.rest.length ∧
          Cursor.readClassBody caseInsensitive groups frame outer cursor =
            Cursor.readClassBody caseInsensitive groups
              { frame with current := points, hasEntry := true } outer after

/-- All operands have been read, and the closing bracket is next. -/
def OperandsDone
    (text : List Char)
    (caseInsensitive : Bool)
    (groups : Nat)
    (base : Scanner)
    (frame : ClassFrame)
    (outer : List ClassFrame)
    (cursor : Cursor)
    (points : CodePointSet)
    (last : Scanner) :
    Prop :=
  ∃ after complete,
    last.Stands text base after ∧
      after.peek? = some ']' ∧
        after.rest.length ≤ cursor.rest.length ∧
          complete.hasEntry = true ∧
            complete.meet = points ∧
              complete.negated = frame.negated ∧
                Cursor.readClassBody caseInsensitive groups frame outer cursor =
                  Cursor.readClassBody caseInsensitive groups complete outer after

/-- Read the class whose opening bracket is next, with other classes open around it. -/
def readClassWithin
    (caseInsensitive : Bool)
    (groups : Nat)
    (outer : List ClassFrame)
    (opening : Cursor) :
    Except TextError (CodePointSet × Cursor) :=
  opening.openClass (groups + outer.length) >>= fun (inner, after) =>
    Cursor.readClassBody caseInsensitive groups inner outer after

/-- A class has been read, and its set is handed back to the class around it. -/
def ClassDone
    (text : List Char)
    (caseInsensitive : Bool)
    (groups : Nat)
    (base : Scanner)
    (outer : List ClassFrame)
    (opening : Cursor)
    (points : CodePointSet)
    (last : Scanner) :
    Prop :=
  ∃ after,
    last.Stands text base after ∧
      after.rest.length < opening.rest.length ∧
        readClassWithin caseInsensitive groups outer opening =
          readClassOn caseInsensitive groups (handBack points outer, after)

/-- Where fewer than `bound` characters follow, the rest of a class is scanned in step. -/
def ClassFollows
    (text : List Char)
    (caseInsensitive : Bool)
    (groups bound : Nat)
    (scan : Scan CodePointSet) :
    Prop :=
  ∀ (outer : List ClassFrame) ⦃opening : Cursor⦄ ⦃scanner base : Scanner⦄,
    opening.rest.length < bound →
      opening.peek? = some '[' →
        scanner.Stands text base (opening.advance 1) →
          scanner.lastIndex = opening.offset →
            base.depth = groups + outer.length →
              Follows (readClassWithin caseInsensitive groups outer opening)
                (ClassDone text caseInsensitive groups base outer opening) (scan scanner)

/-- The rest of an operand is scanned in step. -/
def OperandFollows
    (text : List Char)
    (caseInsensitive : Bool)
    (groups : Nat)
    (inside : Scan CodePointSet)
    (limit : Nat) :
    Prop :=
  ∀ (frame : ClassFrame) (outer : List ClassFrame) ⦃cursor : Cursor⦄ ⦃scanner base : Scanner⦄,
    cursor.rest.length < limit →
      scanner.Stands text base cursor →
        base.depth = groups + outer.length + 1 →
          Follows (Cursor.readClassBody caseInsensitive groups frame outer cursor)
            (OperandDone text caseInsensitive groups base frame outer cursor)
            (readOperand text caseInsensitive inside frame.opening limit frame.current
              frame.hasEntry scanner)

/-- The operands behind those that are complete are scanned in step. -/
def OperandsFollow
    (text : List Char)
    (caseInsensitive : Bool)
    (groups : Nat)
    (inside : Scan CodePointSet)
    (limit : Nat) :
    Prop :=
  ∀ (frame : ClassFrame) (outer : List ClassFrame) ⦃cursor : Cursor⦄ ⦃scanner base : Scanner⦄,
    cursor.rest.length < limit →
      scanner.Stands text base cursor →
        base.depth = groups + outer.length + 1 →
          frame.hasEntry = true →
            OperandEnds cursor →
              Follows (Cursor.readClassBody caseInsensitive groups frame outer cursor)
                (OperandsDone text caseInsensitive groups base frame outer cursor)
                (readOperands text caseInsensitive inside frame.opening limit frame.meet scanner)

/-- Where an operand ends without an entry, the text is refused. -/
theorem readInClass_of_noEntry
    (ends : OperandEnds cursor)
    (noEntry : frame.hasEntry = false) :
    Cursor.readInClass caseInsensitive groups frame outer cursor = cursor.fail .emptyClass := by
  unfold Cursor.readInClass
  rcases ends with closing | ⟨others, pair⟩
  · obtain ⟨others, shape⟩ := List.head?_eq_some_iff.mp closing
    simp only [shape, noEntry, Bool.false_eq_true, if_false]
  · simp only [← pair, List.cons_append, noEntry, Bool.false_eq_true, if_false]

/-- An entry that is not a class is read on behind it. -/
theorem readClassBody_of_entry
    {char : Char}
    {behind : List Char}
    (shape : cursor.rest = char :: behind)
    (plain : char ∉ [']', '['])
    (unpaired : char = '&' → behind.head? ≠ some '&') :
    Cursor.readClassBody caseInsensitive groups frame outer cursor =
      cursor.readEntry caseInsensitive >>= fun (entry, after) =>
        Cursor.readClassBody caseInsensitive groups (frame.add entry) outer after := by
  rw [readClassBody_eq, Cursor.readInClass_eq_entry shape plain unpaired, bind_assoc]
  rfl

/-- A class that begins inside of another one is read with that one around it. -/
theorem readClassBody_of_opening
    {behind : List Char}
    (shape : cursor.rest = '[' :: behind) :
    Cursor.readClassBody caseInsensitive groups frame outer cursor =
      readClassWithin caseInsensitive groups (frame :: outer) cursor := by
  rw [readClassBody_eq, Cursor.readInClass_of_opening shape, bind_assoc]
  rfl

/-- Each entry of an operand keeps step, a class as well as every other one. -/
theorem follows_entry
    {bound : Nat}
    {char : Char}
    {behind : List Char}
    (classFollows : ClassFollows text caseInsensitive groups bound inside)
    (short : cursor.rest.length < bound)
    (stands : scanner.Stands text base cursor)
    (isOpen : base.depth = groups + outer.length + 1)
    (shape : cursor.rest = char :: behind)
    (begins : ¬ (char = ']' ∨ ['&', '&'] <+: char :: behind)) :
    Follows (Cursor.readClassBody caseInsensitive groups frame outer cursor)
      (EntryDone text caseInsensitive groups base frame outer cursor)
      (readEntry text caseInsensitive inside char (scanner.pass char.utf8Size)) := by
  have present : cursor.peek? = some char := by
    rw [Cursor.peek?, shape]
    rfl
  by_cases opens : char = '['
  · subst opens
    have nested :
        Cursor.readClassBody caseInsensitive groups frame outer cursor =
          readClassWithin caseInsensitive groups (frame :: outer) cursor :=
      readClassBody_of_opening shape
    rw [nested]
    refine (classFollows (frame :: outer) short present (stands.pass_one present) stands.index
      isOpen).mono ?_
    rintro points last ⟨after, lastStands, shorter, same⟩
    exact ⟨after, lastStands, shorter, nested.trans same⟩
  · have plain : char ∉ [']', '['] := by
      simp only [List.mem_cons, List.not_mem_nil, or_false, not_or]
      exact ⟨fun closes => begins (.inl closes), opens⟩
    have unpaired : char = '&' → behind.head? ≠ some '&' := by
      rintro rfl second
      obtain ⟨others, rfl⟩ := List.head?_eq_some_iff.mp second
      exact begins (.inr ⟨others, rfl⟩)
    refine (tracks_readEntry inside stands present opens).imp ?_ ?_
    · rintro error failed
      rw [readClassBody_of_entry shape plain unpaired, failed]
      rfl
    · rintro entry last ⟨after, read, lastStands⟩
      refine ⟨after, lastStands, Cursor.readEntry_shorter read, ?_⟩
      rw [readClassBody_of_entry shape plain unpaired, read]
      rfl

/-- The rest of an operand keeps step entry by entry. -/
theorem operandFollows_of_le
    {bound limit : Nat}
    (classFollows : ClassFollows text caseInsensitive groups bound inside)
    (within : limit ≤ bound) :
    OperandFollows text caseInsensitive groups inside limit := by
  induction limit with
  | zero =>
      intro _ _ _ _ _ short
      exact (Nat.not_lt_zero _ short).elim
  | succ limit inductionHypothesis =>
      have operandFollows := inductionHypothesis (Nat.le_of_succ_le within)
      intro frame outer cursor scanner base short stands isOpen
      unfold readOperand
      rw [rest_bind stands]
      cases shape : cursor.rest with
      | nil =>
          rw [readClassBody_eq, Cursor.readInClass, shape]
          exact rfl
      | cons char behind =>
          have present : cursor.peek? = some char := by
            rw [Cursor.peek?, shape]
            rfl
          dsimp only
          by_cases ends : char = ']' ∨ ['&', '&'] <+: char :: behind
          · have operandEnds : OperandEnds cursor := by
              rw [OperandEnds, present, shape]
              exact ends.imp_left (congrArg some)
            rw [if_pos ends]
            cases hasEntry : frame.hasEntry with
            | false =>
                rw [readClassBody_eq, readInClass_of_noEntry operandEnds hasEntry]
                exact follows_failHere stands .emptyClass
            | true =>
                refine ⟨cursor, stands, operandEnds, Nat.le_refl _, ?_⟩
                rw [← hasEntry]
          · rw [if_neg ends, next_bind stands present]
            refine Follows.bind
              (follows_entry classFollows (Nat.lt_of_lt_of_le short within) stands isOpen shape
                ends)
              (fun _ => id) ?_
            rintro entry last ⟨after, lastStands, shorter, same⟩
            rw [same]
            refine (operandFollows (frame.add entry) outer (by omega) lastStands isOpen).mono ?_
            rintro points final ⟨place, finalStands, placeEnds, fewer, goesOn⟩
            exact ⟨place, finalStands, placeEnds, by omega, same.trans goesOn⟩

/-- The operands keep step one by one, and each is met with those in front of it. -/
theorem operandsFollow_of_le
    {bound limit : Nat}
    (classFollows : ClassFollows text caseInsensitive groups bound inside)
    (within : limit ≤ bound) :
    OperandsFollow text caseInsensitive groups inside limit := by
  induction limit with
  | zero =>
      intro _ _ _ _ _ short
      exact (Nat.not_lt_zero _ short).elim
  | succ limit inductionHypothesis =>
      have operandsFollow := inductionHypothesis (Nat.le_of_succ_le within)
      have operandFollows := operandFollows_of_le classFollows (Nat.le_of_succ_le within)
      intro frame outer cursor scanner base short stands isOpen hasEntry ends
      unfold readOperands
      rw [bypass_bind stands]
      by_cases pair : ['&', '&'] <+: cursor.rest
      · have passed :
            (scanner.pass (Text.byteLength ['&', '&'])).Stands text base (cursor.advance 2) :=
          stands.pass pair
        rw [if_pos pair, if_pos rfl]
        obtain ⟨others, shape⟩ := pair
        have shorter : (cursor.advance 2).rest.length < cursor.rest.length := by
          have := congrArg List.length shape
          simp only [List.length_append, List.length_cons] at this
          rw [Cursor.rest_advance, List.length_drop]
          omega
        have next :
            Cursor.readClassBody caseInsensitive groups frame outer cursor =
              Cursor.readClassBody caseInsensitive groups frame.nextOperand outer
                (cursor.advance 2) := by
          rw [readClassBody_eq, Cursor.readInClass_of_pair shape.symm hasEntry]
          rfl
        rw [next]
        refine Follows.bind
          (operandFollows frame.nextOperand outer (by omega) passed isOpen) (fun _ => id) ?_
        rintro operand last ⟨after, lastStands, lastEnds, fewer, same⟩
        rw [same]
        refine (operandsFollow { frame.nextOperand with current := operand, hasEntry := true } outer
          (by omega) lastStands isOpen rfl lastEnds).mono ?_
        rintro points final
          ⟨place, complete, finalStands, closing, few, entered, isMeet, sameSign, goesOn⟩
        exact ⟨place, complete, finalStands, closing, by omega, entered, isMeet, sameSign,
          (next.trans same).trans goesOn⟩
      · rw [if_neg pair, if_neg Bool.false_ne_true]
        exact ⟨cursor, frame, stands, ends.resolve_right pair, Nat.le_refl _, hasEntry, rfl, rfl,
          rfl⟩

/-- From behind the caret on, a class keeps step up to behind its closing bracket. -/
theorem follows_classBody
    {bound : Nat}
    {negated : Bool}
    (classFollows : ClassFollows text caseInsensitive groups bound inside)
    (short : cursor.rest.length < bound)
    (shorter : cursor.rest.length < opening.rest.length)
    (isOpen : base.depth = groups + outer.length)
    (stands : scanner.Stands text base.deeper cursor)
    (begins :
      readClassWithin caseInsensitive groups outer opening =
        Cursor.readClassBody caseInsensitive groups
          ⟨opening.offset, negated, none, .empty, false⟩ outer cursor) :
    Follows (readClassWithin caseInsensitive groups outer opening)
      (ClassDone text caseInsensitive groups base outer opening)
      ((do
        let first ← readOperand text caseInsensitive inside opening.offset bound .empty false
        let points ← readOperands text caseInsensitive inside opening.offset bound first
        if ← bypass text [']'] then
          unnest
          return if negated then points.compl else points
        else
          failAt opening.offset .unclosedClass) scanner) := by
  have deeper : base.deeper.depth = groups + outer.length + 1 :=
    congrArg (· + 1) isOpen
  have operandFollows := operandFollows_of_le classFollows (Nat.le_refl bound)
  have operandsFollow := operandsFollow_of_le classFollows (Nat.le_refl bound)
  refine Follows.bind
    (operandFollows ⟨opening.offset, negated, none, .empty, false⟩ outer short stands deeper) ?_ ?_
  · rw [begins]
    exact fun _ => id
  rintro first last ⟨after, lastStands, ends, fewer, same⟩
  refine Follows.bind
    (operandsFollow ⟨opening.offset, negated, none, first, true⟩ outer (by omega) lastStands
      deeper rfl ends) ?_ ?_
  · rw [begins, same]
    exact fun _ => id
  rintro points final ⟨place, complete, finalStands, closing, few, hasEntry, isMeet, sameSign,
    goesOn⟩
  have passed := finalStands.pass_one closing
  obtain ⟨others, shape⟩ := List.head?_eq_some_iff.mp closing
  simp only [bypass_one_bind finalStands, if_pos closing, if_true]
  rw [unnest_bind passed.depth]
  refine ⟨place.advance 1, passed.withDepth _, ?_, ?_⟩
  · have := congrArg List.length shape
    simp only [Cursor.rest_advance, List.length_drop]
    omega
  · rw [begins, same, goesOn, readClassBody_eq, Cursor.readInClass_of_closing shape hasEntry,
      closeClass_eq, ClassFrame.close, isMeet, sameSign]
    rfl

/-- A class keeps step if what is inside of it does. -/
theorem classFollows_succ
    {bound : Nat}
    (classFollows :
      ClassFollows text caseInsensitive groups bound (readClass text caseInsensitive bound)) :
    ClassFollows text caseInsensitive groups (bound + 1)
      (readClass text caseInsensitive (bound + 1)) := by
  intro outer opening scanner base short present stands begun isOpen
  have depth : scanner.depth = groups + outer.length :=
    stands.depth.trans isOpen
  have shorter := Cursor.advance_one_shorter present
  unfold readClass
  simp only [get_bind, nest_bind, begun, depth]
  by_cases deep : nestingLimit ≤ groups + outer.length
  · rw [readClassWithin, Cursor.openClass, if_pos deep, if_pos deep]
    exact follows_failBehind begun _
  · rw [if_neg deep, bypass_one_bind stands.nest]
    by_cases caret : (opening.advance 1).peek? = some '^'
    · have begins :
          readClassWithin caseInsensitive groups outer opening =
            Cursor.readClassBody caseInsensitive groups ⟨opening.offset, true, none, .empty, false⟩
              outer (opening.advance 2) := by
        rw [readClassWithin, Cursor.openClass, if_neg deep, if_pos caret]
        rfl
      have passed := stands.nest.pass_one caret
      have behind := Cursor.advance_one_shorter caret
      rw [Cursor.advance_advance] at passed behind
      rw [if_pos caret]
      exact follows_classBody classFollows
        (Nat.lt_of_lt_of_le behind (Nat.le_of_lt_succ (Nat.lt_trans shorter short)))
        (Nat.lt_trans behind shorter) isOpen passed begins
    · have begins :
          readClassWithin caseInsensitive groups outer opening =
            Cursor.readClassBody caseInsensitive groups ⟨opening.offset, false, none, .empty, false⟩
              outer (opening.advance 1) := by
        rw [readClassWithin, Cursor.openClass, if_neg deep, if_neg caret]
        rfl
      rw [if_neg caret]
      exact follows_classBody classFollows (by omega) shorter isOpen stands.nest
        begins

/-- Scanning keeps step inside of classes, however many characters follow. -/
theorem classFollows_readClass
    (text : List Char)
    (caseInsensitive : Bool)
    (groups bound : Nat) :
    ClassFollows text caseInsensitive groups bound (readClass text caseInsensitive bound) := by
  induction bound with
  | zero =>
      intro _ _ _ _ short
      exact (Nat.not_lt_zero _ short).elim
  | succ bound inductionHypothesis =>
      exact classFollows_succ inductionHypothesis

/-- A class that is not inside of another one. -/
theorem tracks_readClass
    (stands : scanner.Stands text base (opening.advance 1))
    (present : opening.peek? = some '[')
    (begun : scanner.lastIndex = opening.offset)
    (isOpen : base.depth = groups)
    {limit : Nat}
    (short : opening.rest.length < limit) :
    Tracks text base (opening.readClass caseInsensitive groups)
      (readClass text caseInsensitive limit scanner) := by
  refine (classFollows_readClass text caseInsensitive groups limit [] short present stands begun
    isOpen).mono ?_
  rintro points last ⟨after, lastStands, -, same⟩
  exact ⟨after, same, lastStands⟩

end Calls

end LexicalAutomata.Scan
