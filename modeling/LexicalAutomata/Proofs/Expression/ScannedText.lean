import LexicalAutomata.Proofs.Expression.ScannedClass

namespace LexicalAutomata.Scan

/-!
# A scanner keeps step with a whole text

A scanner reads a group by a call of its own, where a cursor keeps the groups that are still
open on a stack.  Both read the same from every text, or refuse it for the same fault at the
same offset, and what the scanner has noted on its way is whether the expression is literal.
-/

variable {text : List Char} {caseInsensitive : Bool} {scanner base : Scanner}
  {cursor opening : Cursor} {level : Level} {outer : List GroupFrame}

/-- Two notes are one. -/
theorem noting_noting
    (scanner : Scanner)
    (first second : Bool) :
    (scanner.noting first).noting second = scanner.noting (first && second) := by
  simp only [Scanner.noting, Bool.and_assoc]

/-- What is plain changes nothing. -/
theorem noting_true
    (scanner : Scanner) :
    scanner.noting true = scanner := by
  simp only [Scanner.noting, Bool.and_true]

/-- A plain piece leaves the expression literal, and every other one does not. -/
theorem notePiece_bind
    {α : Type}
    {literal : Bool}
    (piece : Piece)
    (behind : Unit → Scan α)
    (stands : scanner.Stands text { base with literal } cursor)
    (isLabel : ∀ label, piece.atom = .label label → literal = base.literal) :
    ∃ last,
      (notePiece piece >>= behind) scanner = behind () last ∧
        last.Stands text (base.noting piece.isPlain) cursor := by
  cases plain : piece.isPlain with
  | false =>
      refine ⟨{ scanner with literal := false }, ?_, stands.lies, stands.index, stands.depth, ?_⟩
      · rw [notePiece, plain]
        rfl
      · exact (Bool.and_false _).symm
  | true =>
      refine ⟨scanner, ?_, stands.lies, stands.index, stands.depth, ?_⟩
      · rw [notePiece, plain]
        rfl
      · unfold Piece.isPlain at plain
        split at plain
        · rename_i label isAtom
          exact (stands.literal.trans (isLabel label isAtom)).trans (Bool.and_true _).symm
        · contradiction

/-- A group is begun only where there is something inside. -/
theorem requireInside_bind
    {α : Type}
    {offset : Nat}
    {behind : Unit → Scan α}
    {char : Char}
    (stands : scanner.Stands text base cursor)
    (present : cursor.peek? = some char)
    (notClosed : char ≠ ')') :
    (requireInside text offset >>= behind) scanner = behind () scanner := by
  unfold requireInside
  rw [bind_assoc, peek_bind stands, present]
  split <;> simp_all

/-- An expression with more than one branch is not literal. -/
theorem isLiteral_append
    {branches : Expression}
    (some_ : 0 < branches.length)
    (branch : Branch) :
    Expression.isLiteral (branches ++ [branch]) = false := by
  cases branches with
  | nil =>
      simp at some_
  | cons first others =>
      cases others <;> rfl

section Calls

variable [PropertyParser] {inside : Scan Expression}

/-- An atom of one character that stands for itself. -/
theorem tracks_literalLabel
    {char : Char}
    (stands : scanner.Stands text base cursor)
    (passed : (scanner.pass char.utf8Size).Stands text base (cursor.advance 1))
    (notClass : char = '[' → False)
    (notEscape : char = '\\' → False)
    (notDot : char = '.' → False)
    (notCaret : char = '^' → False)
    (notDollar : char = '$' → False) :
    Tracks text base
      (if [']', '\x7d'].contains char then
        cursor.fail (.unbalanced char)
      else if ['*', '+', '?', '\x7b'].contains char then
        cursor.fail (.danglingQuantifier char)
      else
        .ok (Cursor.literalLabel caseInsensitive char, cursor.advance 1))
      (readLabel text caseInsensitive char (scanner.pass char.utf8Size)) := by
  simp only [readLabel]
  by_cases closes : [']', '\x7d'].contains char = true
  · rw [if_pos closes, if_pos closes]
    exact follows_failBehind stands.index _
  rw [if_neg closes, if_neg closes]
  by_cases repeats : ['*', '+', '?', '\x7b'].contains char = true
  · rw [if_pos repeats, if_pos repeats]
    exact follows_failBehind stands.index _
  · rw [if_neg repeats, if_neg repeats]
    exact tracks_pure passed _

/-- An atom that is not a group. -/
theorem tracks_readLabel
    {char : Char}
    {groups : Nat}
    (stands : scanner.Stands text base cursor)
    (present : cursor.peek? = some char)
    (isOpen : base.depth = groups) :
    Tracks text base (cursor.readLabel caseInsensitive groups)
      (readLabel text caseInsensitive char (scanner.pass char.utf8Size)) := by
  have passed := stands.pass_one present
  unfold Cursor.readLabel
  rw [present]
  split
  · rename_i isClass
    cases isClass
    refine (tracks_readClass passed present stands.index isOpen stands.length_rest_lt).bind ?_
    exact fun _ _ _ _ lastStands => tracks_pure lastStands _
  · rename_i isEscape
    cases isEscape
    exact (tracks_readEscape passed stands.index).bind fun _ _ _ _ lastStands =>
      tracks_pure lastStands _
  · rename_i isDot
    cases isDot
    exact tracks_pure passed _
  · rename_i isCaret
    cases isCaret
    exact tracks_pure passed _
  · rename_i isDollar
    cases isDollar
    exact tracks_pure passed _
  · rename_i notClass notEscape notDot notCaret notDollar isChar
    cases isChar
    exact tracks_literalLabel stands passed notClass notEscape notDot notCaret notDollar
  · contradiction

/-- Reading an expression on from where a step has led. -/
def readExpressionOn
    (caseInsensitive : Bool) :
    ExpressionProgress × Cursor →
    Except TextError Expression
  | (.inside level outer, cursor) =>
      Cursor.readExpression caseInsensitive level outer cursor
  | (.complete expression, _) =>
      .ok expression

/-- Reading a text is one step, and reading on from where it has led. -/
theorem readExpression_eq
    (level : Level)
    (outer : List GroupFrame)
    (cursor : Cursor) :
    Cursor.readExpression caseInsensitive level outer cursor =
      Cursor.readInExpression caseInsensitive level outer cursor >>=
        readExpressionOn caseInsensitive := by
  rw [Cursor.readExpression]
  split <;> simp_all [bind, Except.bind, readExpressionOn]

/-- An atom has been read, and its quantifier is next. -/
def AtomDone
    (text : List Char)
    (caseInsensitive : Bool)
    (base : Scanner)
    (level : Level)
    (outer : List GroupFrame)
    (cursor : Cursor)
    (atom : Atom)
    (last : Scanner) :
    Prop :=
  ∃ after literal,
    last.Stands text { base with literal } after ∧
      (∀ label, atom = .label label → literal = base.literal) ∧
        after.rest.length < cursor.rest.length ∧
          Cursor.readExpression caseInsensitive level outer cursor =
            after.readQuantifier >>= fun (quantifier, next) =>
              Cursor.readExpression caseInsensitive (level.push ⟨atom, quantifier⟩) outer next

/-- A piece has been read; the expression stays literal if the piece is plain. -/
def PieceDone
    (text : List Char)
    (caseInsensitive : Bool)
    (base : Scanner)
    (level : Level)
    (outer : List GroupFrame)
    (cursor : Cursor)
    (piece : Piece)
    (last : Scanner) :
    Prop :=
  ∃ after,
    last.Stands text (base.noting piece.isPlain) after ∧
      after.rest.length < cursor.rest.length ∧
        Cursor.readExpression caseInsensitive level outer cursor =
          Cursor.readExpression caseInsensitive (level.push piece) outer after

/-- What ends a group, or the whole text, is next. -/
def GroupEnds
    (cursor : Cursor) :
    Prop :=
  cursor.peek? = none ∨ cursor.peek? = some ')'

/-- What ends a branch is next. -/
def BranchEnds
    (cursor : Cursor) :
    Prop :=
  cursor.peek? = none ∨ cursor.peek? = some '|' ∨ cursor.peek? = some ')'

/-- The rest of a branch has been read, and the branch is not empty. -/
def BranchDone
    (text : List Char)
    (caseInsensitive : Bool)
    (base : Scanner)
    (level : Level)
    (outer : List GroupFrame)
    (cursor : Cursor)
    (pieces : Branch)
    (last : Scanner) :
    Prop :=
  ∃ after more,
    pieces = level.pieces ++ more ∧
      last.Stands text (base.noting (more.all Piece.isPlain)) after ∧
        BranchEnds after ∧
          pieces ≠ [] ∧
            after.rest.length ≤ cursor.rest.length ∧
              Cursor.readExpression caseInsensitive level outer cursor =
                Cursor.readExpression caseInsensitive { level with pieces } outer after

/-- All branches have been read; another branch keeps the expression from being literal. -/
def AlternativesDone
    (text : List Char)
    (caseInsensitive : Bool)
    (base : Scanner)
    (level : Level)
    (outer : List GroupFrame)
    (cursor : Cursor)
    (expression : Expression)
    (last : Scanner) :
    Prop :=
  ∃ after complete literal,
    last.Stands text { base with literal } after ∧
      (complete = level ∧ literal = base.literal ∨
        level.branches.length < complete.branches.length ∧ literal = false) ∧
        GroupEnds after ∧
          complete.close after = .ok expression ∧
            after.rest.length ≤ cursor.rest.length ∧
              Cursor.readExpression caseInsensitive level outer cursor =
                Cursor.readExpression caseInsensitive complete outer after

/-- Everything inside of a group has been read, or a whole text up to an unbalanced parenthesis. -/
def GroupDone
    (text : List Char)
    (caseInsensitive : Bool)
    (base : Scanner)
    (level : Level)
    (outer : List GroupFrame)
    (cursor : Cursor)
    (expression : Expression)
    (last : Scanner) :
    Prop :=
  ∃ after complete,
    last.Stands text (base.noting expression.isLiteral) after ∧
      GroupEnds after ∧
        complete.close after = .ok expression ∧
          after.rest.length ≤ cursor.rest.length ∧
            Cursor.readExpression caseInsensitive level outer cursor =
              Cursor.readExpression caseInsensitive complete outer after

/--
From every state of the reader with fewer than `bound` characters ahead, where `begins` holds,
a scan follows what remains of the reading, and is `done` where it ends.
-/
def KeepsStep
    {α : Type}
    (text : List Char)
    (caseInsensitive : Bool)
    (bound : Nat)
    (begins : Level → Cursor → Prop)
    (done : Scanner → Level → List GroupFrame → Cursor → α → Scanner → Prop)
    (scan : Level → Scan α) :
    Prop :=
  ∀ (level : Level) (outer : List GroupFrame) ⦃cursor : Cursor⦄ ⦃scanner base : Scanner⦄,
    cursor.rest.length < bound →
      begins level cursor →
        scanner.Stands text base cursor →
          base.depth = outer.length →
            Follows (Cursor.readExpression caseInsensitive level outer cursor)
              (done base level outer cursor) (scan level scanner)

/-- There are no fewer than zero characters ahead. -/
theorem keepsStep_zero
    {α : Type}
    {begins : Level → Cursor → Prop}
    {done : Scanner → Level → List GroupFrame → Cursor → α → Scanner → Prop}
    {scan : Level → Scan α} :
    KeepsStep text caseInsensitive 0 begins done scan :=
  fun _ _ _ _ _ short => (Nat.not_lt_zero _ short).elim

/-- What is in a group, or a text, keeps step. -/
def GroupFollows
    (text : List Char)
    (caseInsensitive : Bool)
    (bound : Nat)
    (scan : Scan Expression) :
    Prop :=
  KeepsStep text caseInsensitive bound (fun level _ => level = .empty)
    (GroupDone text caseInsensitive) fun _ => scan

/-- The rest of a branch keeps step. -/
def BranchFollows
    (text : List Char)
    (caseInsensitive : Bool)
    (inside : Scan Expression)
    (limit : Nat) :
    Prop :=
  KeepsStep text caseInsensitive limit (fun _ _ => True) (BranchDone text caseInsensitive)
    fun level => readBranch text caseInsensitive inside limit level.pieces

/-- The branches behind one that is complete keep step. -/
def AlternativesFollow
    (text : List Char)
    (caseInsensitive : Bool)
    (inside : Scan Expression)
    (limit : Nat) :
    Prop :=
  KeepsStep text caseInsensitive limit
    (fun level cursor => BranchEnds cursor ∧ level.pieces ≠ [])
    (AlternativesDone text caseInsensitive)
    fun level =>
      readAlternatives text caseInsensitive inside limit (level.branches ++ [level.pieces])

/-- An atom that is not a group is read on behind it, from its quantifier. -/
theorem readExpression_of_label
    {char : Char}
    (present : cursor.peek? = some char)
    (plain : char ∉ ['|', '(', ')']) :
    Cursor.readExpression caseInsensitive level outer cursor =
      cursor.readLabel caseInsensitive outer.length >>= fun (label, after) =>
        after.readQuantifier >>= fun (quantifier, next) =>
          Cursor.readExpression caseInsensitive (level.push ⟨.label label, quantifier⟩) outer
            next := by
  simp only [readExpression_eq level, Cursor.readInExpression_of_label present plain, bind_assoc]
  rfl

/-- An atom that is not a group keeps step. -/
theorem follows_labelAtom
    {char : Char}
    (stands : scanner.Stands text base cursor)
    (isOpen : base.depth = outer.length)
    (present : cursor.peek? = some char)
    (plain : char ∉ ['|', '(', ')']) :
    Follows (Cursor.readExpression caseInsensitive level outer cursor)
      (AtomDone text caseInsensitive base level outer cursor)
      ((readLabel text caseInsensitive char >>= fun label => pure (.label label))
        (scanner.pass char.utf8Size)) := by
  refine Follows.bind (tracks_readLabel stands present isOpen) ?_ ?_
  · rintro error failed
    rw [readExpression_of_label present plain, failed]
    rfl
  · rintro label last ⟨after, read, lastStands⟩
    refine ⟨after, base.literal, lastStands, fun _ _ => rfl, Cursor.readLabel_shorter read, ?_⟩
    rw [readExpression_of_label present plain, read]
    rfl

/-- A group is left behind its closing parenthesis, where its quantifier is next. -/
theorem follows_groupEnd
    {expression : Expression}
    {complete : Level}
    {after : Cursor}
    (stands : scanner.Stands text (base.deeper.noting expression.isLiteral) after)
    (ends : GroupEnds after)
    (closed : complete.close after = .ok expression)
    (shorter : after.rest.length < cursor.rest.length)
    (goesOn :
      Cursor.readExpression caseInsensitive level outer cursor =
        Cursor.readExpression caseInsensitive complete (⟨cursor.offset, level⟩ :: outer) after) :
    Follows (Cursor.readExpression caseInsensitive level outer cursor)
      (AtomDone text caseInsensitive base level outer cursor)
      ((bypass text [')'] >>= fun closes =>
        if closes then
          unnest >>= fun _ => pure (.group expression)
        else
          failAt cursor.offset .unclosedGroup) scanner) := by
  rw [bypass_one_bind stands]
  rcases ends with ended | closes
  · rw [if_neg (by simp [ended]), if_neg Bool.false_ne_true, goesOn, readExpression_eq,
      Cursor.readInExpression, ended]
    simp only [Cursor.readEnd, closed]
    exact rfl
  · have passed := stands.pass_one closes
    have fewer := Cursor.advance_one_shorter closes
    rw [if_pos closes, if_pos rfl, unnest_bind passed.depth]
    refine ⟨after.advance 1, _, passed.withDepth base.depth, fun _ isLabel => ?_,
      by omega, ?_⟩
    · simp at isLabel
    · rw [goesOn, readExpression_eq, Cursor.readInExpression, closes]
      simp only [Cursor.closeGroup, closed, ok_bind, bind_assoc]
      rfl

/-- A group keeps step if what is inside of it does. -/
theorem follows_groupAtom
    {bound : Nat}
    (groupFollows : GroupFollows text caseInsensitive bound inside)
    (short : cursor.rest.length < bound + 1)
    (stands : scanner.Stands text base cursor)
    (isOpen : base.depth = outer.length)
    (present : cursor.peek? = some '(') :
    Follows (Cursor.readExpression caseInsensitive level outer cursor)
      (AtomDone text caseInsensitive base level outer cursor)
      (readAtom text caseInsensitive inside scanner) := by
  have passed := stands.pass_one present
  have shorter := Cursor.advance_one_shorter present
  have depth : (scanner.pass '('.utf8Size).depth = outer.length :=
    passed.depth.trans isOpen
  unfold readAtom
  rw [next_bind stands present, if_pos rfl, get_bind]
  simp only [Scanner.lastIndex_pass, stands.index]
  rw [nest_bind, depth]
  by_cases deep : nestingLimit ≤ outer.length
  · rw [if_pos deep, readExpression_eq, Cursor.readInExpression_of_deep present deep]
    exact follows_failBehind stands.index _
  rw [if_neg deep]
  cases first : (cursor.advance 1).peek? with
  | none =>
      rw [readExpression_eq, Cursor.readInExpression, present]
      simp only [Cursor.openGroup, if_neg deep, first, requireInside, bind_assoc,
        peek_bind passed.nest]
      exact rfl
  | some char =>
      by_cases closes : char = ')'
      · subst closes
        rw [readExpression_eq, Cursor.readInExpression, present]
        simp only [Cursor.openGroup, if_neg deep, first, requireInside, bind_assoc,
          peek_bind passed.nest]
        exact rfl
      · rw [requireInside_bind passed.nest first closes]
        have opened :
            Cursor.readExpression caseInsensitive level outer cursor =
              Cursor.readExpression caseInsensitive .empty (⟨cursor.offset, level⟩ :: outer)
                (cursor.advance 1) := by
          rw [readExpression_eq, Cursor.readInExpression_of_opening present
            (Nat.lt_of_not_le deep) first closes]
          rfl
        refine Follows.bind
          (groupFollows .empty (⟨cursor.offset, level⟩ :: outer) (by omega) rfl passed.nest
            (congrArg (· + 1) isOpen)) ?_ ?_
        · rw [opened]
          exact fun _ => id
        · rintro expression last ⟨after, complete, lastStands, ends, closed, fewer, same⟩
          exact follows_groupEnd lastStands ends closed (by omega) (opened.trans same)

/-- Atoms keep step if groups inside of them do. -/
theorem keepsStep_readAtom
    {bound : Nat}
    (groupFollows : GroupFollows text caseInsensitive bound inside) :
    KeepsStep text caseInsensitive (bound + 1) (fun _ cursor => ¬ BranchEnds cursor)
      (AtomDone text caseInsensitive) fun _ => readAtom text caseInsensitive inside := by
  intro level outer cursor scanner base short begins stands isOpen
  cases present : cursor.peek? with
  | none =>
      exact (begins (.inl present)).elim
  | some char =>
      by_cases opens : char = '('
      · subst opens
        exact follows_groupAtom groupFollows short stands isOpen present
      · have plain : char ∉ ['|', '(', ')'] := by
          simp only [List.mem_cons, List.not_mem_nil, or_false, not_or]
          refine ⟨?_, opens, ?_⟩
          · rintro rfl
            exact begins (.inr (.inl present))
          · rintro rfl
            exact begins (.inr (.inr present))
        dsimp only
        unfold readAtom
        rw [next_bind stands present, if_neg opens]
        exact follows_labelAtom stands isOpen present plain

/-- Pieces keep step if groups inside of them do. -/
theorem keepsStep_readPiece
    {bound : Nat}
    (groupFollows : GroupFollows text caseInsensitive bound inside) :
    KeepsStep text caseInsensitive (bound + 1) (fun _ cursor => ¬ BranchEnds cursor)
      (PieceDone text caseInsensitive) fun _ => readPiece text caseInsensitive inside := by
  intro level outer cursor scanner base short begins stands isOpen
  dsimp only
  unfold readPiece
  refine Follows.bind (keepsStep_readAtom groupFollows level outer short begins stands isOpen)
    (fun _ => id) ?_
  rintro atom last ⟨after, literal, lastStands, isLabel, shorter, same⟩
  refine Follows.bind (tracks_readQuantifier lastStands) ?_ ?_
  · rintro error failed
    rw [same, failed]
    rfl
  · rintro quantifier final ⟨next, read, finalStands⟩
    obtain ⟨noted, run, notedStands⟩ :=
      notePiece_bind ⟨atom, quantifier⟩ (fun _ => pure (⟨atom, quantifier⟩ : Piece)) finalStands
        isLabel
    rw [run]
    refine ⟨next, notedStands, ?_, ?_⟩
    · exact Nat.lt_of_le_of_lt (Cursor.readQuantifier_le read) shorter
    · rw [same, read]
      rfl

/-- A branch that ends without a piece is refused. -/
theorem readInExpression_of_emptyBranch
    (ends : BranchEnds cursor)
    (empty : level.pieces.isEmpty = true) :
    Cursor.readInExpression caseInsensitive level outer cursor = cursor.fail .emptyBranch := by
  have refused : level.close cursor = cursor.fail .emptyBranch := by
    rw [Level.close, if_pos empty]
  rcases ends with ended | bar | closes
  · simp only [Cursor.readInExpression, ended, Cursor.readEnd, refused]
    rfl
  · simp only [Cursor.readInExpression, bar, refused]
    rfl
  · simp only [Cursor.readInExpression, closes, Cursor.closeGroup, refused]
    rfl

/-- A branch keeps step piece by piece. -/
theorem branchFollows_of_le
    {bound limit : Nat}
    (groupFollows : GroupFollows text caseInsensitive bound inside)
    (within : limit ≤ bound + 1) :
    BranchFollows text caseInsensitive inside limit := by
  induction limit with
  | zero =>
      exact keepsStep_zero
  | succ limit inductionHypothesis =>
      have branchFollows := inductionHypothesis (Nat.le_of_succ_le within)
      intro level outer cursor scanner base short _ stands isOpen
      dsimp only
      unfold readBranch
      rw [peek_bind stands]
      by_cases ends : BranchEnds cursor
      · rw [BranchEnds] at ends
        rw [if_pos ends]
        cases empty : level.pieces.isEmpty with
        | true =>
            rw [readExpression_eq, readInExpression_of_emptyBranch ends empty]
            exact follows_failHere stands .emptyBranch
        | false =>
            refine ⟨cursor, [], (List.append_nil _).symm, ?_, ends, ?_, Nat.le_refl _, rfl⟩
            · rw [List.all_nil, noting_true]
              exact stands
            · exact mt List.isEmpty_iff.mpr (by simp [empty])
      · rw [if_neg (by rwa [BranchEnds] at ends)]
        have few : cursor.rest.length < bound + 1 :=
          Nat.lt_of_lt_of_le short within
        refine Follows.bind (keepsStep_readPiece groupFollows level outer few ends stands isOpen)
          (fun _ => id) ?_
        rintro piece last ⟨after, lastStands, shorter, same⟩
        rw [same]
        refine (branchFollows (level.push piece) outer (by omega) trivial lastStands
          isOpen).mono ?_
        rintro pieces final ⟨place, more, isPieces, finalStands, placeEnds, nonempty, fewer, goesOn⟩
        refine ⟨place, piece :: more, ?_, ?_, placeEnds, nonempty, by omega, same.trans goesOn⟩
        · rw [isPieces, Level.push, List.append_assoc, List.singleton_append]
        · rw [List.all_cons, ← noting_noting]
          exact finalStands

/-- Behind a bar, another branch is begun. -/
theorem readExpression_of_bar
    (bar : cursor.peek? = some '|')
    (nonempty : level.pieces ≠ []) :
    Cursor.readExpression caseInsensitive level outer cursor =
      Cursor.readExpression caseInsensitive ⟨level.branches ++ [level.pieces], []⟩ outer
        (cursor.advance 1) := by
  rw [readExpression_eq,
    Cursor.readInExpression_of_bar bar (Level.close_of_nonempty nonempty cursor)]
  rfl

/-- Alternatives keep step branch by branch. -/
theorem alternativesFollow_of_le
    {bound limit : Nat}
    (groupFollows : GroupFollows text caseInsensitive bound inside)
    (within : limit ≤ bound + 1) :
    AlternativesFollow text caseInsensitive inside limit := by
  induction limit with
  | zero =>
      exact keepsStep_zero
  | succ limit inductionHypothesis =>
      have alternativesFollow := inductionHypothesis (Nat.le_of_succ_le within)
      have branchFollows := branchFollows_of_le groupFollows (Nat.le_of_succ_le within)
      rintro level outer cursor scanner base short ⟨ends, nonempty⟩ stands isOpen
      dsimp only
      unfold readAlternatives
      rw [bypass_one_bind stands]
      by_cases bar : cursor.peek? = some '|'
      · have passed := stands.pass_one bar
        have shorter := Cursor.advance_one_shorter bar
        have noted :
            { scanner.pass '|'.utf8Size with literal := false }.Stands text
              { base with literal := false } (cursor.advance 1) :=
          ⟨passed.lies, passed.index, passed.depth, rfl⟩
        rw [if_pos bar, if_pos rfl, notLiteral, modify_bind, readExpression_of_bar bar nonempty]
        refine Follows.bind
          (branchFollows ⟨level.branches ++ [level.pieces], []⟩ outer (by omega) trivial noted
            isOpen) (fun _ => id) ?_
        rintro pieces last ⟨after, more, -, lastStands, lastEnds, something, fewer, same⟩
        rw [same]
        refine (alternativesFollow ⟨level.branches ++ [level.pieces], pieces⟩ outer (by omega)
          ⟨lastEnds, something⟩ lastStands isOpen).mono ?_
        rintro expression final
          ⟨place, complete, literal, finalStands, counts, placeEnds, closed, few, goesOn⟩
        refine ⟨place, complete, literal, finalStands, .inr ?_, placeEnds, closed, by omega, ?_⟩
        · rcases counts with ⟨rfl, rfl⟩ | ⟨longer, rfl⟩
          · exact ⟨by simp, rfl⟩
          · refine ⟨?_, rfl⟩
            simp only [List.length_append, List.length_singleton] at longer
            omega
        · rw [readExpression_of_bar bar nonempty, same, goesOn]
      · rw [if_neg bar, if_neg Bool.false_ne_true]
        exact ⟨cursor, level, base.literal, stands, .inl ⟨rfl, rfl⟩,
          ends.imp_right (·.resolve_left bar), Level.close_of_nonempty nonempty cursor,
          Nat.le_refl _, rfl⟩

/-- All branches keep step, and note whether what they make is literal. -/
theorem groupFollows_succ
    {bound : Nat}
    (groupFollows :
      GroupFollows text caseInsensitive bound (readBranches text caseInsensitive bound)) :
    GroupFollows text caseInsensitive (bound + 1)
      (readBranches text caseInsensitive (bound + 1)) := by
  have branchFollows := branchFollows_of_le groupFollows (Nat.le_refl _)
  have alternativesFollow := alternativesFollow_of_le groupFollows (Nat.le_refl _)
  rintro _ outer cursor scanner base short rfl stands isOpen
  dsimp only
  unfold readBranches
  refine Follows.bind (branchFollows .empty outer short trivial stands isOpen)
    (fun _ => id) ?_
  rintro pieces last ⟨after, more, isPieces, lastStands, ends, nonempty, fewer, same⟩
  rw [same]
  refine (alternativesFollow ⟨[], pieces⟩ outer (by omega) ⟨ends, nonempty⟩ lastStands
    isOpen).mono ?_
  rintro expression final
    ⟨place, complete, literal, finalStands, counts, placeEnds, closed, few, goesOn⟩
  refine ⟨place, complete, ?_, placeEnds, closed, by omega, same.trans goesOn⟩
  obtain ⟨-, isExpression⟩ := Level.close_eq_ok_iff.mp closed
  have flag : literal = (base.literal && expression.isLiteral) := by
    rcases counts with ⟨rfl, rfl⟩ | ⟨longer, rfl⟩
    · rw [isExpression, isPieces]
      rfl
    · rw [isExpression, isLiteral_append (Nat.lt_of_le_of_lt (Nat.zero_le _) longer),
        Bool.and_false]
  subst flag
  exact finalStands

/-- Scanning keeps step with reading, however many characters follow. -/
theorem groupFollows_readBranches
    (text : List Char)
    (caseInsensitive : Bool)
    (bound : Nat) :
    GroupFollows text caseInsensitive bound (readBranches text caseInsensitive bound) := by
  induction bound with
  | zero =>
      exact keepsStep_zero
  | succ bound inductionHypothesis =>
      exact groupFollows_succ inductionHypothesis

/-- A whole text is scanned as it is read, and noted to be literal if it is. -/
theorem follows_readText
    (caseInsensitive : Bool)
    (text : List Char) :
    Follows (Cursor.readExpression caseInsensitive .empty [] (.start text))
      (fun result _ =>
        Cursor.readExpression caseInsensitive .empty [] (.start text) = .ok result.1 ∧
          result.2 = result.1.isLiteral)
      (readText text caseInsensitive .start) := by
  have begins : Scanner.start.Stands text .start (.start text) :=
    ⟨Cursor.liesIn_start text, rfl, rfl, rfl⟩
  have groupFollows := groupFollows_readBranches text caseInsensitive (text.length + 1)
  unfold readText
  refine Follows.bind (groupFollows .empty [] (Nat.lt_succ_self _) rfl begins rfl)
    (fun _ => id) ?_
  rintro expression last ⟨after, complete, stands, ends, closed, -, same⟩
  rw [peek_bind stands, same, readExpression_eq]
  rcases ends with ended | closes
  · rw [Cursor.readInExpression, ended]
    simp only [Cursor.readEnd, closed]
    exact ⟨rfl, stands.literal⟩
  · rw [Cursor.readInExpression, closes]
    simp only [Cursor.closeGroup, closed]
    exact follows_failHere stands _

end Calls

end LexicalAutomata.Scan

namespace LexicalAutomata.Expression

/-- Scanning a text in place always ends, and gives what reading it gives. -/
theorem scan_eq
    [PropertyParser]
    (caseInsensitive : Bool)
    (text : List Char) :
    scan caseInsensitive text =
      some ((ofChars caseInsensitive text).map fun expression =>
        (expression, expression.isLiteral)) := by
  unfold scan ofChars
  split
  · rfl
  · have follows := Scan.follows_readText caseInsensitive text
    unfold Scan.Follows at follows
    rw [StateT.run'_eq, ExceptT.run_map, StateT.run]
    split at follows
    · exact follows.elim
    · rename_i error refused
      rw [refused, follows]
      rfl
    · rename_i result last read
      obtain ⟨parsed, literal⟩ := follows
      rw [read, parsed, Except.map, ← literal]
      rfl

end LexicalAutomata.Expression
