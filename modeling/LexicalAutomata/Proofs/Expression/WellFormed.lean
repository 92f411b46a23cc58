import LexicalAutomata.Proofs.CodePointSet.Canonical
import LexicalAutomata.Proofs.Expression.Parser
import LexicalAutomata.Proofs.Expression.ScannedText
import LexicalAutomata.Proofs.Result
import LexicalAutomata.Unicode.Property

namespace LexicalAutomata

/-!
# Trees that are read are well-formed

A text is either refused at one of its places, or read as a tree without empty groups and
branches, with quantifiers in order, with labels that wait for one boundary or read code
points, and with no more groups inside one another than the limit allows.
-/

/-- The intervals of a set are its maximal ones, in ascending order and inside of the domain. -/
structure CodePointSet.Normalised
    (points : CodePointSet) : Prop where
  nonempty : ∀ interval ∈ points.intervals, interval.first < interval.limit
  bounded : ∀ interval ∈ points.intervals, interval.limit ≤ codePointLimit
  spaced : points.intervals.Pairwise fun former latter => former.limit < latter.first

/-- Every set is normalised. -/
theorem CodePointSet.normalised
    (points : CodePointSet) :
    points.Normalised where
  nonempty _ := points.spaced.first_lt_limit
  bounded _ := points.spaced.limit_le
  spaced := points.spaced.pairwise

/-- A label reads code points and waits for no boundary, or it waits for one and reads none. -/
structure Label.WellFormed
    (label : Label) : Prop where
  points : label.points.Normalised
  boundaries :
    label.boundaries = .empty ∨
      label.points.intervals = [] ∧ ∃ boundary, label.boundaries = .singleton boundary

/-- A label of code points waits for nothing. -/
theorem Label.wellFormed_ofPoints
    (points : CodePointSet) :
    (ofPoints points).WellFormed :=
  ⟨points.normalised, Or.inl rfl⟩

/-- A label of a boundary reads nothing. -/
theorem Label.wellFormed_ofBoundary
    (boundary : Boundary) :
    (ofBoundary boundary).WellFormed :=
  ⟨CodePointSet.normalised _, Or.inr ⟨rfl, boundary, rfl⟩⟩

mutual

/-- A piece is well-formed and holds at most `levels` groups inside one another. -/
def Piece.WellFormed : Piece → Nat → Prop
  | ⟨.label label, quantifier⟩, _ =>
      label.WellFormed ∧ quantifier.Ordered
  | ⟨.group branches, quantifier⟩, levels =>
      0 < levels ∧ branches ≠ [] ∧ BranchesWellFormed branches (levels - 1) ∧ quantifier.Ordered

/-- All pieces of a sequence are well-formed. -/
def PiecesWellFormed : List Piece → Nat → Prop
  | [], _ =>
      True
  | piece :: rest, levels =>
      piece.WellFormed levels ∧ PiecesWellFormed rest levels

/-- All branches have a piece, and all their pieces are well-formed. -/
def BranchesWellFormed : List (List Piece) → Nat → Prop
  | [], _ =>
      True
  | pieces :: rest, levels =>
      pieces ≠ [] ∧ PiecesWellFormed pieces levels ∧ BranchesWellFormed rest levels

end

/-- An expression has a branch, and all its branches are well-formed. -/
def Expression.WellFormed
    (expression : Expression) :
    Prop :=
  expression ≠ [] ∧ BranchesWellFormed expression nestingLimit

/-- Pieces are well-formed together if they are apart. -/
theorem piecesWellFormed_append
    {first second : List Piece}
    {levels : Nat} :
    PiecesWellFormed (first ++ second) levels ↔
      PiecesWellFormed first levels ∧ PiecesWellFormed second levels := by
  induction first with
  | nil =>
      simp [PiecesWellFormed]
  | cons piece rest inductionHypothesis =>
      rw [List.cons_append, PiecesWellFormed, PiecesWellFormed, inductionHypothesis, and_assoc]

/-- So are branches. -/
theorem branchesWellFormed_append
    {first second : List (List Piece)}
    {levels : Nat} :
    BranchesWellFormed (first ++ second) levels ↔
      BranchesWellFormed first levels ∧ BranchesWellFormed second levels := by
  induction first with
  | nil =>
      simp [BranchesWellFormed]
  | cons pieces rest inductionHypothesis =>
      rw [List.cons_append, BranchesWellFormed, BranchesWellFormed, inductionHypothesis]
      simp only [and_assoc]

/-- What has been read of a group is well-formed. -/
structure Level.WellFormed
    (level : Level)
    (levels : Nat) : Prop where
  branches : BranchesWellFormed level.branches levels
  pieces : PiecesWellFormed level.pieces levels

namespace Level.WellFormed

variable {level : Level} {levels : Nat}

/-- Nothing is well-formed. -/
theorem empty
    (levels : Nat) :
    Level.empty.WellFormed levels :=
  ⟨trivial, trivial⟩

/-- A well-formed piece keeps a level well-formed. -/
theorem push
    (wellFormed : level.WellFormed levels)
    {piece : Piece}
    (pieceWellFormed : piece.WellFormed levels) :
    (level.push piece).WellFormed levels where
  branches :=
    wellFormed.branches
  pieces :=
    piecesWellFormed_append.mpr ⟨wellFormed.pieces, pieceWellFormed, trivial⟩

/-- What is closed has a branch, and no empty one. -/
theorem close
    (wellFormed : level.WellFormed levels)
    {cursor : Cursor}
    {expression : Expression}
    (closed : level.close cursor = .ok expression) :
    expression ≠ [] ∧ BranchesWellFormed expression levels := by
  obtain ⟨present, rfl⟩ := Level.close_eq_ok_iff.mp closed
  exact ⟨List.append_ne_nil_of_right_ne_nil _ (List.cons_ne_nil _ _),
    branchesWellFormed_append.mpr ⟨wellFormed.branches, present, wellFormed.pieces, trivial⟩⟩

end Level.WellFormed

/-- What has been read of the open groups is well-formed, and leaves room for those inside. -/
def OuterWellFormed : List GroupFrame → Prop
  | [] =>
      True
  | frame :: rest =>
      frame.level.WellFormed (nestingLimit - rest.length) ∧ OuterWellFormed rest

namespace Cursor

variable {caseInsensitive : Bool} {groups : Nat} {cursor after : Cursor} {text : List Char}
  {level : Level} {outer : List GroupFrame}

/-- A label that is read is well-formed. -/
theorem wellFormed_of_readLabel
    [PropertyParser]
    {label : Label}
    (read : readLabel caseInsensitive groups cursor = .ok (label, after)) :
    label.WellFormed := by
  unfold readLabel at read
  split at read
  · obtain ⟨_, _, second⟩ := bind_eq_ok_iff.mp read
    cases second
    exact Label.wellFormed_ofPoints _
  · obtain ⟨⟨escaped, _⟩, _, second⟩ := bind_eq_ok_iff.mp read
    cases second
    cases escaped with
    | char | points =>
        exact Label.wellFormed_ofPoints _
    | boundary =>
        exact Label.wellFormed_ofBoundary _
  · cases read
    exact Label.wellFormed_ofPoints _
  · cases read
    exact Label.wellFormed_ofBoundary _
  · cases read
    exact Label.wellFormed_ofBoundary _
  · split at read
    · contradiction
    · split at read
      · contradiction
      · cases read
        exact Label.wellFormed_ofPoints _
  · contradiction

/-- At every state of a text, what has been read so far is well-formed. -/
theorem Visits.wellFormed
    [PropertyParser]
    (visits : Visits caseInsensitive text level outer cursor) :
    level.WellFormed (nestingLimit - outer.length) ∧ OuterWellFormed outer := by
  induction visits with
  | started =>
      exact ⟨.empty _, trivial⟩
  | goesOn visits step inductionHypothesis =>
      obtain ⟨wellFormed, outerWellFormed⟩ := inductionHypothesis
      cases expressionStep_of_readInExpression step with
      | barred _ closed =>
          exact ⟨⟨(wellFormed.close closed).2, trivial⟩, outerWellFormed⟩
      | opened =>
          exact ⟨.empty _, wellFormed, outerWellFormed⟩
      | closed _ closed isOuter quantifierRead =>
          subst isOuter
          obtain ⟨frameWellFormed, restWellFormed⟩ := outerWellFormed
          obtain ⟨nonempty, branches⟩ := wellFormed.close closed
          have depth := visits.depth_le
          rw [List.length_cons] at depth branches
          refine ⟨frameWellFormed.push ⟨by omega, nonempty, ?_,
            ordered_of_readQuantifier quantifierRead⟩, restWellFormed⟩
          rwa [Nat.sub_sub]
      | labelled _ _ labelRead quantifierRead =>
          exact ⟨wellFormed.push
            ⟨wellFormed_of_readLabel labelRead, ordered_of_readQuantifier quantifierRead⟩,
            outerWellFormed⟩

end Cursor

namespace Expression

/-- What reading a text is to do. -/
structure ReadsSafely
    [PropertyParser]
    (text : String)
    (options : Options) : Prop where
  /-- All states of reading are at places of the text. -/
  visited (level : Level) (outer : List GroupFrame) (cursor : Cursor) :
    Cursor.Visits options.caseInsensitive text.toList level outer cursor →
      cursor.LiesIn text.toList
  /-- So are all states inside of classes. -/
  visitedClasses
    (level : Level) (outer : List GroupFrame) (opening : Cursor)
    (frame : ClassFrame) (classes : List ClassFrame) (cursor : Cursor) :
    Cursor.Visits options.caseInsensitive text.toList level outer opening →
      Cursor.ClassVisits options.caseInsensitive outer.length opening frame classes cursor →
        cursor.LiesIn text.toList
  /-- From a place of the text, the readers of atoms and quantifiers go on to another one. -/
  lands (cursor : Cursor) (groups : Nat) :
    cursor.LiesIn text.toList →
      Cursor.Lands text.toList cursor.readQuantifier ∧
        Cursor.Lands text.toList (Cursor.readEscape options.caseInsensitive cursor) ∧
          Cursor.Lands text.toList (Cursor.readEntry options.caseInsensitive cursor) ∧
            Cursor.Lands text.toList (Cursor.readLabel options.caseInsensitive groups cursor)
  /-- A text is refused at one of its places. -/
  refused (error : TextError) :
    parse text options = .error error →
      String.Pos.Raw.IsValid text ⟨error.offset⟩ ∧ error.offset ≤ text.utf8ByteSize
  /-- What is read is a well-formed tree. -/
  read (expression : Expression) :
    parse text options = .ok expression → expression.WellFormed
  /-- Scanning in place ends and takes slices between characters only; it reads the same. -/
  scanned :
    scan options.caseInsensitive text.toList =
      some ((parse text options).map fun expression => (expression, expression.isLiteral))

/-- An expression that is read is well-formed. -/
theorem wellFormed_of_parse
    [PropertyParser]
    {text : String}
    {options : Options}
    {expression : Expression}
    (parsed : parse text options = .ok expression) :
    expression.WellFormed := by
  obtain ⟨level, cursor, visits, _, closed⟩ :=
    Cursor.exists_visits_of_readExpression (parse_eq_ok_iff.mp parsed).2
  exact visits.wellFormed.1.close closed

/-- A text is refused between two of its characters, or at an end. -/
theorem isBoundary_of_parse
    [PropertyParser]
    {text : String}
    {options : Options}
    {error : TextError}
    (failed : parse text options = .error error) :
    Text.IsBoundary text.toList error.offset := by
  have begun : Cursor.GroupsLieIn text.toList [] (.start text.toList) :=
    ⟨Cursor.liesIn_start _, fun _ => (absurd · List.not_mem_nil)⟩
  unfold parse ofChars at failed
  split at failed
  · cases failed
    exact begun.lies.isBoundary
  · exact (begun.readExpression _ _).of_error failed

/-- Every text is either refused at one of its places or read as a well-formed tree. -/
theorem parse_readsSafely
    [PropertyParser]
    (text : String)
    (options : Options) :
    ReadsSafely text options where
  visited _ _ _ visits := visits.groupsLieIn.lies
  visitedClasses _ _ _ _ _ _ visits classVisits :=
    (classVisits.classesLieIn visits.groupsLieIn.lies).lies
  lands _ _ lies :=
    ⟨lies.readQuantifier, lies.readEscape _, lies.readEntry _, lies.readLabel _ _⟩
  refused _ failed := (isBoundary_of_parse failed).isValid
  read _ := wellFormed_of_parse
  scanned := scan_eq options.caseInsensitive text.toList

/-- A text with an accent, a property, a quantifier and an intersection is read, and scanned in place. -/
theorem parse_readsSafely_capitals :
    ∃ expression,
      parse "é(\\p\x7bLu\x7d\x7b2,3\x7d|[\\d&&[^7-9]])" {} = .ok expression ∧
        expression.WellFormed ∧
          scan false "é(\\p\x7bLu\x7d\x7b2,3\x7d|[\\d&&[^7-9]])".toList =
            some (.ok (expression, expression.isLiteral)) := by
  have read :
      (parse "é(\\p\x7bLu\x7d\x7b2,3\x7d|[\\d&&[^7-9]])" {}).toOption.isSome = true := by
    decide +kernel
  obtain ⟨expression, isExpression⟩ := Option.isSome_iff_exists.mp read
  have parsed := ok_of_toOption isExpression
  have safely := parse_readsSafely "é(\\p\x7bLu\x7d\x7b2,3\x7d|[\\d&&[^7-9]])" {}
  have scanned := safely.scanned
  rw [parsed] at scanned
  exact ⟨expression, parsed, safely.read expression parsed, scanned⟩

end Expression

end LexicalAutomata
