import LexicalAutomata.Proofs.Expression.EmbeddedClass

namespace LexicalAutomata

/-!
# Reading an expression inside a longer one

The text of an expression is read in a longer text as it is read alone, state by state.  What
has been read in front of it goes on with its first branch, the groups around it stay open, and
only the limit on nesting can come in between.
-/

namespace Level

/-- What has been read of a group when a text is read behind something else. -/
def join
    (front level : Level) :
    Level :=
  match level.branches with
  | [] =>
      ⟨front.branches, front.pieces ++ level.pieces⟩
  | first :: rest =>
      ⟨front.branches ++ (front.pieces ++ first) :: rest, level.pieces⟩

variable {front level : Level}

/-- Nothing is joined to what is in front. -/
theorem join_empty
    (front : Level) :
    front.join .empty = front := by
  simp [join, empty]

/-- Nothing is in front of what is joined. -/
theorem empty_join
    (level : Level) :
    Level.empty.join level = level := by
  obtain ⟨branches, pieces⟩ := level
  cases branches <;> rfl

/-- A piece is pushed behind what is joined. -/
theorem join_push
    (front level : Level)
    (piece : Piece) :
    front.join (level.push piece) = (front.join level).push piece := by
  obtain ⟨branches, pieces⟩ := level
  cases branches <;> simp [join, push]

/-- Completing the last branch behind something else completes the last branch of both. -/
theorem join_bar
    (front level : Level) :
    front.join ⟨level.branches ++ [level.pieces], []⟩ =
      ⟨(front.join level).branches ++ [(front.join level).pieces], []⟩ := by
  obtain ⟨branches, pieces⟩ := level
  cases branches <;> simp [join]

/-- A branch with pieces has pieces when it is joined. -/
theorem pieces_join_ne_nil
    (present : level.pieces ≠ []) :
    (front.join level).pieces ≠ [] := by
  unfold join
  split
  · exact List.append_ne_nil_of_right_ne_nil _ present
  · exact present

end Level

/-- Where a text stands in a longer one. -/
structure Site where
  /-- The number of bytes in front of the text. -/
  shift : Nat
  /-- What is behind the text. -/
  tail : List Char
  /-- What has been read in front of the text, in the innermost group around it. -/
  front : Level
  /-- The groups around that group. -/
  around : List GroupFrame

namespace Site

variable (site : Site)

/-- What is behind the text does not go on with what was read last. -/
structure Separates : Prop where
  noDigit : NoDigit site.tail
  noQuantifier : NoQuantifier site.tail

/-- The place in the longer text of a place in the text. -/
def cursor
    (place : Cursor) :
    Cursor :=
  place.embed site.shift site.tail

/-- What has been read of a group in the longer text, where `outer` groups are around it. -/
def level
    (outer : List GroupFrame)
    (level : Level) :
    Level :=
  match outer with
  | [] =>
      site.front.join level
  | _ :: _ =>
      level

/-- The open groups in the longer text. -/
def groups : List GroupFrame → List GroupFrame
  | [] =>
      site.around
  | frame :: rest =>
      ⟨frame.opening + site.shift, site.level rest frame.level⟩ :: groups rest

variable {site}

/-- The embedded cursor is in front of the same character. -/
theorem peek?_cursor
    {place : Cursor}
    {char : Char}
    (peeked : place.peek? = some char) :
    (site.cursor place).peek? = some char :=
  (Cursor.peek?_embed (Cursor.ne_nil_of_peek? peeked)).trans peeked

/-- The embedded cursor goes on by the same character. -/
theorem advance_one_cursor
    {place : Cursor}
    {char : Char}
    (peeked : place.peek? = some char) :
    (site.cursor place).advance 1 = site.cursor (place.advance 1) :=
  Cursor.advance_one_embed (Cursor.ne_nil_of_peek? peeked)

/-- The groups around the site are open besides those inside of it. -/
theorem length_groups
    (outer : List GroupFrame) :
    (site.groups outer).length = outer.length + site.around.length := by
  induction outer with
  | nil =>
      exact (Nat.zero_add _).symm
  | cons frame rest inductionHypothesis =>
      rw [groups, List.length_cons, List.length_cons, inductionHypothesis, Nat.add_right_comm]

/-- A piece is pushed inside of the site. -/
theorem level_push
    (outer : List GroupFrame)
    (level : Level)
    (piece : Piece) :
    site.level outer (level.push piece) = (site.level outer level).push piece := by
  cases outer with
  | nil =>
      exact Level.join_push _ _ _
  | cons frame rest =>
      rfl

/-- A branch is begun inside of the site. -/
theorem level_bar
    (outer : List GroupFrame)
    (level : Level) :
    site.level outer ⟨level.branches ++ [level.pieces], []⟩ =
      ⟨(site.level outer level).branches ++ [(site.level outer level).pieces], []⟩ := by
  cases outer with
  | nil =>
      exact Level.join_bar _ _
  | cons frame rest =>
      rfl

/-- A branch with pieces has pieces inside of the site. -/
theorem pieces_level_ne_nil
    {level : Level}
    (outer : List GroupFrame)
    (present : level.pieces ≠ []) :
    (site.level outer level).pieces ≠ [] := by
  cases outer with
  | nil =>
      exact Level.pieces_join_ne_nil present
  | cons frame rest =>
      exact present

end Site

namespace Cursor

variable {site : Site} {caseInsensitive : Bool} {own groups : Nat} {cursor after : Cursor}
  {level next : Level} {outer rest : List GroupFrame} {label : Label}

section Label

variable {shift : Nat} {tail : List Char}

/-- A label is read alike in a longer text, if the classes inside it have room there. -/
theorem readLabel_embed
    [PropertyParser]
    (noDigit : NoDigit tail)
    (fits : cursor.peek? = some '[' → ClassFits caseInsensitive own cursor groups)
    (read : readLabel caseInsensitive own cursor = .ok (label, after)) :
    readLabel caseInsensitive groups (cursor.embed shift tail) =
      .ok (label, after.embed shift tail) := by
  have present := ne_nil_of_length_lt (readLabel_shorter read)
  unfold readLabel at read ⊢
  rw [peek?_embed present]
  split at read
  · rename_i bracket
    obtain ⟨⟨points, next⟩, first, second⟩ := bind_eq_ok_iff.mp read
    cases second
    exact bind_eq_ok_iff.mpr ⟨_, readClass_embed noDigit (fits bracket) first, rfl⟩
  · obtain ⟨⟨escaped, next⟩, first, second⟩ := bind_eq_ok_iff.mp read
    cases second
    exact bind_eq_ok_iff.mpr ⟨_, readEscape_embed noDigit first, rfl⟩
  · cases read
    rw [advance_one_embed present]
  · cases read
    rw [advance_one_embed present]
  · cases read
    rw [advance_one_embed present]
  · split at read
    · contradiction
    · rename_i notClosing
      split at read
      · contradiction
      · rename_i notQuantifier
        cases read
        rw [if_neg notClosing, if_neg notQuantifier, advance_one_embed present]
  · contradiction

/-- A class in brackets is refused in a longer text, if it has no room there. -/
theorem tooDeep_readLabel
    [PropertyParser]
    (noDigit : NoDigit tail)
    (bracket : cursor.peek? = some '[')
    (unfit : ¬ClassFits caseInsensitive own cursor groups)
    (read : readLabel caseInsensitive own cursor = .ok (label, after)) :
    TooDeep (readLabel caseInsensitive groups (cursor.embed shift tail)) := by
  have present := ne_nil_of_peek? bracket
  simp only [readLabel, bracket] at read
  simp only [readLabel, peek?_embed present, bracket]
  obtain ⟨⟨points, next⟩, first, second⟩ := bind_eq_ok_iff.mp read
  exact (tooDeep_readClass noDigit unfit first).bind _

end Label

section Steps

/-- Room for what is nested at a state: for the class that begins there, if one does. -/
def HasRoom
    [PropertyParser]
    (site : Site)
    (caseInsensitive : Bool)
    (outer : List GroupFrame)
    (cursor : Cursor) :
    Prop :=
  cursor.peek? = some '[' →
    ClassFits caseInsensitive outer.length cursor (outer.length + site.around.length)

/-- A step of the reader is the same in a longer text, if what is nested has room there. -/
theorem readInExpression_embed
    [PropertyParser]
    (separates : site.Separates)
    (hasRoom : HasRoom site caseInsensitive outer cursor)
    (room : rest.length + site.around.length ≤ nestingLimit)
    (read :
      readInExpression caseInsensitive level outer cursor = .ok (.inside next rest, after)) :
    readInExpression caseInsensitive (site.level outer level) (site.groups outer)
        (site.cursor cursor) =
      .ok (.inside (site.level rest next) (site.groups rest), site.cursor after) := by
  generalize inside : ExpressionProgress.inside next rest = progress at read
  cases expressionStep_of_readInExpression read with
  | ended =>
      contradiction
  | barred bar closed =>
      cases inside
      obtain ⟨nonempty, rfl⟩ := Level.close_eq_ok_iff.mp closed
      have stillClosed :=
        Level.close_of_nonempty (site.pieces_level_ne_nil outer nonempty) (site.cursor cursor)
      rw [readInExpression_of_bar (site.peek?_cursor bar) stillClosed, site.level_bar,
        site.advance_one_cursor bar]
  | @opened char opening shallow within notClosed =>
      cases inside
      have stillWithin : ((site.cursor cursor).advance 1).peek? = some char := by
        rw [site.advance_one_cursor opening]
        exact site.peek?_cursor within
      have stillShallow : (site.groups outer).length < nestingLimit := by
        rw [site.length_groups]
        rw [List.length_cons] at room
        omega
      rw [readInExpression_of_opening (site.peek?_cursor opening) stillShallow stillWithin
        notClosed, site.advance_one_cursor opening]
      rfl
  | @closed _ _ _ quantifier _ closing closed isOuter quantifierRead =>
      cases inside
      subst isOuter
      obtain ⟨nonempty, rfl⟩ := Level.close_eq_ok_iff.mp closed
      have stillRead :
          ((site.cursor cursor).advance 1).readQuantifier =
            .ok (quantifier, site.cursor after) := by
        rw [site.advance_one_cursor closing]
        exact readQuantifier_embed separates.noDigit separates.noQuantifier quantifierRead
      rw [site.level_push]
      exact readInExpression_of_closing (site.peek?_cursor closing)
        (Level.close_of_nonempty nonempty _) stillRead
  | labelled peeked plain labelRead quantifierRead =>
      cases inside
      rw [readInExpression_of_label (site.peek?_cursor peeked) plain, site.length_groups,
        site.level_push]
      refine bind_eq_ok_iff.mpr ⟨_, readLabel_embed separates.noDigit hasRoom labelRead, ?_⟩
      exact bind_eq_ok_iff.mpr
        ⟨_, readQuantifier_embed separates.noDigit separates.noQuantifier quantifierRead, rfl⟩

/-- A group that has no room in a longer text is refused there. -/
theorem tooDeep_readInExpression
    [PropertyParser]
    (room : outer.length + site.around.length ≤ nestingLimit)
    (deep : nestingLimit < rest.length + site.around.length)
    (read :
      readInExpression caseInsensitive level outer cursor = .ok (.inside next rest, after)) :
    TooDeep
      (readInExpression caseInsensitive (site.level outer level) (site.groups outer)
        (site.cursor cursor)) := by
  generalize inside : ExpressionProgress.inside next rest = progress at read
  cases expressionStep_of_readInExpression read with
  | ended =>
      contradiction
  | barred | labelled =>
      cases inside
      omega
  | opened opening _ _ _ =>
      cases inside
      have stillDeep : nestingLimit ≤ (site.groups outer).length := by
        rw [site.length_groups]
        rw [List.length_cons] at deep
        omega
      exact ⟨_, readInExpression_of_deep (site.peek?_cursor opening) stillDeep⟩
  | closed _ _ isOuter _ =>
      cases inside
      rw [isOuter, List.length_cons] at room
      omega

/-- A class that has no room in a longer text is refused there. -/
theorem tooDeep_readInExpression_of_bracket
    [PropertyParser]
    (separates : site.Separates)
    (bracket : cursor.peek? = some '[')
    (unfit :
      ¬ClassFits caseInsensitive outer.length cursor (outer.length + site.around.length))
    {progress : ExpressionProgress}
    (read : readInExpression caseInsensitive level outer cursor = .ok (progress, after)) :
    TooDeep
      (readInExpression caseInsensitive (site.level outer level) (site.groups outer)
        (site.cursor cursor)) := by
  have plain : '[' ∉ ['|', '(', ')'] := by
    decide
  rw [readInExpression_of_label bracket plain] at read
  rw [readInExpression_of_label (site.peek?_cursor bracket) plain, site.length_groups]
  obtain ⟨⟨label, behindLabel⟩, labelRead, _⟩ := bind_eq_ok_iff.mp read
  exact (tooDeep_readLabel separates.noDigit bracket unfit labelRead).bind _

end Steps

section Text

variable {text : List Char} {expression : Expression}

/-- What a text nests has room between some groups. -/
def Fits
    [PropertyParser]
    (caseInsensitive : Bool)
    (text : List Char)
    (groups : Nat) :
    Prop :=
  ∀ depth, Nests caseInsensitive text depth → depth + groups ≤ nestingLimit

/-- A text that fits has room at each of its places. -/
theorem Fits.hasRoom
    [PropertyParser]
    (fits : Fits caseInsensitive text site.around.length)
    (visits : Visits caseInsensitive text level outer cursor) :
    HasRoom site caseInsensitive outer cursor := by
  intro bracket frame classes place classVisits
  have room := fits _ (.classes visits bracket classVisits)
  omega

/-- Reading a text where it stands in a longer one, and what is behind it. -/
def readAt
    [PropertyParser]
    (site : Site)
    (caseInsensitive : Bool)
    (text : List Char) :
    Except TextError Expression :=
  readExpression caseInsensitive site.front site.around (site.cursor (.start text))

/-- A step that is too deep ends the reading. -/
theorem tooDeep_readExpression
    [PropertyParser]
    (tooDeep : TooDeep (readInExpression caseInsensitive level outer cursor)) :
    TooDeep (readExpression caseInsensitive level outer cursor) := by
  obtain ⟨offset, failed⟩ := tooDeep
  rw [readExpression, failed]
  exact ⟨offset, rfl⟩

/--
From each state of a text, reading goes on in a longer text, if what is nested so far has room
there; otherwise the longer text is refused.
-/
theorem Visits.embed
    [PropertyParser]
    (separates : site.Separates)
    (shallow : site.around.length ≤ nestingLimit)
    (visits : Visits caseInsensitive text level outer cursor) :
    outer.length + site.around.length ≤ nestingLimit ∧
        readAt site caseInsensitive text =
          readExpression caseInsensitive (site.level outer level) (site.groups outer)
            (site.cursor cursor) ∨
      ¬Fits caseInsensitive text site.around.length ∧
        TooDeep (readAt site caseInsensitive text) := by
  induction visits with
  | started =>
      refine Or.inl ⟨by rwa [List.length_nil, Nat.zero_add], ?_⟩
      rw [Site.level, Level.join_empty]
      rfl
  | @goesOn level next outer rest cursor after visits step inductionHypothesis =>
      rcases inductionHypothesis with ⟨room, same⟩ | refused
      · rw [same]
        by_cases hasRoom : HasRoom site caseInsensitive outer cursor
        · by_cases stillRoom : rest.length + site.around.length ≤ nestingLimit
          · rw [readExpression, readInExpression_embed separates hasRoom stillRoom step]
            exact Or.inl ⟨stillRoom, rfl⟩
          · refine Or.inr ⟨fun fits => stillRoom (fits _ (.groups (visits.goesOn step))), ?_⟩
            exact tooDeep_readExpression
              (tooDeep_readInExpression room (Nat.lt_of_not_le stillRoom) step)
        · refine Or.inr ⟨fun fits => hasRoom (fits.hasRoom visits), ?_⟩
          obtain ⟨bracket, unfit⟩ := Classical.not_imp.mp hasRoom
          exact tooDeep_readExpression
            (tooDeep_readInExpression_of_bracket separates bracket unfit step)
      · exact Or.inr refused

/--
A text that can be read is read alike in a longer text, if what it nests has room there.  Then
reading goes on behind it, with its last branch still open.
-/
theorem exists_readAt_eq
    [PropertyParser]
    (separates : site.Separates)
    (shallow : site.around.length ≤ nestingLimit)
    (fits : Fits caseInsensitive text site.around.length)
    (read : readExpression caseInsensitive .empty [] (.start text) = .ok expression) :
    ∃ (last : Level) (offset : Nat),
      last.pieces ≠ [] ∧
        expression = last.branches ++ [last.pieces] ∧
          readAt site caseInsensitive text =
            readExpression caseInsensitive (site.front.join last) site.around
              ⟨site.tail, offset⟩ := by
  obtain ⟨last, cursor, visits, ended, closed⟩ := exists_visits_of_readExpression read
  obtain ⟨nonempty, same⟩ := Level.close_eq_ok_iff.mp closed
  rcases visits.embed separates shallow with ⟨_, sameRead⟩ | ⟨unfit, _⟩
  · refine ⟨last, cursor.offset + site.shift, nonempty, same, sameRead.trans ?_⟩
    have behind : site.cursor cursor = ⟨site.tail, cursor.offset + site.shift⟩ := by
      have none : cursor.rest = [] := List.head?_eq_none_iff.mp ended
      rw [Site.cursor, Cursor.embed, none, List.nil_append]
    rw [behind]
    rfl
  · exact (unfit fits).elim

/-- A longer text is refused, if something in the text has no room there. -/
theorem tooDeep_readAt
    [PropertyParser]
    (separates : site.Separates)
    (shallow : site.around.length ≤ nestingLimit)
    (unfit : ¬Fits caseInsensitive text site.around.length)
    (read : readExpression caseInsensitive .empty [] (.start text) = .ok expression) :
    TooDeep (readAt site caseInsensitive text) := by
  simp only [Fits, Classical.not_forall, Nat.not_le] at unfit
  obtain ⟨depth, nests, deep⟩ := unfit
  cases nests with
  | groups visits =>
      rcases visits.embed separates shallow with ⟨room, _⟩ | ⟨_, tooDeep⟩
      · exact (Nat.not_le_of_lt deep room).elim
      · exact tooDeep
  | @classes level outer opening cursor frame classes visits bracket classVisits =>
      rcases visits.embed separates shallow with ⟨room, same⟩ | ⟨_, tooDeep⟩
      · have unfitClass :
            ¬ClassFits caseInsensitive outer.length opening
              (outer.length + site.around.length) := by
          intro fits
          have fit := fits _ _ _ classVisits
          omega
        rw [visits.readExpression_eq, readExpression] at read
        split at read
        · contradiction
        all_goals
          rename_i step
          rw [same]
          exact tooDeep_readExpression
            (tooDeep_readInExpression_of_bracket separates bracket unfitClass step)
      · exact tooDeep

end Text

end Cursor

end LexicalAutomata
