import LexicalAutomata.Proofs.Expression.Suffix

namespace LexicalAutomata.Cursor

/-!
# The states of the readers

Reading a text goes through states: the level and the open groups in front of a place, and
inside of brackets the open classes.  Where reading goes on from a state of a text, it gives
what it gives from the start of the text.  How many groups and classes are open at once is
bounded by the limit on nesting, and by the characters of the text that may open one.
-/

section Steps

variable {caseInsensitive : Bool} {groups : Nat} {frame : ClassFrame} {outer : List ClassFrame}
  {cursor after : Cursor} {progress : ClassProgress}

/-- What a step of the reader has read inside a class, and where it leads. -/
inductive ClassStep
    [PropertyParser]
    (caseInsensitive : Bool)
    (groups : Nat)
    (frame : ClassFrame)
    (outer : List ClassFrame)
    (cursor : Cursor) :
    ClassProgress →
    Cursor →
    Prop where
  /-- The closing bracket of a class with something in its last operand. -/
  | closed
      {rest : List Char} :
      cursor.rest = ']' :: rest →
      frame.hasEntry = true →
      ClassStep caseInsensitive groups frame outer cursor (closeClass frame outer)
        (cursor.advance 1)
  /-- The two ampersands behind an operand. -/
  | met
      {rest : List Char} :
      cursor.rest = '&' :: '&' :: rest →
      frame.hasEntry = true →
      ClassStep caseInsensitive groups frame outer cursor (.inside frame.nextOperand outer)
        (cursor.advance 2)
  /-- The opening bracket of a class inside the class. -/
  | opened
      {rest : List Char}
      {inner : ClassFrame}
      {after : Cursor} :
      cursor.rest = '[' :: rest →
      cursor.openClass (groups + outer.length + 1) = .ok (inner, after) →
      ClassStep caseInsensitive groups frame outer cursor (.inside inner (frame :: outer)) after
  /-- An entry that is not a class in brackets. -/
  | entered
      {char : Char}
      {rest : List Char}
      {entry : CodePointSet}
      {after : Cursor} :
      cursor.rest = char :: rest →
      char ∉ [']', '['] →
      (char = '&' → rest.head? ≠ some '&') →
      readEntry caseInsensitive cursor = .ok (entry, after) →
      ClassStep caseInsensitive groups frame outer cursor (.inside (frame.add entry) outer) after

/-- The reader goes on by one of the steps. -/
theorem classStep_of_readInClass
    [PropertyParser]
    (read : readInClass caseInsensitive groups frame outer cursor = .ok (progress, after)) :
    ClassStep caseInsensitive groups frame outer cursor progress after := by
  unfold readInClass at read
  split at read
  · contradiction
  · rename_i shape
    split at read
    · rename_i hasEntry
      cases read
      exact .closed shape hasEntry
    · contradiction
  · rename_i shape
    split at read
    · rename_i hasEntry
      cases read
      exact .met shape hasEntry
    · contradiction
  · rename_i shape
    obtain ⟨⟨inner, next⟩, first, second⟩ := bind_eq_ok_iff.mp read
    cases second
    exact .opened shape first
  · rename_i present notClosing notPair notOpening
    obtain ⟨⟨entry, next⟩, first, second⟩ := bind_eq_ok_iff.mp read
    cases second
    obtain ⟨char, rest, shape⟩ := List.exists_cons_of_ne_nil present
    refine .entered shape ?_ ?_ first
    · simp only [List.mem_cons, List.not_mem_nil, or_false, not_or]
      constructor
      · rintro rfl
        exact notClosing rest shape
      · rintro rfl
        exact notOpening rest shape
    · rintro rfl second
      obtain ⟨others, rfl⟩ := List.head?_eq_some_iff.mp second
      exact notPair others shape

theorem readInClass_of_closing
    [PropertyParser]
    {rest : List Char}
    (shape : cursor.rest = ']' :: rest)
    (hasEntry : frame.hasEntry = true) :
    readInClass caseInsensitive groups frame outer cursor =
      .ok (closeClass frame outer, cursor.advance 1) := by
  simp only [readInClass, shape, hasEntry, if_true]

theorem readInClass_of_pair
    [PropertyParser]
    {rest : List Char}
    (shape : cursor.rest = '&' :: '&' :: rest)
    (hasEntry : frame.hasEntry = true) :
    readInClass caseInsensitive groups frame outer cursor =
      .ok (.inside frame.nextOperand outer, cursor.advance 2) := by
  simp only [readInClass, shape, hasEntry, if_true]

theorem readInClass_of_opening
    [PropertyParser]
    {rest : List Char}
    (shape : cursor.rest = '[' :: rest) :
    readInClass caseInsensitive groups frame outer cursor =
      cursor.openClass (groups + outer.length + 1) >>= fun (inner, after) =>
        .ok (.inside inner (frame :: outer), after) := by
  simp only [readInClass, shape]

/-- Where neither a bracket nor an ampersand pair is next, an entry is read. -/
theorem readInClass_eq_entry
    [PropertyParser]
    {char : Char}
    {rest : List Char}
    (shape : cursor.rest = char :: rest)
    (plain : char ∉ [']', '['])
    (unpaired : char = '&' → rest.head? ≠ some '&') :
    readInClass caseInsensitive groups frame outer cursor =
      readEntry caseInsensitive cursor >>= fun (entry, after) =>
        .ok (.inside (frame.add entry) outer, after) := by
  simp only [List.mem_cons, List.not_mem_nil, or_false, not_or] at plain
  obtain ⟨notClosing, notOpening⟩ := plain
  unfold readInClass
  rw [shape]
  split
  · contradiction
  · rename_i same
    exact (notClosing (List.cons.inj same).1).elim
  · rename_i same
    obtain ⟨rfl, rfl⟩ := List.cons.inj same
    exact (unpaired rfl rfl).elim
  · rename_i same
    exact (notOpening (List.cons.inj same).1).elim
  · rfl

theorem readInClass_of_entry
    [PropertyParser]
    {char : Char}
    {rest : List Char}
    (shape : cursor.rest = char :: rest)
    (plain : char ∉ [']', '['])
    (unpaired : char = '&' → rest.head? ≠ some '&')
    {entry : CodePointSet}
    (read : readEntry caseInsensitive cursor = .ok (entry, after)) :
    readInClass caseInsensitive groups frame outer cursor =
      .ok (.inside (frame.add entry) outer, after) := by
  rw [readInClass_eq_entry shape plain unpaired, read]
  rfl

end Steps

section Class

variable {caseInsensitive : Bool} {groups : Nat} {opening : Cursor}

/--
The states inside the class whose bracket is at `opening`, with `groups` groups around it: the
innermost open class, the classes around that, and the place.
-/
inductive ClassVisits
    [PropertyParser]
    (caseInsensitive : Bool)
    (groups : Nat)
    (opening : Cursor) :
    ClassFrame →
    List ClassFrame →
    Cursor →
    Prop where
  | opened
      {frame : ClassFrame}
      {after : Cursor} :
      opening.openClass groups = .ok (frame, after) →
      ClassVisits caseInsensitive groups opening frame [] after
  | goesOn
      {frame next : ClassFrame}
      {outer rest : List ClassFrame}
      {cursor after : Cursor} :
      ClassVisits caseInsensitive groups opening frame outer cursor →
      readInClass caseInsensitive groups frame outer cursor = .ok (.inside next rest, after) →
      ClassVisits caseInsensitive groups opening next rest after

variable {frame : ClassFrame} {outer : List ClassFrame} {cursor after : Cursor}
  {points : CodePointSet}

/-- Reading a class goes on from each of its states to the same end. -/
theorem ClassVisits.readClass_eq
    [PropertyParser]
    (visits : ClassVisits caseInsensitive groups opening frame outer cursor) :
    opening.readClass caseInsensitive groups =
      readClassBody caseInsensitive groups frame outer cursor := by
  induction visits with
  | opened opens =>
      rw [readClass, opens]
      rfl
  | goesOn _ step inductionHypothesis =>
      rw [inductionHypothesis, readClassBody, step]

/-- A class that has been read was closed in the last of its states. -/
theorem exists_classVisits_of_readClass
    [PropertyParser]
    (read : opening.readClass caseInsensitive groups = .ok (points, after)) :
    ∃ frame outer cursor,
      ClassVisits caseInsensitive groups opening frame outer cursor ∧
        readInClass caseInsensitive groups frame outer cursor = .ok (.complete points, after) := by
  obtain ⟨⟨frame, next⟩, opens, body⟩ := bind_eq_ok_iff.mp read
  have begun : ClassVisits caseInsensitive groups opening frame [] next := .opened opens
  clear opens read
  dsimp only at body
  generalize [] = outer at begun body
  fun_induction readClassBody caseInsensitive groups frame outer next with
  | case1 =>
      contradiction
  | case2 frame outer cursor _ _ step =>
      cases body
      exact ⟨frame, outer, cursor, begun, step⟩
  | case3 _ _ _ _ _ _ step inductionHypothesis =>
      exact inductionHypothesis (begun.goesOn step) body

/-- A class that is closed has a closing bracket ahead. -/
theorem closing_mem_of_readClassBody
    [PropertyParser]
    (read : readClassBody caseInsensitive groups frame outer cursor = .ok (points, after)) :
    ']' ∈ cursor.rest := by
  fun_induction readClassBody caseInsensitive groups frame outer cursor with
  | case1 =>
      contradiction
  | case2 frame outer cursor _ _ step =>
      generalize complete : ClassProgress.complete _ = progress at step
      cases classStep_of_readInClass step with
      | closed shape _ =>
          rw [shape]
          exact List.mem_cons_self
      | met | opened | entered =>
          contradiction
  | case3 _ _ _ _ _ _ step inductionHypothesis =>
      exact (suffix_of_readInClass step).subset (inductionHypothesis read)

/-- The classes and groups that are open at once are not more than the limit allows. -/
theorem ClassVisits.depth_le
    [PropertyParser]
    (visits : ClassVisits caseInsensitive groups opening frame outer cursor) :
    groups + outer.length + 1 ≤ nestingLimit := by
  have shallow :
      ∀ {depth cursor frame after},
        openClass depth cursor = .ok (frame, after) → depth < nestingLimit := by
    intro depth cursor frame after opens
    unfold openClass at opens
    split at opens
    · contradiction
    · rename_i notDeep
      exact Nat.lt_of_not_le notDeep
  induction visits with
  | opened opens =>
      exact shallow opens
  | @goesOn frame next outer rest cursor after _ step inductionHypothesis =>
      generalize progress : ClassProgress.inside next rest = reached at step
      cases classStep_of_readInClass step with
      | closed =>
          cases outer with
          | nil =>
              contradiction
          | cons parent others =>
              cases progress
              rw [List.length_cons] at inductionHypothesis
              omega
      | met | entered =>
          cases progress
          exact inductionHypothesis
      | opened _ opens =>
          cases progress
          exact shallow opens

end Class

section Expression

variable {caseInsensitive : Bool} {text : List Char}

/--
The states of reading a text: what has been read of the innermost open group, the groups
around it, and the place.
-/
inductive Visits
    [PropertyParser]
    (caseInsensitive : Bool)
    (text : List Char) :
    Level →
    List GroupFrame →
    Cursor →
    Prop where
  | started :
      Visits caseInsensitive text .empty [] (.start text)
  | goesOn
      {level next : Level}
      {outer rest : List GroupFrame}
      {cursor after : Cursor} :
      Visits caseInsensitive text level outer cursor →
      readInExpression caseInsensitive level outer cursor = .ok (.inside next rest, after) →
      Visits caseInsensitive text next rest after

variable {level : Level} {outer : List GroupFrame} {cursor : Cursor} {expression : Expression}

/-- Reading a text goes on from each of its states to the same end. -/
theorem Visits.readExpression_eq
    [PropertyParser]
    (visits : Visits caseInsensitive text level outer cursor) :
    readExpression caseInsensitive .empty [] (.start text) =
      readExpression caseInsensitive level outer cursor := by
  induction visits with
  | started =>
      rfl
  | goesOn _ step inductionHypothesis =>
      rw [inductionHypothesis, readExpression, step]

/-- A text that has been read ended in the last of its states. -/
theorem exists_visits_of_readExpression
    [PropertyParser]
    (read : readExpression caseInsensitive .empty [] (.start text) = .ok expression) :
    ∃ level cursor,
      Visits caseInsensitive text level [] cursor ∧
        cursor.peek? = none ∧ level.close cursor = .ok expression := by
  refine readExpression_induction (Visits caseInsensitive text)
    (fun expression =>
      ∃ level cursor,
        Visits caseInsensitive text level [] cursor ∧
          cursor.peek? = none ∧ level.close cursor = .ok expression)
    (fun visits step => visits.goesOn step) ?_ .started read
  intro level outer cursor expression after visits step
  cases expressionStep_of_readInExpression step with
  | ended absent closed none =>
      subst none
      exact ⟨level, cursor, visits, absent, closed⟩

/-- The groups that are open at once are not more than the limit allows. -/
theorem Visits.depth_le
    [PropertyParser]
    (visits : Visits caseInsensitive text level outer cursor) :
    outer.length ≤ nestingLimit := by
  induction visits with
  | started =>
      exact Nat.zero_le _
  | goesOn _ step inductionHypothesis =>
      cases expressionStep_of_readInExpression step with
      | barred | labelled =>
          exact inductionHypothesis
      | opened _ shallow _ _ =>
          exact shallow
      | closed _ _ isOuter _ =>
          rw [isOuter, List.length_cons] at inductionHypothesis
          omega

/-- At some state of a text, `depth` groups and classes are open at once. -/
inductive Nests
    [PropertyParser]
    (caseInsensitive : Bool)
    (text : List Char) :
    Nat →
    Prop where
  | groups
      {level : Level}
      {outer : List GroupFrame}
      {cursor : Cursor} :
      Visits caseInsensitive text level outer cursor →
      Nests caseInsensitive text outer.length
  | classes
      {level : Level}
      {outer : List GroupFrame}
      {opening cursor : Cursor}
      {frame : ClassFrame}
      {classes : List ClassFrame} :
      Visits caseInsensitive text level outer opening →
      opening.peek? = some '[' →
      ClassVisits caseInsensitive outer.length opening frame classes cursor →
      Nests caseInsensitive text (outer.length + classes.length + 1)

theorem Nests.le_nestingLimit
    [PropertyParser]
    {depth : Nat}
    (nests : Nests caseInsensitive text depth) :
    depth ≤ nestingLimit := by
  cases nests with
  | groups visits =>
      exact visits.depth_le
  | classes _ _ visits =>
      exact visits.depth_le

end Expression

section Openings

variable {caseInsensitive : Bool} {text : List Char} {cursor after opening : Cursor}

/-- The characters of a text that may open a group or a class. -/
def openings
    (text : List Char) :
    Nat :=
  text.countP (· ∈ ['(', '['])

theorem openings_le_of_suffix
    {first second : List Char}
    (suffix : first <:+ second) :
    openings first ≤ openings second :=
  suffix.sublist.countP_le

/-- What is behind an opening character has fewer of them. -/
theorem openings_lt_of_suffix
    {char : Char}
    (peeked : cursor.peek? = some char)
    (opens : char ∈ ['(', '['])
    (suffix : after.rest <:+ (cursor.advance 1).rest) :
    openings after.rest < openings cursor.rest := by
  obtain ⟨rest, shape⟩ := List.head?_eq_some_iff.mp peeked
  rw [rest_advance, shape, List.drop_succ_cons, List.drop_zero] at suffix
  have counted : openings (char :: rest) = openings rest + 1 :=
    List.countP_cons_of_pos (decide_eq_true opens)
  rw [shape, counted]
  exact Nat.lt_succ_of_le (openings_le_of_suffix suffix)

theorem openings_lt_of_openClass
    {depth : Nat}
    {frame : ClassFrame}
    (peeked : cursor.peek? = some '[')
    (opened : cursor.openClass depth = .ok (frame, after)) :
    openings after.rest < openings cursor.rest := by
  refine openings_lt_of_suffix peeked (by decide) ?_
  unfold openClass at opened
  split at opened
  · contradiction
  · split at opened
    · cases opened
      rw [rest_advance, rest_advance]
      exact List.drop_suffix_drop_left _ (by decide)
    · cases opened
      exact List.suffix_rfl

/-- Every open class has an opening character of its own, and those ahead are others. -/
theorem ClassVisits.openings_le
    [PropertyParser]
    {groups : Nat}
    {frame : ClassFrame}
    {classes : List ClassFrame}
    (bracket : opening.peek? = some '[')
    (visits : ClassVisits caseInsensitive groups opening frame classes cursor) :
    classes.length + 1 + openings cursor.rest ≤ openings opening.rest := by
  induction visits with
  | opened opened =>
      have fewer := openings_lt_of_openClass bracket opened
      rw [List.length_nil]
      omega
  | @goesOn frame next classes rest cursor after _ step inductionHypothesis =>
      have ahead := openings_le_of_suffix (suffix_of_readInClass step)
      generalize inside : ClassProgress.inside next rest = progress at step
      cases classStep_of_readInClass step with
      | closed =>
          cases classes with
          | nil =>
              contradiction
          | cons frame others =>
              cases inside
              rw [List.length_cons] at inductionHypothesis
              omega
      | met | entered =>
          cases inside
          omega
      | opened shape opened =>
          cases inside
          have peeked : cursor.peek? = some '[' := by
            rw [peek?, shape, List.head?_cons]
          have fewer := openings_lt_of_openClass peeked opened
          rw [List.length_cons]
          omega

/-- Every open group has an opening character of its own, and those ahead are others. -/
theorem Visits.openings_le
    [PropertyParser]
    {level : Level}
    {outer : List GroupFrame}
    (visits : Visits caseInsensitive text level outer cursor) :
    outer.length + openings cursor.rest ≤ openings text := by
  induction visits with
  | started =>
      exact Nat.le_of_eq (Nat.zero_add _)
  | goesOn _ step inductionHypothesis =>
      have ahead := openings_le_of_suffix (suffix_of_readInExpression step)
      cases expressionStep_of_readInExpression step with
      | barred | labelled =>
          omega
      | opened peeked _ _ _ =>
          have fewer := openings_lt_of_suffix peeked (by decide) List.suffix_rfl
          rw [List.length_cons]
          omega
      | closed _ _ isOuter _ =>
          rw [isOuter, List.length_cons] at inductionHypothesis
          omega

/-- No more groups and classes are open at once than a text has opening characters. -/
theorem Nests.le_openings
    [PropertyParser]
    {depth : Nat}
    (nests : Nests caseInsensitive text depth) :
    depth ≤ openings text := by
  cases nests with
  | groups visits =>
      exact Nat.le_trans (Nat.le_add_right _ _) visits.openings_le
  | classes visits bracket classVisits =>
      have outside := visits.openings_le
      have inside := classVisits.openings_le bracket
      omega

end Openings

end LexicalAutomata.Cursor
