import LexicalAutomata.Proofs.Expression.Embedding

namespace LexicalAutomata

/-!
# Reading a class inside a longer text

A class is read in a longer text as it is read alone, state by state, unless there are so many
groups around it that the classes inside of it are nested too deep.
-/

/-- The same open class in a longer text, where more bytes are in front of it. -/
def ClassFrame.embed
    (shift : Nat)
    (frame : ClassFrame) :
    ClassFrame :=
  { frame with opening := frame.opening + shift }

/-- A text is refused because it nests too deep. -/
def TooDeep
    {α : Type}
    (result : Except TextError α) :
    Prop :=
  ∃ offset, result = .error ⟨.nestingTooDeep, offset⟩

theorem TooDeep.bind
    {α β : Type}
    {first : Except TextError α}
    (tooDeep : TooDeep first)
    (second : α → Except TextError β) :
    TooDeep (first >>= second) := by
  obtain ⟨offset, rfl⟩ := tooDeep
  exact ⟨offset, rfl⟩

namespace Cursor

variable {shift : Nat} {tail : List Char} {cursor opening after : Cursor}
  {caseInsensitive : Bool} {own groups : Nat} {frame next : ClassFrame}
  {outer rest : List ClassFrame} {points : CodePointSet}

theorem tooDeep_openClass
    {depth : Nat}
    (deep : nestingLimit ≤ depth)
    (cursor : Cursor) :
    TooDeep (cursor.openClass depth) := by
  rw [openClass, if_pos deep]
  exact ⟨_, rfl⟩

/-- An opening bracket is read alike if there is room, and there is more in the class. -/
theorem openClass_embed
    {depth ownDepth : Nat}
    (shallow : depth < nestingLimit)
    (ahead : after.rest ≠ [])
    (read : cursor.openClass ownDepth = .ok (frame, after)) :
    (cursor.embed shift tail).openClass depth =
      .ok (frame.embed shift, after.embed shift tail) := by
  have present : cursor.rest ≠ [] := by
    intro ended
    have suffix := suffix_of_openClass read
    rw [ended, List.suffix_nil] at suffix
    exact ahead suffix
  unfold openClass at read ⊢
  rw [if_neg (Nat.not_le_of_lt shallow), advance_one_embed present]
  split at read
  · contradiction
  · split at read
    · rename_i caret
      have behind := ne_nil_of_peek? caret
      have two : 2 ≤ cursor.rest.length := by
        have length := List.length_pos_iff.mpr behind
        rw [rest_advance, List.length_drop] at length
        omega
      cases read
      rw [peek?_embed behind, if_pos caret, advance_embed two]
      rfl
    · rename_i noCaret
      cases read
      rw [peek?_embed ahead, if_neg noCaret]
      rfl

theorem rest_embed
    {chars : List Char}
    (shape : cursor.rest = chars) :
    (cursor.embed shift tail).rest = chars ++ tail :=
  congrArg (· ++ tail) shape

/-- The step that completes a class is the same in a longer text. -/
theorem readInClass_embed_complete
    [PropertyParser]
    (read :
      readInClass caseInsensitive own frame outer cursor = .ok (.complete points, after)) :
    readInClass caseInsensitive groups (frame.embed shift) (outer.map (ClassFrame.embed shift))
        (cursor.embed shift tail) =
      .ok (.complete points, after.embed shift tail) := by
  generalize complete : ClassProgress.complete points = progress at read
  cases classStep_of_readInClass read with
  | closed shape hasEntry =>
      have present : cursor.rest ≠ [] := by
        simp [shape]
      have stillHas : (frame.embed shift).hasEntry = true := hasEntry
      cases outer with
      | nil =>
          cases complete
          rw [readInClass_of_closing (rest_embed shape) stillHas, advance_one_embed present]
          rfl
      | cons parent others =>
          contradiction
  | met | opened | entered =>
      contradiction

/-- A step inside a class is the same in a longer text, if the classes have room there. -/
theorem readInClass_embed
    [PropertyParser]
    (noDigit : NoDigit tail)
    (closes : ']' ∈ after.rest)
    (room : groups + rest.length + 1 ≤ nestingLimit)
    (read :
      readInClass caseInsensitive own frame outer cursor = .ok (.inside next rest, after)) :
    readInClass caseInsensitive groups (frame.embed shift) (outer.map (ClassFrame.embed shift))
        (cursor.embed shift tail) =
      .ok (.inside (next.embed shift) (rest.map (ClassFrame.embed shift)),
        after.embed shift tail) := by
  generalize inside : ClassProgress.inside next rest = progress at read
  cases classStep_of_readInClass read with
  | closed shape hasEntry =>
      have present : cursor.rest ≠ [] := by
        simp [shape]
      have stillHas : (frame.embed shift).hasEntry = true := hasEntry
      cases outer with
      | nil =>
          contradiction
      | cons parent others =>
          cases inside
          rw [readInClass_of_closing (rest_embed shape) stillHas, advance_one_embed present]
          rfl
  | met shape hasEntry =>
      have two : 2 ≤ cursor.rest.length := by
        simp [shape]
      have stillHas : (frame.embed shift).hasEntry = true := hasEntry
      cases inside
      rw [readInClass_of_pair (rest_embed shape) stillHas, advance_embed two]
      rfl
  | opened shape opens =>
      cases inside
      have shallow : groups + (outer.map (ClassFrame.embed shift)).length + 1 < nestingLimit := by
        rw [List.length_map]
        exact room
      rw [readInClass_of_opening (rest_embed shape)]
      exact bind_eq_ok_iff.mpr
        ⟨_, openClass_embed shallow (List.ne_nil_of_mem closes) opens, rfl⟩
  | @entered char others entry _ shape plain unpaired entryRead =>
      cases inside
      refine readInClass_of_entry (rest_embed shape) plain ?_
        (readEntry_embed noDigit closes entryRead)
      rintro rfl
      have more : others ≠ [] := by
        rintro rfl
        have inside := (suffix_of_readEntry entryRead).subset closes
        rw [shape] at inside
        simp at inside
      obtain ⟨second, behind, rfl⟩ := List.exists_cons_of_ne_nil more
      exact unpaired rfl

/-- A class that has no room in a longer text is refused there. -/
theorem tooDeep_readInClass
    [PropertyParser]
    (room : groups + outer.length + 1 ≤ nestingLimit)
    (deep : nestingLimit < groups + rest.length + 1)
    (read :
      readInClass caseInsensitive own frame outer cursor = .ok (.inside next rest, after)) :
    TooDeep
      (readInClass caseInsensitive groups (frame.embed shift) (outer.map (ClassFrame.embed shift))
        (cursor.embed shift tail)) := by
  generalize inside : ClassProgress.inside next rest = progress at read
  cases classStep_of_readInClass read with
  | closed =>
      cases outer with
      | nil =>
          contradiction
      | cons parent others =>
          cases inside
          rw [List.length_cons] at room
          omega
  | met | entered =>
      cases inside
      omega
  | opened shape opens =>
      cases inside
      rw [readInClass_of_opening (rest_embed shape), List.length_map]
      exact (tooDeep_openClass (Nat.le_of_lt_succ deep) _).bind _

/-- The classes inside the class at `opening` have room between `groups` groups. -/
def ClassFits
    [PropertyParser]
    (caseInsensitive : Bool)
    (own : Nat)
    (opening : Cursor)
    (groups : Nat) :
    Prop :=
  ∀ frame outer cursor,
    ClassVisits caseInsensitive own opening frame outer cursor →
      groups + outer.length + 1 ≤ nestingLimit

/--
From each state of a class, reading goes on in a longer text, if the class around it has room
there; otherwise the text is refused.
-/
theorem ClassVisits.embed
    [PropertyParser]
    (noDigit : NoDigit tail)
    (visits : ClassVisits caseInsensitive own opening frame outer cursor)
    (closes : ']' ∈ cursor.rest) :
    groups + outer.length + 1 ≤ nestingLimit ∧
        (opening.embed shift tail).readClass caseInsensitive groups =
          readClassBody caseInsensitive groups (frame.embed shift)
            (outer.map (ClassFrame.embed shift)) (cursor.embed shift tail) ∨
      ¬ClassFits caseInsensitive own opening groups ∧
        TooDeep ((opening.embed shift tail).readClass caseInsensitive groups) := by
  induction visits with
  | @opened frame after opens =>
      by_cases shallow : groups < nestingLimit
      · refine Or.inl ⟨shallow, ?_⟩
        rw [readClass, openClass_embed shallow (List.ne_nil_of_mem closes) opens]
        rfl
      · refine Or.inr ⟨fun fits => shallow (fits _ _ _ (.opened opens)), ?_⟩
        exact (tooDeep_openClass (Nat.le_of_not_lt shallow) _).bind _
  | @goesOn frame next outer rest cursor after visits step inductionHypothesis =>
      rcases inductionHypothesis ((suffix_of_readInClass step).subset closes) with
        ⟨room, same⟩ | refused
      · rw [same, readClassBody]
        by_cases stillRoom : groups + rest.length + 1 ≤ nestingLimit
        · rw [readInClass_embed noDigit closes stillRoom step]
          exact Or.inl ⟨stillRoom, rfl⟩
        · obtain ⟨offset, failed⟩ :=
            tooDeep_readInClass room (Nat.lt_of_not_le stillRoom) step
          rw [failed]
          exact Or.inr ⟨fun fits => stillRoom (fits _ _ _ (visits.goesOn step)), offset, rfl⟩
      · exact Or.inr refused

/-- A class is read alike in a longer text, if the classes inside it have room there. -/
theorem readClass_embed
    [PropertyParser]
    (noDigit : NoDigit tail)
    (fits : ClassFits caseInsensitive own opening groups)
    (read : opening.readClass caseInsensitive own = .ok (points, after)) :
    (opening.embed shift tail).readClass caseInsensitive groups =
      .ok (points, after.embed shift tail) := by
  obtain ⟨frame, outer, cursor, visits, step⟩ := exists_classVisits_of_readClass read
  have closes := closing_mem_of_readClassBody (visits.readClass_eq.symm.trans read)
  rcases visits.embed noDigit closes with ⟨_, same⟩ | ⟨unfit, _⟩
  · rw [same, readClassBody, readInClass_embed_complete step]
  · exact (unfit fits).elim

/-- A class is refused in a longer text, if some class inside it has no room there. -/
theorem tooDeep_readClass
    [PropertyParser]
    (noDigit : NoDigit tail)
    (unfit : ¬ClassFits caseInsensitive own opening groups)
    (read : opening.readClass caseInsensitive own = .ok (points, after)) :
    TooDeep ((opening.embed shift tail).readClass caseInsensitive groups) := by
  simp only [ClassFits, Classical.not_forall, Nat.not_le] at unfit
  obtain ⟨frame, outer, cursor, visits, deep⟩ := unfit
  have closes := closing_mem_of_readClassBody (visits.readClass_eq.symm.trans read)
  rcases visits.embed noDigit closes with ⟨room, _⟩ | ⟨_, tooDeep⟩
  · exact (Nat.not_le_of_lt deep room).elim
  · exact tooDeep

end Cursor

end LexicalAutomata
