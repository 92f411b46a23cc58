import LexicalAutomata.Proofs.Expression.Suffix
import Mathlib.Data.List.Infix
import Mathlib.Data.List.TakeWhile

namespace LexicalAutomata

/-!
# Reading without regard to case

A text that can be read stays one when case does not matter, and every atom of it ends where
it ended.  The set of an atom can lose code points in two ways only: by a complement, and by
a class of capitals, which then stands for the small letters.
-/

namespace NamedClass

/-- The names that stand for other classes when case does not matter. -/
def capitalNames : List String :=
  ["Upper", "javaUpperCase", "Lu", "IsLu"]

theorem foldedName_of_not_capital
    {name : String}
    (notCapital : name ∉ capitalNames) :
    foldedName name = name := by
  unfold foldedName
  split <;> simp_all [capitalNames]

/-- The small letters have a set, whatever the version of Unicode. -/
theorem isSome_category?_smallLetters
    [PropertyParser] :
    (category? "Ll").isSome = true := by
  rw [category?, if_pos (by decide), if_neg (by decide), Option.isSome_map]
  exact PropertyParser.isSome_category "Ll" (by decide) (by decide)

/-- What stands for capitals when case does not matter is known. -/
theorem isSome_named?_of_capital
    [PropertyParser]
    {name : String}
    (capital : name ∈ capitalNames) :
    (named? name true).isSome = true := by
  have isSmallLetters : byName? "Ll" = category? "Ll" := rfl
  simp only [capitalNames, List.mem_cons, List.not_mem_nil, or_false] at capital
  rcases capital with rfl | rfl | rfl | rfl
  case inl =>
    rfl
  case inr.inl =>
    rfl
  all_goals
    change (byName? "Ll").isSome = true
    rw [isSmallLetters]
    exact isSome_category?_smallLetters

/-- A known name stays known when case does not matter. -/
theorem exists_named?_folded
    [PropertyParser]
    {name : String}
    {points : CodePointSet}
    (known : named? name false = some points) :
    ∃ wider, named? name true = some wider ∧ (name ∉ capitalNames → wider = points) := by
  by_cases capital : name ∈ capitalNames
  · obtain ⟨wider, isWider⟩ := Option.isSome_iff_exists.mp (isSome_named?_of_capital capital)
    exact ⟨wider, isWider, fun notCapital => (notCapital capital).elim⟩
  · refine ⟨points, ?_, fun _ => rfl⟩
    rw [← known, named?, named?, if_pos rfl, foldedName_of_not_capital capital]
    rfl

end NamedClass

/-- A text without complements, and without classes of capitals. -/
structure Foldable
    (text : List Char) : Prop where
  noNegation : ¬ ['[', '^'] <:+: text
  noComplement : ¬ ['\\', 'P'] <:+: text
  noCapitals :
    ∀ name ∈ NamedClass.capitalNames,
      ¬ '\\' :: 'p' :: '\x7b' :: (name.toList ++ ['\x7d']) <:+: text

/-- What stands somewhere in the end of a text stands in the text. -/
theorem infix_of_suffix
    {part behind rest text : List Char}
    (shape : rest = part ++ behind)
    (inside : rest <:+ text) :
    part <:+: text :=
  (shape ▸ (List.prefix_append part behind).isInfix).trans inside.isInfix

/-- If a text can be folded, a set has everything that another one has. -/
def CodePointSet.WidensIn
    (text : List Char)
    (points wider : CodePointSet) :
    Prop :=
  Foldable text → ∀ codePoint ∈ points, codePoint ∈ wider

/-- Escapes are the same, or stand for sets of which one widens to the other. -/
inductive Escaped.WidensIn
    (text : List Char) :
    Escaped →
    Escaped →
    Prop where
  | same
      (escaped : Escaped) :
      WidensIn text escaped escaped
  | points
      {points wider : CodePointSet} :
      points.WidensIn text wider →
      WidensIn text (.points points) (.points wider)

namespace Cursor

variable {α β γ δ : Type}

/-- Where a reader succeeds, another one ends at the same place with a related value. -/
def Parallel
    (related : α → β → Prop)
    (read : Except TextError (α × Cursor))
    (other : Except TextError (β × Cursor)) :
    Prop :=
  ∀ value after,
    read = .ok (value, after) → ∃ wider, other = .ok (wider, after) ∧ related value wider

namespace Parallel

variable {related : α → β → Prop} {other : Except TextError (β × Cursor)}

theorem ok
    {value : α}
    {wider : β}
    (holds : related value wider)
    (after : Cursor) :
    Parallel related (.ok (value, after)) (.ok (wider, after)) := by
  rintro _ _ ⟨⟩
  exact ⟨wider, rfl, holds⟩

theorem failAt
    {offset : Nat}
    {fault : Fault} :
    Parallel related (failAt offset fault) other := by
  rintro _ _ ⟨⟩

theorem fail
    {cursor : Cursor}
    {fault : Fault} :
    Parallel related (cursor.fail fault) other :=
  failAt

theorem refl
    (read : Except TextError (α × Cursor)) :
    Parallel Eq read read :=
  fun value _ succeeded => ⟨value, succeeded, rfl⟩

theorem mono
    {weaker : α → β → Prop}
    {read : Except TextError (α × Cursor)}
    (parallel : Parallel related read other)
    (weakens : ∀ value wider, related value wider → weaker value wider) :
    Parallel weaker read other := by
  intro value after succeeded
  obtain ⟨wider, otherSucceeded, holds⟩ := parallel value after succeeded
  exact ⟨wider, otherSucceeded, weakens _ _ holds⟩

theorem bind
    {read : Except TextError (α × Cursor)}
    {result : γ → δ → Prop}
    {second : α × Cursor → Except TextError (γ × Cursor)}
    {otherSecond : β × Cursor → Except TextError (δ × Cursor)}
    (first : Parallel related read other)
    (behind :
      ∀ value wider after,
        read = .ok (value, after) →
          related value wider →
            Parallel result (second (value, after)) (otherSecond (wider, after))) :
    Parallel result (read >>= second) (other >>= otherSecond) := by
  intro answer last succeeded
  obtain ⟨⟨value, after⟩, firstRead, secondRead⟩ := bind_eq_ok_iff.mp succeeded
  obtain ⟨wider, otherRead, holds⟩ := first value after firstRead
  obtain ⟨widerAnswer, otherSecondRead, answerHolds⟩ :=
    behind value wider after firstRead holds answer last secondRead
  exact ⟨widerAnswer, bind_eq_ok_iff.mpr ⟨_, otherRead, otherSecondRead⟩, answerHolds⟩

end Parallel

section Escape

variable {cursor opening after : Cursor} {whole : List Char}

/-- The text at a place is the next character and the text behind it. -/
theorem rest_eq_cons
    {char : Char}
    (present : cursor.peek? = some char) :
    cursor.rest = char :: (cursor.advance 1).rest := by
  obtain ⟨rest, offset⟩ := cursor
  cases rest with
  | nil =>
      contradiction
  | cons head tail =>
      cases present
      rfl

/-- A name is a single character, or stands between braces. -/
theorem rest_of_readClassName
    {name : String}
    (read : cursor.readClassName = .ok (name, after)) :
    name.length = 1 ∨ cursor.rest = '\x7b' :: (name.toList ++ '\x7d' :: after.rest) := by
  unfold readClassName at read
  dsimp only at read
  split at read
  case isTrue present =>
    right
    obtain ⟨behind, parts, stops⟩ := (cursor.advance 1).exists_behind_run (· != '\x7d')
    generalize (cursor.advance 1).run (· != '\x7d') = front at read parts
    have shape : cursor.rest = '\x7b' :: (front ++ behind) := by
      rw [← parts]
      exact rest_eq_cons present
    have dropped : cursor.rest.drop (1 + front.length) = behind := by
      rw [shape, Nat.add_comm, List.drop_succ_cons, List.drop_left]
    split at read
    · contradiction
    · rename_i notEnded
      rw [rest_advance, dropped] at notEnded
      cases read
      cases behind with
      | nil =>
          exact (notEnded rfl).elim
      | cons closing tail =>
          obtain rfl : closing = '\x7d' := by simpa using stops closing rfl
          rw [rest_advance, rest_advance, dropped, shape, String.toList_ofList]
          rfl
  case isFalse =>
    left
    obtain ⟨⟨char, next⟩, _, second⟩ := bind_eq_ok_iff.mp read
    cases second
    simp

/-- Only a class of capitals is another class when case does not matter. -/
theorem parallel_readNamedClass
    [PropertyParser] :
    Parallel
      (fun points wider =>
        (∀ name ∈ NamedClass.capitalNames,
          ¬ '\x7b' :: (name.toList ++ ['\x7d']) <+: cursor.rest) →
            wider = points)
      (cursor.readNamedClass false) (cursor.readNamedClass true) := by
  refine (Parallel.refl _).bind ?_
  rintro name _ after read rfl
  dsimp only
  cases known : NamedClass.named? name false with
  | none =>
      exact .fail
  | some points =>
      obtain ⟨wider, folded, same⟩ := NamedClass.exists_named?_folded known
      rw [folded]
      refine .ok (fun noCapitals => same fun capital => ?_) after
      rcases rest_of_readClassName read with single | braced
      · have longer : ∀ name ∈ NamedClass.capitalNames, name.length ≠ 1 := by
          decide
        exact longer name capital single
      · apply noCapitals name capital
        exact ⟨after.rest, by simp [braced]⟩

/-- Behind a long escape's letter, only the names of classes are read in another way. -/
theorem parallel_readLongEscape
    [PropertyParser]
    {letter : Char}
    (shape : opening.rest = '\\' :: letter :: cursor.rest)
    (inside : opening.rest <:+ whole) :
    Parallel (Escaped.WidensIn whole) (readLongEscape false opening letter cursor)
      (readLongEscape true opening letter cursor) := by
  unfold readLongEscape
  split
  case h_5 =>
    refine parallel_readNamedClass.bind ?_
    intro points wider after _ same
    refine .ok (.points fun foldable codePoint member => ?_) after
    rw [same]
    · exact member
    · rintro name capital ⟨behind, named⟩
      have written :
          opening.rest = '\\' :: 'p' :: '\x7b' :: (name.toList ++ ['\x7d']) ++ behind := by
        rw [shape, ← named]
        rfl
      exact foldable.noCapitals name capital (infix_of_suffix written inside)
  case h_6 =>
    refine parallel_readNamedClass.bind ?_
    intro points wider after _ _
    refine .ok (.points fun foldable => ?_) after
    exact (foldable.noComplement (infix_of_suffix shape inside)).elim
  all_goals
    exact (Parallel.refl _).mono fun _ _ same => same ▸ .same _

/-- An escape that can be read stays one when case does not matter. -/
theorem parallel_readEscape
    [PropertyParser]
    (present : cursor.peek? = some '\\')
    (inside : cursor.rest <:+ whole) :
    Parallel (Escaped.WidensIn whole) (readEscape false cursor) (readEscape true cursor) := by
  unfold readEscape
  split
  · exact .fail
  · rename_i letter next
    split
    · exact .ok (.same _) _
    · refine parallel_readLongEscape ?_ inside
      rw [rest_eq_cons present, rest_eq_cons next, rest_advance, rest_advance, rest_advance,
        List.drop_drop]

end Escape

end Cursor

end LexicalAutomata
