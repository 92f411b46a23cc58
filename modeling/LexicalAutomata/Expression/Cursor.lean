import LexicalAutomata.Fault
import LexicalAutomata.Text.Offset

namespace LexicalAutomata

/-!
# Reading expression text

A cursor is the text that is still to be read and the byte offset where it
starts.  A reader takes a cursor and answers with a value and the cursor behind
what it has read, or with an error.  Every reader comes with a lemma saying that
the text behind it is shorter, which is why reading ends.
-/

/-- A place in an expression text. -/
structure Cursor where
  rest : List Char
  /-- The number of bytes in front of the place. -/
  offset : Nat

/-- A bind succeeds with what its second half makes of the value of its first half. -/
theorem bind_eq_ok_iff
    {ε α β : Type}
    {first : Except ε α}
    {second : α → Except ε β}
    {result : β} :
    first >>= second = .ok result ↔
      ∃ value, first = .ok value ∧ second value = .ok result := by
  cases first <;> simp [bind, Except.bind]

namespace Cursor

/-- The start of a text. -/
def start
    (text : List Char) :
    Cursor :=
  ⟨text, 0⟩

/-- Refuse the text at a given place. -/
def failAt
    {α : Type}
    (offset : Nat)
    (fault : Fault) :
    Except TextError α :=
  .error ⟨fault, offset⟩

/-- Refuse the text at this place. -/
def fail
    {α : Type}
    (cursor : Cursor)
    (fault : Fault) :
    Except TextError α :=
  failAt cursor.offset fault

/-- The place `count` characters further on. -/
def advance
    (cursor : Cursor)
    (count : Nat) :
    Cursor :=
  ⟨cursor.rest.drop count, cursor.offset + Text.byteLength (cursor.rest.take count)⟩

@[simp] theorem rest_advance
    (cursor : Cursor)
    (count : Nat) :
    (cursor.advance count).rest = cursor.rest.drop count :=
  rfl

/-- The next character. -/
def peek?
    (cursor : Cursor) :
    Option Char :=
  cursor.rest.head?

/-- Read one character. -/
def next
    (cursor : Cursor) :
    Except TextError (Char × Cursor) :=
  match cursor.peek? with
  | none =>
      cursor.fail .unexpectedEnd
  | some char =>
      .ok (char, cursor.advance 1)

theorem next_shorter
    {cursor after : Cursor}
    {char : Char}
    (read : cursor.next = .ok (char, after)) :
    after.rest.length < cursor.rest.length := by
  obtain ⟨rest, offset⟩ := cursor
  cases rest with
  | nil =>
      simp [next, peek?, fail, failAt] at read
  | cons head tail =>
      simp only [next, peek?, List.head?_cons, Except.ok.injEq, Prod.mk.injEq] at read
      simp [← read.2]

/-- Read one character, which must be `wanted`. -/
def require
    (cursor : Cursor)
    (wanted : Char) :
    Except TextError Cursor :=
  cursor.next >>= fun (found, after) =>
    if found = wanted then
      .ok after
    else
      cursor.fail (.unexpected wanted found)

theorem require_shorter
    {cursor after : Cursor}
    {wanted : Char}
    (read : cursor.require wanted = .ok after) :
    after.rest.length < cursor.rest.length := by
  obtain ⟨⟨found, next⟩, first, second⟩ := bind_eq_ok_iff.mp read
  dsimp only at second
  split at second
  · cases second
    exact next_shorter first
  · simp [fail, failAt] at second

/-- The characters up to the first that lacks a property. -/
def run
    (cursor : Cursor)
    (property : Char → Bool) :
    List Char :=
  cursor.rest.takeWhile property

end Cursor

end LexicalAutomata
