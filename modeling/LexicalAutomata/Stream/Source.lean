namespace LexicalAutomata

/-!
# Sources of bytes

A source is the list of what its read calls deliver, one after the other.  Behind
the last delivery the input has ended; so it has when a call delivers no bytes.
-/

/-- What one read call delivers. -/
inductive Delivery where
  | chunk (bytes : List UInt8)
  /-- The call was interrupted, and is made again. -/
  | interrupted
  /-- The call failed. -/
  | failure (reason : String)
  deriving Repr, DecidableEq

/-- What the read calls deliver. -/
abbrev Source :=
  List Delivery

namespace Source

/--
Collect bytes, `room` of them in front of the next cut; a piece has room for a
byte and `further` more.
-/
def piecesFrom
    (further : Nat) :
    (room : Nat) →
    List UInt8 →
    List UInt8 × List (List UInt8)
  | _, [] =>
      ([], [])
  | 0, byte :: rest =>
      let (piece, pieces) := piecesFrom further further rest
      ([], (byte :: piece) :: pieces)
  | room + 1, byte :: rest =>
      let (piece, pieces) := piecesFrom further room rest
      (byte :: piece, pieces)

/-- Cut bytes into pieces of a byte and `further` more, all but the last of them full. -/
def pieces
    (further : Nat)
    (bytes : List UInt8) :
    List (List UInt8) :=
  (piecesFrom further 0 bytes).2

/--
The source whose calls deliver `most` bytes each as long as there are so many.
When `most` is zero the first call delivers no bytes, which ends the input.
-/
def ofBytes :
    (most : Nat) →
    List UInt8 →
    Source
  | _, [] =>
      []
  | 0, _ :: _ =>
      [.chunk []]
  | further + 1, bytes =>
      (pieces further bytes).map .chunk

/-- The source that fails once behind the first `count` bytes, if there are so many. -/
def failingAfter
    (count : Nat)
    (reason : String)
    (most : Nat)
    (bytes : List UInt8) :
    Source :=
  if bytes.length < count then
    ofBytes most bytes
  else
    ofBytes most (bytes.take count) ++ .failure reason :: ofBytes most (bytes.drop count)

/-- The same deliveries with an interrupted call in front of each, and one at the end. -/
def interrupting
    (source : Source) :
    Source :=
  source.flatMap (fun delivery => [.interrupted, delivery]) ++ [.interrupted]

end Source

end LexicalAutomata
