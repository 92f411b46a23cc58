import LexicalAutomata.Stream.Source

namespace LexicalAutomata.Source

/-!
# What a source delivers

A source delivers its bytes in chunks that are not empty, with any number of interrupted
calls between them, until it ends.  A source that fails now and then delivers the same
bytes to a reader that goes on calling it.
-/

/-- The calls of a source deliver some bytes and then nothing more, and none of them fails. -/
inductive Delivers : Source → List UInt8 → Prop
  | ended :
      Delivers [] []
  /-- A call without bytes ends the input, whatever other calls would do. -/
  | closed {rest : Source} :
      Delivers (.chunk [] :: rest) []
  | interrupted {rest : Source} {bytes : List UInt8} :
      Delivers rest bytes →
      Delivers (.interrupted :: rest) bytes
  | chunk {first : List UInt8} {rest : Source} {bytes : List UInt8} :
      first ≠ [] →
      Delivers rest bytes →
      Delivers (.chunk first :: rest) (first ++ bytes)

/--
The calls of a source deliver some bytes and then nothing more; between them, one call
fails for each of the given reasons.
-/
inductive Relays : Source → List UInt8 → List String → Prop
  | ended :
      Relays [] [] []
  /-- A call without bytes ends the input, whatever other calls would do. -/
  | closed {rest : Source} :
      Relays (.chunk [] :: rest) [] []
  | interrupted {rest : Source} {bytes : List UInt8} {reasons : List String} :
      Relays rest bytes reasons →
      Relays (.interrupted :: rest) bytes reasons
  | failure {reason : String} {rest : Source} {bytes : List UInt8} {reasons : List String} :
      Relays rest bytes reasons →
      Relays (.failure reason :: rest) bytes (reason :: reasons)
  | chunk {first : List UInt8} {rest : Source} {bytes : List UInt8} {reasons : List String} :
      first ≠ [] →
      Relays rest bytes reasons →
      Relays (.chunk first :: rest) (first ++ bytes) reasons

/-- A source none of whose calls fails has no reasons to fail. -/
theorem Delivers.relays
    {source : Source}
    {bytes : List UInt8}
    (delivers : source.Delivers bytes) :
    source.Relays bytes [] := by
  induction delivers with
  | ended =>
      exact .ended
  | closed =>
      exact .closed
  | interrupted _ inductionHypothesis =>
      exact .interrupted inductionHypothesis
  | chunk nonempty _ inductionHypothesis =>
      exact .chunk nonempty inductionHypothesis

/-- Chunks deliver what they are made of. -/
theorem delivers_map_chunk
    {pieces : List (List UInt8)}
    (nonempty : ∀ piece ∈ pieces, piece ≠ []) :
    Delivers (pieces.map .chunk) pieces.flatten := by
  induction pieces with
  | nil =>
      exact .ended
  | cons piece rest inductionHypothesis =>
      refine .chunk (nonempty piece List.mem_cons_self) (inductionHypothesis ?_)
      intro other member
      exact nonempty other (List.mem_cons_of_mem _ member)

/-- Cutting bytes into pieces loses none. -/
theorem flatten_piecesFrom
    (further room : Nat)
    (bytes : List UInt8) :
    (piecesFrom further room bytes).1 ++ (piecesFrom further room bytes).2.flatten = bytes := by
  induction bytes generalizing room with
  | nil =>
      simp [piecesFrom]
  | cons byte rest inductionHypothesis =>
      cases room with
      | zero =>
          simp [piecesFrom, inductionHypothesis]
      | succ room =>
          simp [piecesFrom, inductionHypothesis]

/-- A cut is made in front of a byte, so that every piece has one. -/
theorem ne_nil_of_mem_piecesFrom
    (further room : Nat)
    (bytes : List UInt8) :
    ∀ piece ∈ (piecesFrom further room bytes).2, piece ≠ [] := by
  induction bytes generalizing room with
  | nil =>
      simp [piecesFrom]
  | cons byte rest inductionHypothesis =>
      cases room with
      | zero =>
          simpa [piecesFrom] using inductionHypothesis further
      | succ room =>
          simpa [piecesFrom] using inductionHypothesis room

/-- A buffer with room for at least one byte delivers all bytes. -/
theorem delivers_ofBytes
    (further : Nat)
    (bytes : List UInt8) :
    Delivers (ofBytes (further + 1) bytes) bytes := by
  cases bytes with
  | nil =>
      exact .ended
  | cons byte rest =>
      have delivers :=
        delivers_map_chunk (ne_nil_of_mem_piecesFrom further 0 (byte :: rest))
      have whole := flatten_piecesFrom further 0 (byte :: rest)
      rw [show (piecesFrom further 0 (byte :: rest)).1 = [] from rfl, List.nil_append] at whole
      rwa [whole] at delivers

/-- Interrupted calls between the others change nothing. -/
theorem Delivers.interrupting
    {source : Source}
    {bytes : List UInt8}
    (delivers : source.Delivers bytes) :
    source.interrupting.Delivers bytes := by
  induction delivers with
  | ended =>
      exact .interrupted .ended
  | closed =>
      exact .interrupted .closed
  | interrupted _ inductionHypothesis =>
      exact .interrupted (.interrupted inductionHypothesis)
  | chunk nonempty _ inductionHypothesis =>
      exact .interrupted (.chunk nonempty inductionHypothesis)

end LexicalAutomata.Source
