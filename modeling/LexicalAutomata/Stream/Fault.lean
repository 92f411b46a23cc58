namespace LexicalAutomata

/-!
# Faults of a stream
-/

/-- Why a stream could not be read or written. -/
inductive StreamFault where
  /-- Bytes that begin no character: how many, and how many good bytes there were in front. -/
  | malformed (size index : Nat)
  /-- The stream ended inside a character. -/
  | truncated
  /-- The source failed for a reason of its own. -/
  | failed (reason : String)
  /-- The sink takes no more bytes. -/
  | full
  deriving Repr, DecidableEq

/-- A fault in words. -/
def StreamFault.message : StreamFault → String
  | malformed size index =>
      s!"invalid utf-8 sequence of {size} bytes from index {index}"
  | truncated =>
      "stream ends inside a UTF-8 sequence"
  | failed reason =>
      reason
  | full =>
      "sink full"

/-- Why a call does not come back. -/
inductive Panic where
  /-- A buffer is asked for that no address space can hold. -/
  | capacityOverflow
  deriving Repr, DecidableEq

/-- A panic in words. -/
def Panic.message : Panic → String
  | capacityOverflow =>
      "capacity overflow"

/-- The greatest number of bytes that a buffer can have. -/
def capacityLimit : Nat :=
  0x7FFFFFFFFFFFFFFF

end LexicalAutomata
