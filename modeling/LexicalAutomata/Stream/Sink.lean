import LexicalAutomata.Stream.Fault
import LexicalAutomata.Stream.Utf8

namespace LexicalAutomata

/-!
# Sinks for bytes
-/

/-- What has been written, and how many bytes there may be at most. -/
structure Sink where
  written : Array UInt8
  limit : Option Nat

namespace Sink

/-- A sink that takes at most `limit` bytes, if there is a limit. -/
def withLimit
    (limit : Option Nat) :
    Sink :=
  ⟨#[], limit⟩

/-- Put bytes behind those that have been written. -/
def append
    (sink : Sink)
    (bytes : List UInt8) :
    Sink :=
  let ⟨written, limit⟩ := sink
  ⟨written.append bytes.toArray, limit⟩

/-- Write bytes; of those that do not fit, as many as possible are written. -/
def write
    (sink : Sink)
    (bytes : List UInt8) :
    Except StreamFault Unit × Sink :=
  match sink.limit with
  | none =>
      (.ok (), sink.append bytes)
  | some limit =>
      let room := limit - sink.written.size
      if bytes.length ≤ room then
        (.ok (), sink.append bytes)
      else
        (.error .full, sink.append (bytes.take room))

/-- Write text. -/
def writeText
    (sink : Sink)
    (text : List Char) :
    Except StreamFault Unit × Sink :=
  sink.write (Utf8.encode text)

end Sink

end LexicalAutomata
