import LexicalAutomata.Stream.Sink

namespace LexicalAutomata.Sink

/-!
# Sinks with room
-/

/-- A sink takes so many more bytes. -/
def HasRoom
    (sink : Sink)
    (count : Nat) :
    Prop :=
  ∀ limit ∈ sink.limit, sink.written.size + count ≤ limit

variable {sink : Sink} {first second : List UInt8}

/-- A sink without a limit has room for everything. -/
theorem hasRoom_of_limit_eq_none
    (unlimited : sink.limit = none)
    (count : Nat) :
    sink.HasRoom count := by
  intro limit member
  rw [unlimited] at member
  contradiction

theorem append_nil
    (sink : Sink) :
    sink.append [] = sink := by
  simp [append]

theorem append_append
    (sink : Sink)
    (first second : List UInt8) :
    (sink.append first).append second = sink.append (first ++ second) := by
  simp [append]

theorem HasRoom.left
    (room : sink.HasRoom (first ++ second).length) :
    sink.HasRoom first.length := by
  intro limit member
  have := room limit member
  rw [List.length_append] at this
  omega

/-- What has been written takes its room. -/
theorem HasRoom.right
    (room : sink.HasRoom (first ++ second).length) :
    (sink.append first).HasRoom second.length := by
  intro limit member
  have := room limit member
  rw [List.length_append] at this
  simp only [append, Array.append_eq_append, Array.size_append, List.size_toArray]
  omega

/-- What there is room for is written as a whole. -/
theorem HasRoom.write_eq
    (room : sink.HasRoom first.length) :
    sink.write first = (.ok (), sink.append first) := by
  unfold write
  split
  · rfl
  · rename_i limit limited
    have := room limit limited
    dsimp only
    rw [if_pos (by omega)]

/-- There is always room for nothing. -/
theorem write_nil
    (sink : Sink) :
    sink.write [] = (.ok (), sink) := by
  obtain ⟨written, _ | limit⟩ := sink <;> simp [write, append]

/-- What is written in two parts is written as one. -/
theorem write_append
    (sink : Sink)
    (first second : List UInt8) :
    sink.write (first ++ second) =
      match sink.write first with
      | (.error fault, next) =>
          (.error fault, next)
      | (.ok (), next) =>
          next.write second := by
  obtain ⟨written, _ | limit⟩ := sink
  · simp [write, append]
  · simp only [write, List.length_append]
    by_cases fits : first.length ≤ limit - written.size
    · have room : limit - (written.size + first.length) = limit - written.size - first.length := by
        omega
      simp only [if_pos fits, append, Array.append_eq_append, Array.size_append,
        List.size_toArray, room]
      by_cases allFit : first.length + second.length ≤ limit - written.size
      · rw [if_pos allFit, if_pos (by omega)]
        simp
      · rw [if_neg allFit, if_neg (by omega), List.take_append, List.take_of_length_le fits]
        simp
    · rw [if_neg fits, if_neg (by omega), List.take_append_of_le_length (by omega)]

/-- Writing fails only because there is no more room. -/
theorem eq_full_of_write_error
    {fault : StreamFault}
    (fails : (sink.write first).1 = .error fault) :
    fault = .full := by
  unfold write at fails
  split at fails
  · contradiction
  · dsimp only at fails
    split at fails
    · contradiction
    · cases fails
      rfl

section WithLimit

variable {limit : Option Nat} {most : Nat} {bytes : List UInt8}

/-- A sink that takes everything has all bytes. -/
theorem write_withLimit_none
    (bytes : List UInt8) :
    ((withLimit none).write bytes).1 = .ok () ∧
      ((withLimit none).write bytes).2.written.toList = bytes := by
  simp [withLimit, write, append]

/-- A sink with a limit has the first bytes, and says whether these are all. -/
theorem write_withLimit_some
    (most : Nat)
    (bytes : List UInt8) :
    ((withLimit (some most)).write bytes).1 =
        (if bytes.length ≤ most then .ok () else .error .full) ∧
      ((withLimit (some most)).write bytes).2.written.toList = bytes.take most := by
  simp only [withLimit, write, List.size_toArray, List.length_nil, Nat.sub_zero]
  split
  · rename_i fits
    simp [append, List.take_of_length_le fits]
  · simp [append]

/-- Of the bytes, a sink has those at the beginning. -/
theorem written_prefix
    (limit : Option Nat)
    (bytes : List UInt8) :
    ((withLimit limit).write bytes).2.written.toList <+: bytes := by
  cases limit with
  | none =>
      have whole := (write_withLimit_none bytes).2
      exact ⟨[], by rw [List.append_nil, whole]⟩
  | some most =>
      rw [(write_withLimit_some most bytes).2]
      exact List.take_prefix most bytes

/-- What has been written without a fault is everything. -/
theorem written_eq_of_ok
    (fits : ((withLimit limit).write bytes).1 = .ok ()) :
    ((withLimit limit).write bytes).2.written.toList = bytes := by
  cases limit with
  | none =>
      exact (write_withLimit_none bytes).2
  | some most =>
      obtain ⟨result, written⟩ := write_withLimit_some most bytes
      rw [result] at fits
      by_cases le : bytes.length ≤ most
      · rw [written, List.take_of_length_le le]
      · rw [if_neg le] at fits
        contradiction

end WithLimit

end LexicalAutomata.Sink
