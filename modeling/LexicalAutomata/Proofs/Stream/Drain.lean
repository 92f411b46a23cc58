import LexicalAutomata.Proofs.Stream.Source
import LexicalAutomata.Proofs.Stream.ValidPrefix
import LexicalAutomata.Stream.Remaining

namespace LexicalAutomata

/-!
# Reading until the end

Reading on gives characters until the input ends or a call fails.  For a source that only
delivers, bytes that are no text are found out before the end of the input is.  But a chunk
in which bytes turn out to be malformed is lost as a whole, with the characters that stand
in front of the malformed bytes: what is read is the longest text of the chunks before it.
-/

/-- What is wrong is the bytes, and not the source. -/
def StreamFault.IsInvalidData : StreamFault → Prop
  | malformed _ _ =>
      True
  | truncated =>
      True
  | failed _ =>
      False
  | full =>
      False

namespace Source

/-- How the characters come to their end when the source has, and some bytes are left over. -/
def ending
    (pending : List UInt8) :
    Except StreamFault Unit :=
  if pending.isEmpty then .ok () else .error .truncated

/-- What the characters of a source are, and how they come to their end, when `pending` bytes
stand in front of it. -/
def yieldFrom
    (pending : List UInt8) :
    Source →
    List Char × Except StreamFault Unit
  | [] =>
      ([], ending pending)
  | .interrupted :: rest =>
      yieldFrom pending rest
  | .failure reason :: _ =>
      ([], .error (.failed reason))
  | .chunk bytes :: rest =>
      if bytes.isEmpty then
        ([], ending pending)
      else
        let decoded := Utf8.decode (pending ++ bytes)
        match decoded.malformed with
        | some size =>
            ([], .error (.malformed size ((pending ++ bytes).length - decoded.rest.length)))
        | none =>
            let (chars, atEnd) := yieldFrom decoded.rest rest
            (decoded.chars ++ chars, atEnd)

section Chunk

variable {pending bytes : List UInt8} {rest : Source}

theorem yieldFrom_of_malformed
    {size : Nat}
    (nonempty : ¬ bytes.isEmpty)
    (malformed : (Utf8.decode (pending ++ bytes)).malformed = some size) :
    yieldFrom pending (.chunk bytes :: rest) =
      ([],
        .error
          (.malformed size
            ((pending ++ bytes).length - (Utf8.decode (pending ++ bytes)).rest.length))) := by
  simp only [yieldFrom, nonempty, malformed]
  rfl

theorem yieldFrom_of_sound
    (nonempty : ¬ bytes.isEmpty)
    (sound : (Utf8.decode (pending ++ bytes)).malformed = none) :
    yieldFrom pending (.chunk bytes :: rest) =
      ((Utf8.decode (pending ++ bytes)).chars ++
          (yieldFrom (Utf8.decode (pending ++ bytes)).rest rest).1,
        (yieldFrom (Utf8.decode (pending ++ bytes)).rest rest).2) := by
  simp only [yieldFrom, nonempty, sound]
  rfl

end Chunk

/-- The bytes that are delivered before a chunk makes them malformed, behind those that have
been delivered already. -/
def soundFrom
    (delivered : List UInt8) :
    Source →
    List UInt8
  | [] =>
      delivered
  | .interrupted :: rest =>
      soundFrom delivered rest
  | .failure _ :: _ =>
      delivered
  | .chunk bytes :: rest =>
      if bytes.isEmpty then
        delivered
      else
        match (Utf8.decode (delivered ++ bytes)).malformed with
        | some _ =>
            delivered
        | none =>
            soundFrom (delivered ++ bytes) rest

/-- The bytes that are delivered before a chunk makes them malformed. -/
def sound
    (source : Source) :
    List UInt8 :=
  soundFrom [] source

section Sound

variable {source : Source} {bytes delivered : List UInt8}

/-- What a source yields are the characters of the bytes that it delivers before a chunk makes
them malformed. -/
theorem chars_decode_soundFrom
    (source : Source)
    (sound : (Utf8.decode delivered).malformed = none) :
    (Utf8.decode (source.soundFrom delivered)).chars =
      (Utf8.decode delivered).chars ++
        (source.yieldFrom (Utf8.decode delivered).rest).1 := by
  fun_induction soundFrom delivered source with
  | case1 delivered =>
      exact (List.append_nil _).symm
  | case2 delivered rest inductionHypothesis =>
      exact inductionHypothesis sound
  | case3 delivered =>
      exact (List.append_nil _).symm
  | case4 delivered bytes rest empty =>
      rw [yieldFrom, if_pos empty, List.append_nil]
  | case5 delivered bytes rest nonempty size malformed =>
      have whole := Utf8.decode_append sound bytes
      rw [whole] at malformed
      rw [yieldFrom_of_malformed nonempty malformed, List.append_nil]
  | case6 delivered bytes rest nonempty stillSound inductionHypothesis =>
      have whole := Utf8.decode_append sound bytes
      have later := stillSound
      rw [whole] at later
      rw [inductionHypothesis stillSound, yieldFrom_of_sound nonempty later, whole,
        List.append_assoc]

theorem soundFrom_prefix
    (delivers : source.Delivers bytes) :
    source.soundFrom delivered <+: delivered ++ bytes := by
  induction delivers generalizing delivered with
  | ended =>
      exact List.prefix_append _ _
  | closed =>
      exact List.prefix_append _ _
  | interrupted _ inductionHypothesis =>
      exact inductionHypothesis
  | @chunk first rest bytes nonempty delivers inductionHypothesis =>
      rw [← List.append_assoc]
      unfold soundFrom
      split
      · rw [List.append_assoc]
        exact List.prefix_append _ _
      · split
        · rw [List.append_assoc]
          exact List.prefix_append _ _
        · exact inductionHypothesis

/-- A source whose bytes are not malformed loses none of them. -/
theorem soundFrom_eq
    (delivers : source.Delivers bytes)
    (sound : (Utf8.decode (delivered ++ bytes)).malformed = none) :
    source.soundFrom delivered = delivered ++ bytes := by
  induction delivers generalizing delivered with
  | ended =>
      exact (List.append_nil _).symm
  | closed =>
      exact (List.append_nil _).symm
  | interrupted _ inductionHypothesis =>
      exact inductionHypothesis sound
  | @chunk first rest bytes nonempty delivers inductionHypothesis =>
      rw [← List.append_assoc] at sound ⊢
      rw [soundFrom, if_neg (by simpa using nonempty)]
      split
      · rename_i size malformed
        rw [Utf8.malformed_decode_append malformed] at sound
        contradiction
      · exact inductionHypothesis sound

theorem ending_eq
    (bytes : List UInt8) :
    ending (Utf8.decode bytes).rest = .ok () ∧ (Utf8.decode (bytes ++ [])).rest = [] ∨
      ∃ fault : StreamFault,
        ending (Utf8.decode bytes).rest = .error fault ∧
          fault.IsInvalidData ∧ (Utf8.decode (bytes ++ [])).rest ≠ [] := by
  rw [List.append_nil]
  by_cases nothing : (Utf8.decode bytes).rest = []
  · exact Or.inl ⟨if_pos (List.isEmpty_iff.mpr nothing), nothing⟩
  · exact Or.inr ⟨.truncated, if_neg (mt List.isEmpty_iff.mp nothing), trivial, nothing⟩

/-- A source that only delivers comes to its end when its bytes are those of a text; otherwise
it is found out that they are not. -/
theorem ending_yieldFrom
    (delivers : source.Delivers bytes)
    (sound : (Utf8.decode delivered).malformed = none) :
    (source.yieldFrom (Utf8.decode delivered).rest).2 = .ok () ∧
        (Utf8.decode (delivered ++ bytes)).rest = [] ∨
      ∃ fault : StreamFault,
        (source.yieldFrom (Utf8.decode delivered).rest).2 = .error fault ∧
          fault.IsInvalidData ∧ (Utf8.decode (delivered ++ bytes)).rest ≠ [] := by
  induction delivers generalizing delivered with
  | ended =>
      exact ending_eq delivered
  | closed =>
      exact ending_eq delivered
  | interrupted _ inductionHypothesis =>
      exact inductionHypothesis sound
  | @chunk first rest bytes nonempty delivers inductionHypothesis =>
      have whole := Utf8.decode_append sound first
      rw [← List.append_assoc]
      match malformed : (Utf8.decode ((Utf8.decode delivered).rest ++ first)).malformed with
      | some size =>
          have all : (Utf8.decode (delivered ++ first)).malformed = some size := by
            rw [whole]
            exact malformed
          rw [yieldFrom_of_malformed (by simpa using nonempty) malformed]
          exact Or.inr ⟨_, rfl, trivial,
            Utf8.rest_ne_nil_of_malformed (Utf8.malformed_decode_append all bytes)⟩
      | none =>
          have all : (Utf8.decode (delivered ++ first)).malformed = none := by
            rw [whole]
            exact malformed
          have found := inductionHypothesis all
          rw [yieldFrom_of_sound (by simpa using nonempty) malformed]
          rw [whole] at found
          exact found

end Sound

end Source

namespace Reader

/-- The characters that one call after the other reads, until there are none or a call fails. -/
def drain
    (reader : Reader) :
    List Char × Except StreamFault Unit :=
  match _ : reader.read with
  | (.error fault, _) =>
      ([], .error fault)
  | (.ok none, _) =>
      ([], .ok ())
  | (.ok (some char), next) =>
      let (chars, ending) := next.drain
      (char :: chars, ending)
  termination_by reader.remaining
  decreasing_by exact read_shorter ‹_›

/-- What the source of a reader still has to give. -/
def comes
    (reader : Reader) :
    List Char × Except StreamFault Unit :=
  if reader.ended then ([], .ok ()) else reader.source.yieldFrom reader.pending

/-- What is in the buffer, and what the source still has to give. -/
def outlook
    (reader : Reader) :
    List Char × Except StreamFault Unit :=
  (reader.buffered ++ reader.comes.1, reader.comes.2)

/-- Getting more characters into the buffer changes nothing about what comes, and it ends or
fails only when the buffer holds all of that. -/
def PullsFrom
    (buffered : List Char)
    (outlook : List Char × Except StreamFault Unit) :
    Except StreamFault Bool × Reader →
    Prop
  | (.error fault, _) =>
      outlook = (buffered, .error fault)
  | (.ok false, _) =>
      outlook = (buffered, .ok ())
  | (.ok true, next) =>
      outlook = next.outlook

/-- Looking ahead shows the character that comes there, or how the characters end before it. -/
def PeeksFrom
    (count : Nat)
    (outlook : List Char × Except StreamFault Unit) :
    Except StreamFault (Option Char) × Reader →
    Prop
  | (.error fault, _) =>
      outlook.1.length ≤ count ∧ outlook.2 = .error fault
  | (.ok none, _) =>
      outlook.1.length ≤ count ∧ outlook.2 = .ok ()
  | (.ok (some char), next) =>
      outlook = next.outlook ∧ next.buffered[count]? = some char

/-- Reading gives what comes first, or tells that nothing comes. -/
def ReadsFrom
    (outlook : List Char × Except StreamFault Unit) :
    Except StreamFault (Option Char) × Reader →
    Prop
  | (.error fault, _) =>
      outlook = ([], .error fault)
  | (.ok none, _) =>
      outlook = ([], .ok ())
  | (.ok (some char), next) =>
      outlook = (char :: next.outlook.1, next.outlook.2)

section Outlook

variable {reader : Reader}

/-- At the end of the source there must be no bytes left over. -/
theorem pullsFrom_finish :
    PullsFrom reader.buffered
      (reader.buffered ++ [], Source.ending reader.pending)
      reader.finish := by
  rw [List.append_nil, finish, Source.ending]
  split <;> rfl

theorem pullsFrom_pullFrom
    {source : Source}
    (goesOn : reader.ended = false) :
    PullsFrom reader.buffered
      (reader.buffered ++ (source.yieldFrom reader.pending).1,
        (source.yieldFrom reader.pending).2)
      (reader.pullFrom source) := by
  fun_induction pullFrom reader source with
  | case1 reader =>
      exact pullsFrom_finish
  | case2 reader rest inductionHypothesis =>
      exact inductionHypothesis goesOn
  | case3 reader reason rest =>
      exact Prod.ext (List.append_nil _) rfl
  | case4 reader bytes rest empty =>
      rw [Source.yieldFrom, if_pos empty]
      exact pullsFrom_finish
  | case5 reader bytes rest nonempty pending decoded size malformed =>
      rw [Source.yieldFrom_of_malformed nonempty malformed]
      exact Prod.ext (List.append_nil _) rfl
  | case6 reader bytes rest nonempty pending decoded sound nothing inductionHypothesis =>
      rw [List.isEmpty_iff] at nothing
      have kept : decoded.rest = pending :=
        Utf8.rest_decode_of_chars_eq_nil nothing
      rw [Source.yieldFrom_of_sound nonempty sound, nothing, kept]
      exact inductionHypothesis goesOn
  | case7 reader bytes rest nonempty pending decoded sound something =>
      have inside := reader.cursor_le
      have extended :
          ({ reader with source := rest, pending := decoded.rest }.extend decoded.chars).buffered =
            reader.buffered ++ decoded.chars := by
        simp only [buffered, extend, Array.append_eq_append, Array.toList_append]
        exact List.drop_append_of_le_length (by simpa using inside)
      rw [Source.yieldFrom_of_sound nonempty sound, ← List.append_assoc, PullsFrom, outlook,
        extended, comes]
      simp only [extend, goesOn]
      rfl

theorem pullsFrom_pull
    (reader : Reader) :
    PullsFrom reader.buffered reader.outlook reader.pull := by
  unfold pull outlook comes
  split
  · exact Prod.ext (List.append_nil _) rfl
  · rename_i goesOn
    exact pullsFrom_pullFrom (Bool.eq_false_iff.mpr goesOn)

theorem length_buffered_le_of_absent
    {count : Nat}
    (absent : reader.buffered? count = none) :
    reader.buffered.length ≤ count := by
  have outside : reader.buffer.size ≤ reader.cursor + count :=
    Array.getElem?_eq_none_iff.mp absent
  simp only [buffered, List.length_drop, Array.length_toList]
  omega

theorem peeksFrom_peek
    (reader : Reader)
    (count : Nat) :
    PeeksFrom count reader.outlook (reader.peek count) := by
  fun_induction Reader.peek reader count with
  | case1 reader char present =>
      refine ⟨rfl, ?_⟩
      rw [buffered, List.getElem?_drop, Array.getElem?_toList]
      exact present
  | case2 reader absent fault next pulled =>
      have pulls := pullsFrom_pull reader
      rw [pulled] at pulls
      rw [show reader.outlook = (reader.buffered, .error fault) from pulls]
      exact ⟨length_buffered_le_of_absent absent, rfl⟩
  | case3 reader absent next pulled =>
      have pulls := pullsFrom_pull reader
      rw [pulled] at pulls
      rw [show reader.outlook = (reader.buffered, .ok ()) from pulls]
      exact ⟨length_buffered_le_of_absent absent, rfl⟩
  | case4 reader _ next pulled inductionHypothesis =>
      have pulls := pullsFrom_pull reader
      rw [pulled] at pulls
      rw [show reader.outlook = next.outlook from pulls]
      exact inductionHypothesis

/-- The cursor moves over the next character when that is in the buffer. -/
theorem outlook_step
    {char : Char}
    (present : reader.buffered[0]? = some char) :
    reader.outlook = (char :: reader.step.outlook.1, reader.step.outlook.2) := by
  rw [buffered, List.getElem?_drop, Array.getElem?_toList, Nat.add_zero] at present
  obtain ⟨inside, isChar⟩ := Array.getElem?_eq_some_iff.mp present
  have split : reader.buffered = char :: reader.step.buffered := by
    rw [step, dif_pos inside, buffered, List.drop_eq_getElem_cons (by simpa using inside)]
    exact congrArg (· :: _) isChar
  rw [outlook, split, List.cons_append, step, dif_pos inside]
  rfl

theorem readsFrom_read
    (reader : Reader) :
    ReadsFrom reader.outlook reader.read := by
  have peeks := peeksFrom_peek reader 0
  unfold Reader.read
  match peeked : reader.peek 0 with
  | (.error fault, next) =>
      rw [peeked] at peeks
      exact Prod.ext (List.length_eq_zero_iff.mp (Nat.le_zero.mp peeks.1)) peeks.2
  | (.ok none, next) =>
      rw [peeked] at peeks
      exact Prod.ext (List.length_eq_zero_iff.mp (Nat.le_zero.mp peeks.1)) peeks.2
  | (.ok (some char), next) =>
      rw [peeked] at peeks
      exact peeks.1.trans (outlook_step peeks.2)

/-- Reading on gives what the reader has and what comes behind it. -/
theorem drain_eq_outlook
    (reader : Reader) :
    reader.drain = reader.outlook := by
  fun_induction drain reader with
  | case1 reader fault next read =>
      have reads := readsFrom_read reader
      rw [read] at reads
      exact reads.symm
  | case2 reader next read =>
      have reads := readsFrom_read reader
      rw [read] at reads
      exact reads.symm
  | case3 reader char next read chars ending drained inductionHypothesis =>
      have reads := readsFrom_read reader
      rw [read] at reads
      rw [show reader.outlook = (char :: next.outlook.1, next.outlook.2) from reads,
        ← inductionHypothesis, drained]

end Outlook

/-- Reading from a source that only delivers gives the longest text of the chunks that come
before one in which bytes turn out to be malformed; those are all chunks when the bytes are the
beginning of a text.  The end of the input is reported when the bytes are those of a text, and
before it is, any others are found to be invalid. -/
theorem drain_ofSource
    {source : Source}
    {bytes : List UInt8}
    (delivers : source.Delivers bytes) :
    Utf8.IsLongestPrefix source.sound (ofSource source).drain.1 ∧
      source.sound <+: bytes ∧
        ((∃ text, bytes <+: Utf8.encode text) → source.sound = bytes) ∧
          ((∃ text, bytes = Utf8.encode text) ↔ (ofSource source).drain.2 = .ok ()) ∧
            ∀ fault, (ofSource source).drain.2 = .error fault → fault.IsInvalidData := by
  have nothing : Utf8.decode [] = ⟨[], [], none⟩ :=
    Utf8.unfinished_nil
  have sound : (Utf8.decode []).malformed = none := by
    rw [nothing]
  have drained : (ofSource source).drain = source.yieldFrom (Utf8.decode []).rest := by
    rw [drain_eq_outlook, nothing]
    rfl
  have chars := source.chars_decode_soundFrom sound
  have ending := Source.ending_yieldFrom delivers sound
  rw [← drained] at chars ending
  rw [nothing, List.nil_append] at chars
  rw [List.nil_append] at ending
  refine ⟨?longest, ?begins, ?all, ?ends, ?invalid⟩
  case longest =>
    rw [← chars]
    exact Utf8.isLongestPrefix_decode _
  case begins =>
    exact Source.soundFrom_prefix delivers
  case all =>
    rintro ⟨text, more, whole⟩
    obtain ⟨_, _, _, _, decodes, _⟩ := Utf8.decode_of_append_eq whole
    exact Source.soundFrom_eq delivers (congrArg Utf8.Decoded.malformed decodes)
  case ends =>
    rw [Utf8.exists_encode_iff]
    obtain ⟨ok, none⟩ | ⟨fault, error, _, some⟩ := ending
    · exact iff_of_true none ok
    · exact iff_of_false some (by simp [error])
  case invalid =>
    intro fault error
    obtain ⟨ok, _⟩ | ⟨other, found, invalid, _⟩ := ending
    · rw [ok] at error
      contradiction
    · rw [found] at error
      cases error
      exact invalid

/-- Delivered byte by byte, `a` is read before the call that finds the malformed byte fails. -/
theorem drain_ofSource_bytewise :
    let bytes : List UInt8 := [0x61, 0xFF, 0x62]
    let source := Source.ofBytes 1 bytes
    source.Delivers bytes ∧
      Utf8.IsLongestPrefix source.sound (ofSource source).drain.1 ∧
        (∀ fault, (ofSource source).drain.2 = .error fault → fault.IsInvalidData) ∧
          source.sound = [0x61] := by
  have delivers := Source.delivers_ofBytes 0 [0x61, 0xFF, 0x62]
  have drained := drain_ofSource delivers
  exact ⟨delivers, drained.1, drained.2.2.2.2, by decide +kernel⟩

/-- Two ways of delivering the same bytes differ in what is read before the call that fails: in
one chunk with the malformed byte, the character in front of that is lost. -/
theorem drain_differs :
    let bytes : List UInt8 := [0x61, 0xFF, 0x62]
    (Source.ofBytes 3 bytes).Delivers bytes ∧
      (Source.ofBytes 1 bytes).Delivers bytes ∧
        Utf8.IsLongestPrefix bytes ['a'] ∧
          (ofSource (Source.ofBytes 1 bytes)).drain.1 = ['a'] ∧
            (ofSource (Source.ofBytes 3 bytes)).drain.1 = [] := by
  have longest := Utf8.isLongestPrefix_decode [0x61, 0xFF, 0x62]
  rw [show (Utf8.decode [0x61, 0xFF, 0x62]).chars = ['a'] by decide +kernel] at longest
  refine ⟨Source.delivers_ofBytes 2 _, Source.delivers_ofBytes 0 _, longest, ?_, ?_⟩
  all_goals
    rw [drain_eq_outlook]
    decide +kernel

end Reader

end LexicalAutomata
