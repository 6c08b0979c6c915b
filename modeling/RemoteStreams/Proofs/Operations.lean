import RemoteStreams.Proofs.Reading
import RemoteStreams.Proofs.Seeking
import RemoteStreams.Proofs.Writing

/-! # Operations

What an operation of a cached stream does to the file that its user sees
(`RemoteStreams.CachedStream.perform_answers`): it is a step of a plain file whose
transfers may stop early, and if nothing stands in the way of the stream it is
what a plain file does.
-/

namespace RemoteStreams

namespace Operation

/-- No buffer fills more than half of the memory that words can address. -/
def Addressable : Operation → Prop
  | read buffer => buffer.length < Word.signedBound
  | write data => data.length < Word.signedBound
  | _ => True

/-- What is written at a position ends where the content of an object can. -/
def FitsAt (position : Nat) : Operation → Prop
  | write data => position + data.length < Word.signedBound
  | _ => True

/-- What an object opened in a mode may be asked for. -/
def Permitted (mode : OpenMode) : Operation → Prop
  | read _ | getByte => mode.readable = true
  | write _ | putByte _ => mode.writable = true
  | seek _ | tell | flush => True
  | remotePosition => False

instance : (operation : Operation) → Decidable operation.Addressable
  | read buffer => inferInstanceAs (Decidable (buffer.length < Word.signedBound))
  | write data => inferInstanceAs (Decidable (data.length < Word.signedBound))
  | putByte _ | getByte | seek _ | tell | flush | remotePosition => inferInstanceAs (Decidable True)

instance (position : Nat) : (operation : Operation) → Decidable (operation.FitsAt position)
  | write data => inferInstanceAs (Decidable (position + data.length < Word.signedBound))
  | read _ | putByte _ | getByte | seek _ | tell | flush | remotePosition =>
      inferInstanceAs (Decidable True)

instance (mode : OpenMode) : (operation : Operation) → Decidable (operation.Permitted mode)
  | read _ | getByte => inferInstanceAs (Decidable (mode.readable = true))
  | write _ | putByte _ => inferInstanceAs (Decidable (mode.writable = true))
  | seek _ | tell | flush => inferInstanceAs (Decidable True)
  | remotePosition => inferInstanceAs (Decidable False)

/-- What leaves a file at a position in range ends in range. -/
theorem fitsAt_of_inRange {operation : Operation} {file : PlainFile}
    (inRange : (file.perform operation).2.position < PlainFile.positionBound) :
    operation.FitsAt file.position := by
  cases operation with
  | write data =>
      have within : file.position + data.length < PlainFile.positionBound := inRange
      exact Nat.lt_trans within (by decide)
  | _ => trivial

/-- The operation reads up to `count` bytes, and answers with what `answer` makes of them. -/
structure Reads (operation : Operation) (count : Nat) (answer : Bytes → Answer) : Prop where
  readable : ∀ mode, operation.Permitted mode → mode.readable = true
  step : ∀ (file : PlainFile) (part : Nat), part ≤ count → (file.ahead part).length = part →
    file.Step operation (.ok (answer (file.ahead part))) (file.skip part)
  plain : ∀ file : PlainFile, file.perform operation =
    (.ok (answer (file.ahead count)), file.skip (file.ahead count).length)

/-- The operation writes `data`, and answers with what `answer` makes of the number of
bytes that were taken. -/
structure Writes (operation : Operation) (data : Bytes) (answer : Nat → Answer) : Prop where
  writable : ∀ mode, operation.Permitted mode → mode.writable = true
  step : ∀ (file : PlainFile) (part : Nat), part ≤ data.length →
    file.Step operation (.ok (answer part)) (file.written (data.take part))
  plain : ∀ file : PlainFile,
    file.perform operation = (.ok (answer data.length), file.written data)

/-- A read answers with its buffer, filled at the front. -/
theorem reads_read (buffer : Bytes) :
    Reads (.read buffer) buffer.length fun bytes =>
      .filled bytes.length (buffer.overlay 0 bytes) where
  readable := fun _ => id
  plain := fun _ => rfl
  step := fun file part room inside => by
    simp only [inside]
    exact .read room inside

/-- A single byte is read like a buffer of one byte. -/
theorem reads_getByte : Reads .getByte 1 fun bytes => .next bytes.head? where
  readable := fun _ => id
  step := fun _ _ room inside => .getByte room inside
  plain := fun _ => rfl

/-- A write answers with the number of bytes that were taken. -/
theorem writes_write (data : Bytes) : Writes (.write data) data .accepted where
  writable := fun _ => id
  step := fun _ _ room => .write room
  plain := fun _ => rfl

/-- A single byte is written like data of one byte, and the answer is the byte. -/
theorem writes_putByte (byte : UInt8) : Writes (.putByte byte) [byte] fun _ => .byte byte where
  writable := fun _ => id
  step := fun _ _ room => .putByte room
  plain := fun _ => rfl

end Operation

namespace CachedStream

/-- One operation of a stream. -/
def perform : Operation → StreamAction Answer
  | .read buffer => (fun filled => .filled filled.1 filled.2) <$> read buffer
  | .write data => .accepted <$> write data
  | .putByte byte => .byte <$> putByte byte
  | .getByte => .next <$> getByte
  | .seek target => .position <$> seek target
  | .tell => .position <$> tell
  | .flush => (fun _ => .done) <$> flush
  | .remotePosition => .position <$> remotePosition

end CachedStream

/-- Bytes that come from a file, and are as many as it has, are all that it has. -/
theorem PlainFile.ahead_min {file : PlainFile} {bytes : Bytes} {count : Nat}
    (faithful : bytes = file.ahead bytes.length)
    (whole : bytes.length = min count (file.content.length - file.position)) :
    bytes = file.ahead count := by
  rw [faithful, whole, ← length_ahead, ahead_length_ahead]

namespace Attached

/-- How an operation ends: with a step of the file that the user sees, which is the step of
a plain file if nothing stands in the way. -/
structure Answers (before : Attached) (descriptor : Descriptor) (operation : Operation)
    (ended : Outcome StreamError Answer × Attached) (moved : Descriptor) : Prop where
  advances : before.Advances descriptor ended.2 moved
  step : ∀ file, before.file? = some file →
    ∃ after, ended.2.file? = some after ∧ file.Step operation ended.1 after
  steady : before.Steady descriptor → operation.Permitted descriptor.mode → ended.2.Steady moved
  plain : before.Steady descriptor → operation.Permitted descriptor.mode →
    ∀ file, before.file? = some file →
      (file.perform operation).2.position < PlainFile.positionBound →
        ended.2.file? = some (file.perform operation).2 ∧
        ended.1.mapError (fun _ => ()) = (file.perform operation).1

variable {attached before after : Attached} {descriptor moved : Descriptor} {file : PlainFile}

/-- The file that a user sees has the content of the stream and its position. -/
theorem file?_eq_some_iff :
    attached.file? = some file ↔
      attached.content? = some file.content ∧ attached.stream.here = file.position := by
  obtain ⟨content, position⟩ := file
  simp only [file?, Option.map_eq_some_iff, PlainFile.mk.injEq]
  constructor
  · rintro ⟨_, shown, rfl, rfl⟩
    exact ⟨shown, rfl⟩
  · rintro ⟨shown, rfl⟩
    exact ⟨content, shown, rfl, rfl⟩

/-- What the user does not notice leaves the file as it is. -/
theorem Keeps.file?_eq (keeps : before.Keeps descriptor after moved)
    (seen : before.file? = some file) : after.file? = some file := by
  obtain ⟨shown, here⟩ := file?_eq_some_iff.mp seen
  exact file?_eq_some_iff.mpr ⟨keeps.content.trans shown, keeps.here.trans here⟩

/-- Bytes that are delivered are those ahead in the file, which moves behind them. -/
theorem Delivers.file?_eq {bytes : Bytes} (delivers : before.Delivers descriptor bytes after moved)
    (seen : before.file? = some file) :
    after.file? = some (file.skip bytes.length) ∧ bytes = file.ahead bytes.length := by
  obtain ⟨shown, here⟩ := file?_eq_some_iff.mp seen
  have faithful := delivers.faithful _ shown
  rw [here] at faithful
  refine ⟨file?_eq_some_iff.mpr ⟨delivers.content.trans shown, ?_⟩, faithful⟩
  rw [delivers.here, here]
  rfl

/-- Bytes that are taken are written to the file. -/
theorem Accepts.file?_eq {data : Bytes} (accepts : before.Accepts descriptor data after moved)
    (seen : before.file? = some file) : after.file? = some (file.written data) := by
  obtain ⟨shown, here⟩ := file?_eq_some_iff.mp seen
  refine file?_eq_some_iff.mpr ⟨?_, ?_⟩
  · rw [accepts.content, shown, here]
    rfl
  · rw [accepts.here, here]
    rfl

/-- A stream that goes elsewhere takes the file there. -/
theorem Repositions.file?_eq {position : Nat}
    (repositions : before.Repositions descriptor position after moved)
    (seen : before.file? = some file) : after.file? = some { file with position } := by
  obtain ⟨shown, -⟩ := file?_eq_some_iff.mp seen
  exact file?_eq_some_iff.mpr ⟨repositions.content.trans shown, repositions.here⟩

/-- A refused operation is a step, and it is the one of a plain file only if that refuses too. -/
theorem Keeps.answers {operation : Operation} {cause : StreamError}
    (keeps : before.Keeps descriptor after moved)
    (excuse : before.Steady descriptor → operation.Permitted descriptor.mode →
      ∀ file, before.file? = some file →
        (file.perform operation).2.position < PlainFile.positionBound →
          file.perform operation = (.error (), file)) :
    before.Answers descriptor operation (.error cause, after) moved where
  advances := keeps.advances
  step := fun file seen => ⟨file, keeps.file?_eq seen, .refused⟩
  steady := fun steady _ => keeps.steady steady
  plain := fun steady permitted file seen inRange => by
    rw [excuse steady permitted file seen inRange]
    exact ⟨keeps.file?_eq seen, rfl⟩

variable {operation : Operation} {cause : StreamError} {count : Nat} {bytes data : Bytes}

/-- Bytes that were delivered answer an operation that reads. -/
theorem Delivers.answers {answer : Bytes → Answer} (reads : operation.Reads count answer)
    (delivers : before.Delivers descriptor bytes after moved) (room : bytes.length ≤ count)
    (whole : before.Whole descriptor count bytes) :
    before.Answers descriptor operation (.ok (answer bytes), after) moved where
  advances := delivers.advances
  step := fun file seen => by
    obtain ⟨next, faithful⟩ := delivers.file?_eq seen
    have step := reads.step file bytes.length room (congrArg List.length faithful).symm
    rw [← faithful] at step
    exact ⟨file.skip bytes.length, next, step⟩
  steady := fun steady _ => delivers.steady steady
  plain := fun steady permitted file seen _ => by
    obtain ⟨next, faithful⟩ := delivers.file?_eq seen
    obtain ⟨shown, here⟩ := file?_eq_some_iff.mp seen
    have all := whole (steady.ready count) (reads.readable _ permitted) _ shown
    rw [here] at all
    rw [reads.plain, ← PlainFile.ahead_min faithful all]
    exact ⟨next, rfl⟩

/-- A failure answers an operation that reads if there is an excuse for it. -/
theorem Keeps.answers_of_excused {answer : Bytes → Answer} (reads : operation.Reads count answer)
    (keeps : before.Keeps descriptor after moved) (excused : before.Excused descriptor count) :
    before.Answers descriptor operation (.error cause, after) moved := by
  apply keeps.answers
  intro steady permitted file seen _
  obtain ⟨shown, -⟩ := file?_eq_some_iff.mp seen
  have refused := excused (steady.ready count) (by simp [shown])
  rw [reads.readable _ permitted] at refused
  contradiction

/-- Bytes that were taken answer an operation that writes. -/
theorem Accepts.answers {answer : Nat → Answer} (writes : operation.Writes data answer)
    (accepts : before.Accepts descriptor (data.take count) after moved)
    (room : count ≤ data.length)
    (whole : before.Steady descriptor → descriptor.mode.writable = true → count = data.length) :
    before.Answers descriptor operation (.ok (answer count), after) moved where
  advances := accepts.advances
  step := fun file seen => ⟨_, accepts.file?_eq seen, writes.step file count room⟩
  steady := fun steady permitted =>
    accepts.advances.steady steady fun _ => writes.writable _ permitted
  plain := fun steady permitted file seen _ => by
    have next := accepts.file?_eq seen
    rw [whole steady (writes.writable _ permitted)] at next ⊢
    rw [List.take_length] at next
    rw [writes.plain]
    exact ⟨next, rfl⟩

/-- A failure answers an operation that writes if the object is not for writing or something stands
in the way. -/
theorem Keeps.answers_of_unwritable {answer : Nat → Answer} (writes : operation.Writes data answer)
    (keeps : before.Keeps descriptor after moved)
    (excuse : before.Steady descriptor → descriptor.mode.writable = false) :
    before.Answers descriptor operation (.error cause, after) moved := by
  apply keeps.answers
  intro steady permitted _ _ _
  have refused := excuse steady
  rw [writes.writable _ permitted] at refused
  contradiction

end Attached

namespace CachedStream

open Attached

variable {attached : Attached} {descriptor : Descriptor}

/-- A read is answered as the plain file would answer, or stops early. -/
theorem read_answers (coherent : attached.Coherent descriptor)
    (near : attached.stream.here < PlainFile.positionBound) {buffer : Bytes}
    (small : buffer.length < Word.signedBound) :
    ∃ moved, attached.Answers descriptor (.read buffer) (perform (.read buffer) attached) moved := by
  have reads := Operation.reads_read buffer
  rw [perform, Action.map_apply]
  rcases read_cases coherent near small with
    ⟨bytes, after, moved, ended, room, delivers, whole⟩ |
      ⟨cause, after, moved, ended, keeps, excused⟩
  · have answers := delivers.answers reads room whole
    rw [ended]
    exact ⟨moved, answers⟩
  · rw [ended]
    exact ⟨moved, keeps.answers_of_excused reads excused⟩

/-- A write is answered as the plain file would answer, or stops early. -/
theorem write_answers (coherent : attached.Coherent descriptor)
    (near : attached.stream.here < PlainFile.positionBound) {data : Bytes}
    (within : attached.stream.here + data.length < Word.signedBound) :
    ∃ moved, attached.Answers descriptor (.write data) (perform (.write data) attached) moved := by
  have writes := Operation.writes_write data
  rw [perform, Action.map_apply]
  rcases write_cases coherent near within with
    ⟨count, after, moved, ended, room, accepts, -, whole⟩ |
      ⟨cause, after, moved, ended, keeps, excuse⟩
  · rw [ended]
    exact ⟨moved, accepts.answers writes room whole⟩
  · rw [ended]
    exact ⟨moved, keeps.answers_of_unwritable writes excuse⟩

/-- One byte more than a position in range is where a content can end. -/
theorem byte_within (near : attached.stream.here < PlainFile.positionBound) (byte : UInt8) :
    attached.stream.here + [byte].length < Word.signedBound := by
  have far : PlainFile.positionBound + 1 < Word.signedBound := by decide
  rw [List.length_singleton]
  omega

/-- Bytes are written one at a time as well as many at a time. A byte that is delivered was
written, unless the window may not even hold one byte. -/
theorem putByte_cases (coherent : attached.Coherent descriptor)
    (near : attached.stream.here < PlainFile.positionBound) (byte : UInt8) :
    (∃ count after moved, putByte byte attached = (.ok byte, after) ∧ count ≤ 1 ∧
      attached.Accepts descriptor ([byte].take count) after moved ∧
      (0 < attached.stream.window.limit → count = 1) ∧
      (attached.Steady descriptor → descriptor.mode.writable = true → count = 1)) ∨
    ∃ cause after moved, putByte byte attached = (.error cause, after) ∧
      attached.Keeps descriptor after moved ∧
      (attached.Steady descriptor → descriptor.mode.writable = false) := by
  rcases write_cases coherent near (byte_within near byte) with
    ⟨count, after, moved, ended, room, accepts, progress, whole⟩ |
      ⟨cause, after, moved, ended, keeps, excuse⟩
  · simp only [List.length_singleton] at room progress whole
    refine .inl ⟨count, after, moved, ?_, room, accepts, fun roomy => ?_, whole⟩
    · simp only [putByte, Action.bind_apply, ended, Action.pure_apply]
    · have some := progress Nat.one_pos roomy
      omega
  · refine .inr ⟨cause, after, moved, ?_, keeps, excuse⟩
    simp only [putByte, Action.bind_apply, ended]

/-- Writing a byte is answered as the plain file would answer, unless it fails. -/
theorem putByte_answers (coherent : attached.Coherent descriptor)
    (near : attached.stream.here < PlainFile.positionBound) (byte : UInt8) :
    ∃ moved,
      attached.Answers descriptor (.putByte byte) (perform (.putByte byte) attached) moved := by
  have writes := Operation.writes_putByte byte
  rw [perform, Action.map_apply]
  rcases putByte_cases coherent near byte with
    ⟨count, after, moved, ended, room, accepts, -, whole⟩ |
      ⟨cause, after, moved, ended, keeps, excuse⟩
  · rw [ended]
    exact ⟨moved, accepts.answers writes room whole⟩
  · rw [ended]
    exact ⟨moved, keeps.answers_of_unwritable writes excuse⟩

/-- A byte is read as the one byte of a read. -/
theorem getByte_of_read {bytes : Bytes} {after : Attached}
    (ended : read [0] attached = (.ok (bytes.length, Bytes.overlay [0] 0 bytes), after))
    (room : bytes.length ≤ 1) : getByte attached = (.ok bytes.head?, after) := by
  simp only [getByte, Action.bind_apply, ended]
  cases bytes with
  | nil => rfl
  | cons byte rest =>
      obtain rfl : rest = [] := by
        simp only [List.length_cons] at room
        exact List.length_eq_zero_iff.mp (by omega)
      rfl

/-- Reading a byte is answered as the plain file would answer, unless it fails. -/
theorem getByte_answers (coherent : attached.Coherent descriptor)
    (near : attached.stream.here < PlainFile.positionBound) :
    ∃ moved, attached.Answers descriptor .getByte (perform .getByte attached) moved := by
  have small : ([0] : Bytes).length < Word.signedBound := by
    simp [Word.signedBound]
  rw [perform, Action.map_apply]
  rcases read_cases coherent near small with
    ⟨bytes, after, moved, ended, room, delivers, whole⟩ |
      ⟨cause, after, moved, ended, keeps, excused⟩
  · rw [getByte_of_read ended room]
    exact ⟨moved, delivers.answers Operation.reads_getByte room whole⟩
  · have failed : getByte attached = (.error cause, after) := by
      simp only [getByte, Action.bind_apply, ended]
    rw [failed]
    exact ⟨moved, keeps.answers_of_excused Operation.reads_getByte excused⟩

/-- A seek goes where the plain file would go, or the stream stays where it is. -/
theorem seek_answers (coherent : attached.Coherent descriptor)
    (near : attached.stream.here < PlainFile.positionBound) (target : SeekTarget) :
    ∃ moved,
      attached.Answers descriptor (.seek target) (perform (.seek target) attached) moved := by
  rcases seek_cases coherent near target with
    ⟨position, after, moved, ended, repositions, goes⟩ | ⟨cause, after, moved, ended, keeps, excuse⟩
  · have performed : perform (.seek target) attached = (.ok (.position position), after) := by
      rw [perform, Action.map_apply, ended]
      rfl
    have reached : ∀ file, attached.file? = some file → file.target target = position := by
      intro file seen
      obtain ⟨shown, here⟩ := file?_eq_some_iff.mp seen
      have target := goes _ shown
      rwa [here] at target
    refine ⟨moved, ?_⟩
    rw [performed]
    refine ⟨repositions.advances,
      fun file seen => ⟨_, repositions.file?_eq seen, .seek (reached file seen)⟩,
      fun steady _ => repositions.steady steady, fun _ _ file seen _ => ?_⟩
    simp only [PlainFile.perform, reached file seen, Int.natCast_nonneg, ↓reduceIte,
      Int.toNat_natCast]
    exact ⟨repositions.file?_eq seen, rfl⟩
  · have performed : perform (.seek target) attached = (.error cause, after) := by
      rw [perform, Action.map_apply, ended]
      rfl
    refine ⟨moved, ?_⟩
    rw [performed]
    refine keeps.answers fun steady _ file seen inRange => ?_
    obtain ⟨shown, here⟩ := file?_eq_some_iff.mp seen
    have refused := excuse steady _ shown
    rw [here] at refused
    by_cases forward : 0 ≤ file.target target
    · simp only [PlainFile.perform, forward, ↓reduceIte] at inRange
      have fits : Word.ofInt? (file.target target) = some (file.target target).toNat := by
        apply Word.ofInt?_eq_some_iff.mpr
        simp only [PlainFile.positionBound, Word.bound] at *
        omega
      rw [show PlainFile.mk file.content file.position = file from rfl, fits] at refused
      contradiction
    · simp only [PlainFile.perform, forward, ↓reduceIte]

/-- A flush does not change what the user sees, whether it succeeds or not. -/
theorem flush_answers (coherent : attached.Coherent descriptor)
    (near : attached.stream.here < PlainFile.positionBound) :
    ∃ moved, attached.Answers descriptor .flush (perform .flush attached) moved := by
  rcases flush_cases coherent (coherent.reach_lt near) with
    ⟨remote, moved, ended, keeps⟩ | ⟨cause, synced, remote, moved, ended, keeps, dirty, excuse⟩
  · refine ⟨moved, ?_⟩
    rw [perform, Action.map_apply, ended]
    exact ⟨keeps.advances, fun file seen => ⟨file, keeps.file?_eq seen, .flush⟩,
      fun steady _ => keeps.steady steady, fun _ _ file seen _ => ⟨keeps.file?_eq seen, rfl⟩⟩
  · refine ⟨moved, ?_⟩
    rw [perform, Action.map_apply, ended]
    exact keeps.answers fun steady _ _ _ _ => (steady.calm.no_refusal dirty excuse).elim

/-- A stream tells the position that the plain file has. -/
theorem tell_answers (coherent : attached.Coherent descriptor)
    (near : attached.stream.here < PlainFile.positionBound) :
    attached.Answers descriptor .tell (perform .tell attached) descriptor := by
  have addressable : attached.stream.here < Word.bound := Nat.lt_trans near (by decide)
  have told : ∀ file, attached.file? = some file → attached.stream.here = file.position :=
    fun file seen => (file?_eq_some_iff.mp seen).2
  rw [perform, Action.map_apply, tell_apply addressable]
  refine ⟨.refl coherent, fun file seen => ⟨file, seen, ?_⟩, fun steady _ => steady,
    fun _ _ file seen _ => ⟨seen, ?_⟩⟩
  · rw [told file seen]
    exact .tell
  · rw [told file seen]
    rfl

/-- Asking for the position of the object is not noticed in the file. -/
theorem remotePosition_answers (coherent : attached.Coherent descriptor)
    (near : attached.stream.here < PlainFile.positionBound) :
    ∃ moved,
      attached.Answers descriptor .remotePosition (perform .remotePosition attached) moved := by
  have reach := coherent.reach_lt near
  have inside := coherent.reached
  have position := coherent.position
  have twice := Word.signedBound_add_signedBound
  rcases Link.position_cases coherent.serves (by omega) with
    ⟨remote, answered, stays⟩ | ⟨cause, remote, failed, stays, armed⟩
  · have keeps := coherent.keeps_remote stays
    have performed : perform .remotePosition attached =
        (.ok (.position descriptor.position), ⟨attached.stream, remote⟩) := by
      simp [perform, Action.map_apply, remotePosition, Action.bind_apply, ask_apply, answered]
    refine ⟨descriptor, ?_⟩
    rw [performed]
    exact ⟨keeps.advances, fun file seen => ⟨file, keeps.file?_eq seen, .remotePosition⟩,
      fun steady _ => keeps.steady steady, fun _ permitted => permitted.elim⟩
  · have performed : perform .remotePosition attached =
        (.error (.remote cause), ⟨attached.stream, remote⟩) := by
      simp [perform, Action.map_apply, remotePosition, Action.bind_apply, ask_apply, failed]
    refine ⟨descriptor, ?_⟩
    rw [performed]
    exact (coherent.keeps_remote stays).answers fun _ permitted => permitted.elim

/-- Every operation of a coherent stream is a step of the file that its user sees. -/
theorem perform_answers (coherent : attached.Coherent descriptor)
    (near : attached.stream.here < PlainFile.positionBound) {operation : Operation}
    (addressable : operation.Addressable) (fits : operation.FitsAt attached.stream.here) :
    ∃ moved, attached.Answers descriptor operation (perform operation attached) moved := by
  cases operation with
  | read buffer => exact read_answers coherent near addressable
  | write data => exact write_answers coherent near fits
  | putByte byte => exact putByte_answers coherent near byte
  | getByte => exact getByte_answers coherent near
  | seek target => exact seek_answers coherent near target
  | tell => exact ⟨descriptor, tell_answers coherent near⟩
  | flush => exact flush_answers coherent near
  | remotePosition => exact remotePosition_answers coherent near

end CachedStream

end RemoteStreams
