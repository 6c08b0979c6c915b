import RemoteStreams.Error
import RemoteStreams.OpenMode
import RemoteStreams.Outcome
import RemoteStreams.Proofs.Patch

/-! # Plain files

A plain file is a sequence of bytes and a position in it: what every stream
stands for. It answers each operation in one way
(`RemoteStreams.PlainFile.perform`). A stream whose remote side may fail answers
in one of several: it may stop a transfer early, or refuse an operation and leave
the file as it was (`RemoteStreams.PlainFile.Step`). Whatever `perform` does is
among these (`RemoteStreams.PlainFile.step_perform`).
-/

namespace RemoteStreams

/-- A call on a stream. -/
inductive Operation where
  /-- Read into `buffer`, as much as it holds. -/
  | read (buffer : Bytes)
  | write (data : Bytes)
  | putByte (byte : UInt8)
  | getByte
  | seek (target : SeekTarget)
  | tell
  | flush
  /-- Ask where the object behind the stream is. -/
  | remotePosition
deriving DecidableEq, Repr

/-- What an operation delivers. -/
inductive Answer where
  /-- The number of bytes read, and the buffer with them at its front. -/
  | filled (count : Nat) (buffer : Bytes)
  /-- The number of bytes written. -/
  | accepted (count : Nat)
  | byte (byte : UInt8)
  /-- The byte read, or none at the end. -/
  | next (byte : Option UInt8)
  | position (position : Nat)
  | done
deriving DecidableEq, Repr

/-- A sequence of bytes with a position in it, or past its end. -/
structure PlainFile where
  content : Bytes
  position : Nat
deriving DecidableEq, Repr

namespace PlainFile

/-- Files are used at positions below this one, two to the power of 62. -/
def positionBound : Nat := 4611686018427387904

/-- The up to `count` bytes from the position on. -/
def ahead (file : PlainFile) (count : Nat) : Bytes :=
  file.content.slice file.position (file.position + count)

/-- The file with its position moved on. -/
def skip (file : PlainFile) (count : Nat) : PlainFile :=
  { file with position := file.position + count }

/-- The file with `data` laid over its content at the position, which moves behind it.
Without data nothing happens, even past the end. -/
def written (file : PlainFile) (data : Bytes) : PlainFile where
  content := if data = [] then file.content else file.content.overlay file.position data
  position := file.position + data.length

/-- The position that a seek asks for. -/
def target (file : PlainFile) : SeekTarget → Int
  | .start position => position
  | .current offset => file.position + offset
  | .ending offset => file.content.length + offset

/-- What a plain file does. Only a seek to before the start is refused. -/
def perform (file : PlainFile) : Operation → Outcome Unit Answer × PlainFile
  | .read buffer =>
      let bytes := file.ahead buffer.length
      (.ok (.filled bytes.length (buffer.overlay 0 bytes)), file.skip bytes.length)
  | .write data => (.ok (.accepted data.length), file.written data)
  | .putByte byte => (.ok (.byte byte), file.written [byte])
  | .getByte => (.ok (.next (file.ahead 1).head?), file.skip (file.ahead 1).length)
  | .seek target =>
      if 0 ≤ file.target target then
        (.ok (.position (file.target target).toNat),
          { file with position := (file.target target).toNat })
      else (.error (), file)
  | .tell => (.ok (.position file.position), file)
  | .flush => (.ok .done, file)
  | .remotePosition => (.ok (.position file.position), file)

/-- What a stream does whose remote side may fail. A transfer may stop early, but
never without saying so; a refused operation leaves the file as it was. -/
inductive Step : PlainFile → Operation → Outcome StreamError Answer → PlainFile → Prop
  | read {file : PlainFile} {buffer : Bytes} {count : Nat} (room : count ≤ buffer.length)
      (inside : (file.ahead count).length = count) :
      Step file (.read buffer) (.ok (.filled count (buffer.overlay 0 (file.ahead count))))
        (file.skip count)
  | write {file : PlainFile} {data : Bytes} {count : Nat} (room : count ≤ data.length) :
      Step file (.write data) (.ok (.accepted count)) (file.written (data.take count))
  | putByte {file : PlainFile} {byte : UInt8} {count : Nat} (room : count ≤ 1) :
      Step file (.putByte byte) (.ok (.byte byte)) (file.written ([byte].take count))
  | getByte {file : PlainFile} {count : Nat} (room : count ≤ 1)
      (inside : (file.ahead count).length = count) :
      Step file .getByte (.ok (.next (file.ahead count).head?)) (file.skip count)
  | seek {file : PlainFile} {target : SeekTarget} {position : Nat}
      (reached : file.target target = position) :
      Step file (.seek target) (.ok (.position position)) { file with position }
  | tell {file : PlainFile} : Step file .tell (.ok (.position file.position)) file
  | flush {file : PlainFile} : Step file .flush (.ok .done) file
  | remotePosition {file : PlainFile} {position : Nat} :
      Step file .remotePosition (.ok (.position position)) file
  | refused {file : PlainFile} {operation : Operation} {cause : StreamError} :
      Step file operation (.error cause) file

/-- A file has as many bytes ahead as are asked for, or all up to its end. -/
theorem length_ahead (file : PlainFile) (count : Nat) :
    (file.ahead count).length = min count (file.content.length - file.position) := by
  rw [ahead, Bytes.length_slice]
  omega

/-- A file never has more bytes ahead than are asked for. -/
theorem length_ahead_le (file : PlainFile) (count : Nat) : (file.ahead count).length ≤ count := by
  rw [length_ahead]
  exact Nat.min_le_left _ _

/-- There is no more ahead than what is left. -/
theorem ahead_length_ahead (file : PlainFile) (count : Nat) :
    file.ahead (file.ahead count).length = file.ahead count := by
  apply List.ext_getElem?
  intro place
  rw [length_ahead]
  simp only [ahead, Bytes.getElem?_slice]
  grind

@[simp] theorem written_nil (file : PlainFile) : file.written [] = file := rfl

/-- Bytes may be written in two parts as well as in one. -/
theorem written_append (file : PlainFile) (first second : Bytes) :
    file.written (first ++ second) = (file.written first).written second := by
  by_cases lead : first = []
  · subst lead
    rfl
  · by_cases rest : second = []
    · subst rest
      rw [List.append_nil]
      rfl
    · have both : first ++ second ≠ [] := by simp [lead]
      simp only [written, lead, rest, both, ↓reduceIte, Bytes.overlay_overlay, List.length_append,
        Nat.add_assoc]

/-- What a plain file does is one of the things that a stream may do. -/
theorem step_perform (file : PlainFile) (operation : Operation) :
    ∃ outcome, outcome.mapError (fun _ => ()) = (file.perform operation).1 ∧
      file.Step operation outcome (file.perform operation).2 := by
  have inside : ∀ count,
      (file.ahead (file.ahead count).length).length = (file.ahead count).length := by
    intro count
    rw [ahead_length_ahead]
  cases operation with
  | read buffer =>
      have step := Step.read (length_ahead_le file buffer.length) (inside buffer.length)
      rw [ahead_length_ahead] at step
      exact ⟨_, rfl, step⟩
  | write data =>
      have step : file.Step (.write data) _ _ := .write (Nat.le_refl data.length)
      rw [List.take_length] at step
      exact ⟨_, rfl, step⟩
  | putByte byte => exact ⟨_, rfl, .putByte (Nat.le_refl 1)⟩
  | getByte =>
      have step := Step.getByte (length_ahead_le file 1) (inside 1)
      rw [ahead_length_ahead] at step
      exact ⟨_, rfl, step⟩
  | seek target =>
      by_cases forward : 0 ≤ file.target target
      · simp only [perform, forward, ↓reduceIte]
        exact ⟨_, rfl, .seek (Int.toNat_of_nonneg forward).symm⟩
      · simp only [perform, forward, ↓reduceIte]
        exact ⟨.error (.invalidSeek (file.target target)), rfl, .refused⟩
  | tell => exact ⟨_, rfl, .tell⟩
  | flush => exact ⟨_, rfl, .flush⟩
  | remotePosition => exact ⟨_, rfl, .remotePosition⟩

end PlainFile

end RemoteStreams
