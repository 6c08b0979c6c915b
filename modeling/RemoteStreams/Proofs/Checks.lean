import RemoteStreams.CachedStream.Whole
import RemoteStreams.Proofs.Opening
import RemoteStreams.Proofs.Refusals
import RemoteStreams.Proofs.Runs
import RemoteStreams.Proofs.StreamClosing

/-! # Checks

Windows and streams check themselves as they go, and a check that fails abandons the operation.
None does: a stream that has been opened answers whatever it is asked for, or fails with an error,
however its remote side fails, as long as it does so honestly
(`RemoteStreams.CachedStream.checks_hold`). The invariant that carries this is
`RemoteStreams.Attached.Coherent`; how each operation ends on a coherent stream was shown where that
operation was treated.
-/

namespace RemoteStreams

namespace Outcome

variable {ε α : Type}

/-- It is no breach, and if it is a value then the value satisfies `post`. -/
def Meets (post : α → Prop) : Outcome ε α → Prop
  | .ok value => post value
  | .error _ => True
  | .broken _ => False

end Outcome

namespace Action

variable {σ ε α β : Type} {state : σ}

/-- What follows a value may rely on what that value meets. -/
theorem meets_bind {first : Action σ ε α} {next : α → Action σ ε β} {between : α → Prop}
    {post : β → Prop} (begins : (first state).1.Meets between)
    (goesOn : ∀ value after, between value → (next value after).1.Meets post) :
    ((first >>= next) state).1.Meets post := by
  rw [bind_apply]
  generalize first state = ended at begins
  obtain ⟨_ | _ | _, after⟩ := ended
  · exact goesOn _ after begins
  · trivial
  · exact begins

/-- What is made of a value meets what follows from what the value meets. -/
theorem meets_map {convert : α → β} {body : Action σ ε α} {given : α → Prop} {post : β → Prop}
    (meets : (body state).1.Meets given) (converts : ∀ value, given value → post (convert value)) :
    ((convert <$> body) state).1.Meets post := by
  rw [map_apply]
  generalize (body state).1 = outcome at meets
  cases outcome with
  | ok value => exact converts value meets
  | error cause => trivial
  | broken breach => exact meets

end Action

section Returning

open Action.Returns

/-- No check fails while an object is opened. -/
theorem Link.openObject_returns (path : String) (mode : OpenMode) :
    Action.Returns (Link.openObject path mode) :=
  bind (Remote.announce_returns _) fun _ => Session.openObject_returns path mode

/-- No check fails while an object is created. -/
theorem Link.createObject_returns (path : String) : Action.Returns (Link.createObject path) :=
  bind (Remote.announce_returns _) fun _ => Session.createObject_returns path

/-- No check fails while an object is closed. -/
theorem Link.closeObject_returns (object : ObjectId) : Action.Returns (Link.closeObject object) :=
  bind (Remote.announce_returns _) fun _ => Session.closeObject_returns object

namespace CachedStream

/-- Nor does one fail while an object is opened that may have to be created. -/
theorem openOrCreate_returns (path : String) (mode : OpenMode) :
    Action.Returns (openOrCreate path mode) := by
  refine bind (attempt (Link.openObject_returns path mode)) fun answer => ?_
  split
  · exact pure _
  · exact ite (Link.createObject_returns path) (fail _)
  · exact fail _

/-- An object that is of no use is closed without a check that could fail. -/
theorem abandonObject_returns (path : String) (object : ObjectId) :
    Action.Returns (abandonObject path object) := by
  refine bind (attempt (Link.closeObject_returns object)) fun answer => ?_
  split
  · exact pure _
  · exact Remote.note_returns _

/-- Memory may be refused, but that is not a breach. -/
theorem request_returns {ε : Type} (size : Nat) :
    Action.Returns (Remote.request size : Action Remote ε Bool) := by
  intro remote breach
  simp

/-- A window that may be as large as it is to be at first is no reason to abandon an opening. -/
theorem openStream_returns (path : String) (mode : OpenMode) {sizes : BufferSizes}
    (ordered : sizes.initial ≤ sizes.max) : Action.Returns (openStream path mode sizes) := by
  refine bind (Remote.note_returns _) fun _ => ?_
  refine bind (mapError _ (openOrCreate_returns path mode)) fun object => ?_
  refine bind (request_returns _) fun granted => ?_
  rw [create_eq ordered]
  cases granted with
  | true => exact pure _
  | false => exact bind (abandonObject_returns path object) fun _ => fail _

end CachedStream

end Returning

/-- What an operation may answer: it delivers and takes no more bytes than there is room for, and
hands a buffer back as large as it was. -/
def Operation.Fits : Operation → Answer → Prop
  | read buffer, answer => ∃ count filled, answer = .filled count filled ∧
      count ≤ buffer.length ∧ filled.length = buffer.length
  | write data, answer => ∃ count, answer = .accepted count ∧ count ≤ data.length
  | putByte byte, answer => answer = .byte byte
  | getByte, answer => ∃ byte, answer = .next byte
  | seek _, answer | tell, answer | remotePosition, answer => ∃ position, answer = .position position
  | flush, answer => answer = .done

namespace Attached

variable {before : Attached} {descriptor : Descriptor} {buffer data : Bytes} {target : SeekTarget}

/-- A read never delivers more bytes than there is room for, nor another buffer. -/
theorem ReadEnds.meets {ended : Outcome StreamError (Nat × Bytes) × Attached}
    (ends : before.ReadEnds descriptor buffer ended) :
    ended.1.Meets fun answer => answer.1 ≤ buffer.length ∧ answer.2.length = buffer.length := by
  rcases ends with ⟨bytes, after, moved, rfl, room, -⟩ | ⟨cause, after, moved, rfl, -⟩
  · refine ⟨room, ?_⟩
    rw [Bytes.length_overlay]
    omega
  · trivial

/-- A write never reports more bytes than it was given. -/
theorem WriteEnds.meets {ended : Outcome StreamError Nat × Attached}
    (ends : before.WriteEnds descriptor data ended) :
    ended.1.Meets fun count => count ≤ data.length := by
  rcases ends with ⟨count, after, moved, rfl, room, -⟩ | ⟨cause, after, moved, rfl, -⟩
  · exact room
  · trivial

/-- No check fails in a seek. -/
theorem SeekEnds.meets {ended : Outcome StreamError Nat × Attached}
    (ends : before.SeekEnds descriptor target ended) : ended.1.Meets fun _ => True := by
  rcases ends with ⟨position, after, moved, rfl, -⟩ | ⟨cause, after, moved, rfl, -⟩
  · trivial
  · trivial

end Attached

namespace CachedStream

open Attached

variable {start attached : Attached} {descriptor : Descriptor}

/-- No check fails in a flush of a stream that is not too far into its object. -/
theorem flush_meets (coherent : attached.Coherent descriptor)
    (near : attached.stream.here < PlainFile.positionBound) :
    (flush attached).1.Meets fun _ => True := by
  rcases flush_cases coherent (coherent.reach_lt near) with
    ⟨remote, moved, ended, -⟩ | ⟨cause, synced, remote, moved, ended, -⟩
  · rw [ended]
    trivial
  · rw [ended]
    trivial

/-- No check fails when the object is asked for its position. -/
theorem remotePosition_meets (coherent : attached.Coherent descriptor)
    (near : attached.stream.here < PlainFile.positionBound) :
    (remotePosition attached).1.Meets fun _ => True := by
  have inside : descriptor.position < Word.bound := by
    have reach := coherent.reach_lt near
    have reached := coherent.reached
    have half := Word.signedBound_add_signedBound
    rw [coherent.position]
    omega
  rcases Link.position_cases coherent.serves inside with
    ⟨remote, answered, -⟩ | ⟨cause, remote, failed, -⟩
  · simp only [remotePosition, Action.bind_apply, current_apply, ask_apply, answered]
    trivial
  · simp only [remotePosition, Action.bind_apply, current_apply, ask_apply, failed]
    trivial

/-- Every operation of a coherent stream gives an answer that fits, or fails. -/
theorem perform_meets (coherent : attached.Coherent descriptor)
    (near : attached.stream.here < PlainFile.positionBound) {operation : Operation}
    (addressable : operation.Addressable) (fits : operation.FitsAt attached.stream.here) :
    (perform operation attached).1.Meets operation.Fits := by
  have small : ([0] : Bytes).length < Word.signedBound := by
    simp [Word.signedBound]
  cases operation with
  | read buffer =>
      have ends := read_cases coherent near addressable
      exact Action.meets_map ends.meets fun _ fits => ⟨_, _, rfl, fits⟩
  | write data =>
      have ends := write_cases coherent near fits
      exact Action.meets_map ends.meets fun _ fits => ⟨_, rfl, fits⟩
  | putByte byte =>
      have ends := write_cases coherent near (byte_within near byte)
      have puts : (putByte byte attached).1.Meets (· = byte) :=
        Action.meets_bind ends.meets fun _ _ _ => rfl
      exact Action.meets_map puts fun _ same => congrArg Answer.byte same
  | getByte =>
      have ends := read_cases coherent near small
      have gets : (getByte attached).1.Meets fun _ => True := by
        apply Action.meets_bind ends.meets
        rintro ⟨count, filled⟩ after -
        simp only [Action.ite_apply]
        split <;> trivial
      exact Action.meets_map gets fun _ _ => ⟨_, rfl⟩
  | seek target =>
      have ends := seek_cases coherent near target
      exact Action.meets_map ends.meets fun _ _ => ⟨_, rfl⟩
  | tell =>
      have told : (tell attached : Outcome StreamError Nat × Attached).1.Meets fun _ => True := by
        rw [tell_apply (Nat.lt_trans near (by decide))]
        trivial
      exact Action.meets_map told fun _ _ => ⟨_, rfl⟩
  | flush => exact Action.meets_map (flush_meets coherent near) fun _ _ => rfl
  | remotePosition =>
      exact Action.meets_map (remotePosition_meets coherent near) fun _ _ => ⟨_, rfl⟩

/-- A coherent stream is closed, or fails to be, whatever its window holds. -/
theorem close_lasts (coherent : attached.Coherent descriptor)
    (near : attached.stream.here < PlainFile.positionBound) (breach : Breach) :
    (attached.stream.close attached.remote).1 ≠ .broken breach := by
  have noted := (coherent.keeps_remote (coherent.serves.noting
    (.closingCached attached.stream.path))).advances.coherent
  obtain ⟨moved, returns⟩ := noted.returns near
  obtain ⟨ended, -, -, lasts, -⟩ := close_ends returns.lasts rfl returns.moves.serves
  exact lasts breach

section Whole

variable {first : Descriptor}

/-- A read that delivers something leaves a smaller one to be done. -/
theorem readMissing_of_read {missing count : Nat} {buffer filled : Bytes} {after : Attached}
    (ended : read buffer attached = (.ok (count, filled), after)) (progress : count ≠ 0)
    (room : count ≤ missing) :
    readMissing missing buffer attached =
      ((fun rest => filled.take count ++ rest) <$>
        readMissing (missing - count) (filled.drop count)) after := by
  have unfinished : missing ≠ 0 := by omega
  rw [readMissing, if_neg unfinished, Action.bind_apply, asFile, Action.mapError, ended]
  simp only [Outcome.mapError_ok, progress, Nat.not_lt.mpr room, ↓reduceIte]
  rfl

/-- A read of a whole buffer is a sequence of reads: it leads to a state that the stream reaches
by operations, and fills the buffer if it does not fail. -/
theorem readMissing_ends (initial : start.Coherent first) {missing : Nat} {buffer : Bytes}
    (length : buffer.length = missing) (reached : Reachable start attached)
    (inRange : attached.stream.here + missing ≤ PlainFile.positionBound) :
    (readMissing missing buffer attached).1.Meets (fun filled => filled.length = missing) ∧
      Reachable start (readMissing missing buffer attached).2 := by
  induction missing using Nat.strongRecOn generalizing buffer attached with
  | ind missing ih =>
    by_cases complete : missing = 0
    · rw [readMissing, if_pos complete]
      exact ⟨length, reached⟩
    · obtain ⟨descriptor, tracks⟩ := reached.visited.tracks initial
      have near : attached.stream.here < PlainFile.positionBound := by omega
      have small : buffer.length < Word.signedBound := by
        simp only [PlainFile.positionBound, Word.signedBound] at *
        omega
      have next : Reachable start (perform (.read buffer) attached).2 := .step reached near small
      rw [perform, Action.map_apply] at next
      rcases read_cases tracks.coherent near small with
        ⟨bytes, after, moved, ended, room, delivers, -⟩ | ⟨cause, after, moved, ended, -⟩
      · rw [ended] at next
        by_cases progress : bytes.length = 0
        · rw [readMissing, if_neg complete, Action.bind_apply, asFile, Action.mapError, ended]
          simp only [Outcome.mapError_ok, progress, ↓reduceIte]
          exact ⟨trivial, next⟩
        · have whole : (buffer.overlay 0 bytes).length = missing := by
            rw [Bytes.length_overlay]
            omega
          have left : ((buffer.overlay 0 bytes).drop bytes.length).length =
              missing - bytes.length := by
            rw [List.length_drop, whole]
          have closer : after.stream.here + (missing - bytes.length) ≤
              PlainFile.positionBound := by
            rw [delivers.here]
            omega
          have rest := ih (missing - bytes.length) (by omega) left next closer
          rw [readMissing_of_read ended progress (length ▸ room)]
          refine ⟨Action.meets_map rest.1 fun remaining filled => ?_, ?_⟩
          · rw [List.length_append, List.length_take, filled, whole]
            omega
          · rw [Action.map_apply]
            exact rest.2
      · rw [ended] at next
        rw [readMissing, if_neg complete, Action.bind_apply, asFile, Action.mapError, ended]
        exact ⟨trivial, next⟩

/-- A transfer of all data goes on behind what one write of it has taken. -/
theorem writeAll_of_write {data : Bytes} {count : Nat} {after : Attached}
    (ended : write data attached = (.ok count, after)) (progress : count ≠ 0)
    (room : count ≤ data.length) : writeAll data attached = writeAll (data.drop count) after := by
  have unfinished : data.length ≠ 0 := by omega
  rw [writeAll, if_neg unfinished, Action.bind_apply, asFile, Action.mapError, ended]
  simp only [Outcome.mapError_ok, progress, Nat.not_lt.mpr room, ↓reduceIte]

/-- A write of all bytes is a sequence of writes. -/
theorem writeAll_ends (initial : start.Coherent first) (data : Bytes)
    (reached : Reachable start attached)
    (inRange : attached.stream.here + data.length ≤ PlainFile.positionBound) :
    (writeAll data attached).1.Meets (fun _ => True) ∧
      Reachable start (writeAll data attached).2 := by
  induction length : data.length using Nat.strongRecOn generalizing data attached with
  | ind remaining ih =>
    subst length
    by_cases complete : data.length = 0
    · rw [writeAll, if_pos complete]
      exact ⟨trivial, reached⟩
    · obtain ⟨descriptor, tracks⟩ := reached.visited.tracks initial
      have near : attached.stream.here < PlainFile.positionBound := by omega
      have within : attached.stream.here + data.length < Word.signedBound :=
        Nat.lt_of_le_of_lt inRange (by decide)
      have small : data.length < Word.signedBound := by omega
      have next : Reachable start (perform (.write data) attached).2 := .step reached near small
      rw [perform, Action.map_apply] at next
      rcases write_cases tracks.coherent near within with
        ⟨count, after, moved, ended, room, accepts, -⟩ | ⟨cause, after, moved, ended, -⟩
      · rw [ended] at next
        by_cases progress : count = 0
        · rw [writeAll, if_neg complete, Action.bind_apply, asFile, Action.mapError, ended]
          simp only [Outcome.mapError_ok, progress, ↓reduceIte]
          exact ⟨trivial, next⟩
        · rw [writeAll_of_write ended progress room]
          have fewer : (data.drop count).length < data.length := by
            rw [List.length_drop]
            omega
          have closer : after.stream.here + (data.drop count).length ≤
              PlainFile.positionBound := by
            rw [accepts.here, List.length_take_of_le room, List.length_drop]
            omega
          exact ih _ fewer (data.drop count) next closer rfl
      · rw [ended] at next
        rw [writeAll, if_neg complete, Action.bind_apply, asFile, Action.mapError, ended]
        exact ⟨trivial, next⟩

end Whole

end CachedStream

/-- Whatever a stream is asked for next, no check fails. The window is in bounds and no larger than
it may be, and its end is far from the largest machine word. -/
structure Attached.Checked (start attached : Attached) (sizes : BufferSizes) : Prop where
  bounded : attached.stream.window.InBounds
  limit : attached.stream.window.limit = sizes.max
  limited : attached.stream.window.capacity ≤ attached.stream.window.limit
  reach : attached.stream.base + attached.stream.window.extent < Word.signedBound
  performs : ∀ operation : Operation, operation.Addressable →
    operation.FitsAt attached.stream.here →
    (CachedStream.perform operation attached).1.Meets operation.Fits
  reads : ∀ buffer : Bytes, attached.stream.here + buffer.length ≤ PlainFile.positionBound →
    (CachedStream.readExact buffer attached).1.Meets (fun filled =>
      filled.length = buffer.length) ∧
    CachedStream.Reachable start (CachedStream.readExact buffer attached).2
  writes : ∀ data : Bytes, attached.stream.here + data.length ≤ PlainFile.positionBound →
    (CachedStream.writeAll data attached).1.Meets (fun _ => True) ∧
    CachedStream.Reachable start (CachedStream.writeAll data attached).2
  closes : ∀ breach, (attached.stream.close attached.remote).1 ≠ .broken breach

namespace CachedStream

open Attached

variable {remote : Remote} {path : String} {mode : OpenMode} {sizes : BufferSizes}

/-- However the remote side fails, as long as it does so honestly, no check of a stream ever fails:
not while it is opened, not in any operation or whole transfer after any others, and not when it is
closed. Its window may be of any size, and of one that cannot be had. -/
theorem checks_hold (honest : remote.faults.Honest) (ordered : sizes.initial ≤ sizes.max) :
    (∀ breach, (openStream path mode sizes remote).1 ≠ .broken breach) ∧
    ∀ stream opened attached, openStream path mode sizes remote = (.ok stream, opened) →
      Reachable ⟨stream, opened⟩ attached → attached.stream.here < PlainFile.positionBound →
        Checked ⟨stream, opened⟩ attached sizes := by
  refine ⟨openStream_returns path mode ordered remote, ?_⟩
  intro stream opened attached succeeded reached near
  obtain ⟨first, initial, -, limit⟩ := coherent_of_openStream honest ordered succeeded
  obtain ⟨descriptor, tracks⟩ := reached.visited.tracks initial
  have coherent := tracks.coherent
  exact {
    bounded := coherent.bounded
    limit := tracks.limit.trans limit
    limited := coherent.limited
    reach := coherent.reach_lt near
    performs := fun _ addressable fits => perform_meets coherent near addressable fits
    reads := fun _ inRange => readMissing_ends initial rfl reached inRange
    writes := fun data inRange => writeAll_ends initial data reached inRange
    closes := close_lasts coherent near }

/-- A flush that stopped early and a write for which there was no memory leave no check to fail. -/
theorem checks_hold_after_refused_growth :
    ∃ (stream : CachedStream) (opened : Remote),
      openStream "a" .readWrite ⟨2, 4⟩ .cramped = (.ok stream, opened) ∧
      (perform (.write [9, 10, 11]) (run [.write [7, 8], .flush] ⟨stream, opened⟩).2).1 =
        .error (.allocation 4) ∧
      Checked ⟨stream, opened⟩
        (run [.write [7, 8], .flush, .write [9, 10, 11]] ⟨stream, opened⟩).2 ⟨2, 4⟩ := by
  have succeeded : openStream "a" .readWrite ⟨2, 4⟩ .cramped =
      (.ok (fresh ⟨1⟩ "a" ⟨2, 4⟩), (openStream "a" .readWrite ⟨2, 4⟩ .cramped).2) := rfl
  have reached : Reachable ⟨fresh ⟨1⟩ "a" ⟨2, 4⟩, (openStream "a" .readWrite ⟨2, 4⟩ .cramped).2⟩
      (perform (.write [9, 10, 11]) (perform .flush (perform (.write [7, 8]) ⟨fresh ⟨1⟩ "a" ⟨2, 4⟩,
        (openStream "a" .readWrite ⟨2, 4⟩ .cramped).2⟩).2).2).2 :=
    .step (.step (.step .start (by decide) (by decide)) (by decide) (by decide)) (by decide)
      (by decide)
  have checked := (checks_hold Remote.honest_cramped (by decide)).2 _ _ _ succeeded reached
    (by decide)
  exact ⟨_, _, succeeded, rfl, checked⟩

end CachedStream

end RemoteStreams
