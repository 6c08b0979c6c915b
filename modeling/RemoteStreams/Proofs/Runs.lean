import RemoteStreams.Proofs.Anywhere

/-! # Runs

What holds of a cached stream from its opening on, whatever it is asked for. Under
honest faults of any pattern it never loses track of its object
(`RemoteStreams.CachedStream.synchronised_of_reachable`), and every operation is a
step of the file that its user sees
(`RemoteStreams.CachedStream.step_of_reachable`). Without faults it is a plain
file, up to the content that it leaves in the store
(`RemoteStreams.CachedStream.run_eq_plainFile`).
-/

namespace RemoteStreams

/-- What the user of a stream learns from an operation: its answer, or that it failed, and
the position after it. -/
abbrev Report := Outcome Unit Answer × Outcome Unit Nat

namespace PlainFile

/-- The reports of a sequence of operations, and the file after them. -/
def run : List Operation → PlainFile → List Report × PlainFile
  | [], file => ([], file)
  | operation :: rest, file =>
      let (answer, after) := file.perform operation
      let (reports, final) := run rest after
      ((answer, .ok after.position) :: reports, final)

/-- The file is used at positions in range only. -/
def Within : List Operation → PlainFile → Prop
  | [], file => file.position < positionBound
  | operation :: rest, file =>
      file.position < positionBound ∧ Within rest (file.perform operation).2

/-- A file whose run stays in range is in range. -/
theorem Within.near {operations : List Operation} {file : PlainFile}
    (inRange : Within operations file) : file.position < positionBound := by
  cases operations with
  | nil => exact inRange
  | cons operation rest => exact inRange.1

end PlainFile

/-- A connected remote side with one object. -/
def Remote.reliable : Remote :=
  { Remote.create (FiniteMap.empty.insert ⟨"a"⟩ [1, 2, 3]) true with
    session := { Session.create true with connected := true } }

/-- The same, but the first write to an object stops early. -/
def Remote.hesitant : Remote :=
  { Remote.reliable with
    faults := FiniteMap.insert ∅ .writeObject (.arm (.shortened 1) 0 (some 1)) }

/-- The same, and there is no memory but for the first window. -/
def Remote.cramped : Remote :=
  { Remote.hesitant with
    faults := Remote.hesitant.faults.insert .allocate (.arm .refused 1 none) }

theorem Remote.honest_hesitant : Remote.hesitant.faults.Honest := by
  have short : Fault.Honest (.shortened 1) := trivial
  exact FaultPlan.honest_empty.arm .writeObject short 0 (some 1)

/-- Memory that is refused is not a lie. -/
theorem Remote.honest_cramped : Remote.cramped.faults.Honest := by
  have refuses : Fault.Honest .refused := trivial
  exact Remote.honest_hesitant.arm .allocate refuses 1 none

namespace CachedStream

open Attached

/-- The reports of a sequence of operations, and the stream after them. -/
def run : List Operation → Attached → List Report × Attached
  | [], attached => ([], attached)
  | operation :: rest, attached =>
      let (answer, after) := perform operation attached
      let (reports, final) := run rest after
      ((answer.mapError (fun _ => ()), (tell after).1) :: reports, final)

/-- The states that a stream reaches by operations at positions in range. -/
inductive Reachable (start : Attached) : Attached → Prop
  | start : Reachable start start
  | step {attached : Attached} {operation : Operation} (reached : Reachable start attached)
      (near : attached.stream.here < PlainFile.positionBound)
      (addressable : operation.Addressable) : Reachable start (perform operation attached).2

variable {start attached : Attached} {descriptor : Descriptor}

/-- What is reachable is visited on the way, with the faults that are there. -/
theorem Reachable.visited (reached : Reachable start attached) : Visited start attached := by
  induction reached with
  | start => exact .start
  | step _ _ addressable ih => exact ih.step addressable

/-- What lasts through every operation holds in all states that a stream reaches. -/
theorem Lasting.reachable {object : ObjectId} {holds : Remote → Prop}
    (lasting : Lasting object holds) (reached : Reachable start attached)
    (held : On object holds start) : On object holds attached := by
  induction reached with
  | start => exact held
  | step _ _ _ before => exact lasting.perform _ _ before

/-- The user of a stream that may be written to always sees a file. -/
theorem exists_file (coherent : attached.Coherent descriptor)
    (writable : descriptor.mode.writable = true) :
    ∃ file, attached.file? = some file ∧ (attached.stream.dirty = false →
      attached.remote.backing? attached.stream.object = some file.content) := by
  have sound := coherent.serves.sound
  cases kind : descriptor.content with
  | recorded size =>
      rw [Descriptor.Sound, kind, writable] at sound
      contradiction
  | staged staged modified =>
      have backed : attached.remote.backing? attached.stream.object = some staged := by
        simp only [Remote.backing?, coherent.serves.found, Option.bind_some, Descriptor.backing?,
          kind]
      refine ⟨⟨attached.stream.overlaid staged, attached.stream.here⟩, ?_, fun clean => ?_⟩
      · simp only [file?, content?, backed, Option.map_some]
      · rw [backed, overlaid_of_clean clean]

/-- Without faults, the reports of a stream are those of the file that its user sees. -/
theorem run_eq (operations : List Operation) {file : PlainFile}
    (coherent : attached.Coherent descriptor) (steady : attached.Steady descriptor)
    (seen : attached.file? = some file) (inRange : PlainFile.Within operations file)
    (addressable : ∀ operation ∈ operations, operation.Addressable)
    (permitted : ∀ operation ∈ operations, operation.Permitted descriptor.mode) :
    (run operations attached).1 = (PlainFile.run operations file).1 ∧
    ∃ moved, attached.Advances descriptor (run operations attached).2 moved ∧
      (run operations attached).2.Steady moved ∧
      (run operations attached).2.file? = some (PlainFile.run operations file).2 ∧
      (PlainFile.run operations file).2.position < PlainFile.positionBound := by
  induction operations generalizing attached descriptor file with
  | nil => exact ⟨rfl, descriptor, .refl coherent, steady, seen, inRange⟩
  | cons operation rest ih =>
      obtain ⟨shown, here⟩ := file?_eq_some_iff.mp seen
      have near : attached.stream.here < PlainFile.positionBound := here ▸ inRange.1
      obtain ⟨between, answers⟩ := perform_answers coherent near
        (addressable operation List.mem_cons_self)
        (here ▸ Operation.fitsAt_of_inRange inRange.2.near)
      have allowed := permitted operation List.mem_cons_self
      obtain ⟨next, answered⟩ := answers.plain steady allowed file seen inRange.2.near
      have told : (tell (perform operation attached).2 : Outcome Unit Nat × Attached).1 =
          .ok (file.perform operation).2.position := by
        have arrived := (file?_eq_some_iff.mp next).2
        have fits : (perform operation attached).2.stream.here < Word.bound := by
          rw [arrived]
          exact Nat.lt_trans inRange.2.near (by decide)
        rw [tell_apply fits, arrived]
      have mode := answers.advances.moves.evolved.mode
      obtain ⟨reports, moved, advances, final⟩ := ih answers.advances.coherent
        (answers.steady steady allowed) next inRange.2
        (fun operation member => addressable operation (List.mem_cons_of_mem _ member))
        (fun operation member => mode ▸ permitted operation (List.mem_cons_of_mem _ member))
      refine ⟨?_, moved, answers.advances.trans advances, final⟩
      simp only [run, PlainFile.run, told, answered, reports]

section Opened

variable {remote opened : Remote} {stream : CachedStream} {path : String} {mode : OpenMode}
  {sizes : BufferSizes}

/-- A stream that opened is coherent from the start, and its window is empty. -/
theorem fresh_of_openStream (honest : remote.faults.Honest) (ordered : sizes.initial ≤ sizes.max)
    (succeeded : openStream path mode sizes remote = (.ok stream, opened)) :
    ∃ object descriptor, stream = fresh object path sizes ∧
      Coherent ⟨stream, opened⟩ descriptor ∧ descriptor.mode = mode ∧
      (remote.faults = ∅ → opened.faults = ∅) := by
  rcases openStream_cases honest path mode ordered with
    ⟨object, descriptor, after, answered, fresh, allocatable⟩ | ⟨failed, -⟩
  · rw [answered] at succeeded
    obtain ⟨same, rfl⟩ := Prod.mk.inj succeeded
    obtain rfl := Outcome.ok.inj same
    exact ⟨object, descriptor, rfl,
      coherent_fresh fresh.serves fresh.position path ordered allocatable, fresh.mode_eq,
      fresh.quiet⟩
  · exact (failed stream opened succeeded).elim

/-- A stream that was just opened is coherent with its object, and its window has the limit that was
asked for. -/
theorem coherent_of_openStream (honest : remote.faults.Honest) (ordered : sizes.initial ≤ sizes.max)
    (succeeded : openStream path mode sizes remote = (.ok stream, opened)) :
    ∃ descriptor, Coherent ⟨stream, opened⟩ descriptor ∧ descriptor.mode = mode ∧
      stream.window.limit = sizes.max := by
  obtain ⟨object, descriptor, rfl, coherent, mode_eq, -⟩ :=
    fresh_of_openStream honest ordered succeeded
  exact ⟨descriptor, coherent, mode_eq, rfl⟩

/-- Without faults a stream opens on an object that is there, or that it is to write, and sees
what the store has of it. Only a stream that just reads depends on the size that is remembered. -/
theorem openStream_shows {location : ObjectPath} {content : Bytes}
    (connected : remote.session.connected = true) (quiet : remote.faults = ∅)
    (spelled : ObjectPath.parse path = .ok location)
    (held : remote.objects.find? location = some content ∨
      mode = .write ∧ remote.objects.find? location = none ∧ content = [])
    (recalls : mode.writable = false → remote.Remembers location)
    (ordered : sizes.initial ≤ sizes.max) (allocatable : sizes.max < Window.allocationBound) :
    ∃ object descriptor opened, openStream path mode sizes remote =
        (.ok (fresh object path sizes), opened) ∧
      Coherent ⟨fresh object path sizes, opened⟩ descriptor ∧
      Steady ⟨fresh object path sizes, opened⟩ descriptor ∧
      descriptor.mode = mode ∧ descriptor.location = location ∧
      descriptor.Faithful opened.objects ∧
      file? ⟨fresh object path sizes, opened⟩ = some ⟨content, 0⟩ := by
  have honest : remote.faults.Honest := quiet ▸ FaultPlan.honest_empty
  rcases openStream_cases honest path mode ordered with
    ⟨object, descriptor, opened, answered, fresh, small⟩ | ⟨-, excuse⟩
  · obtain rfl : descriptor.location = location := by
      have same := fresh.spelled.symm.trans spelled
      simpa using same
    have coherent := coherent_fresh fresh.serves fresh.position path ordered small
    have backed := fresh.backing?_eq recalls (fresh.stored_of_held quiet held)
    refine ⟨object, descriptor, opened, answered, coherent, ⟨fresh.quiet quiet, allocatable,
      fun dirty => by simp [CachedStream.fresh] at dirty⟩, fresh.mode_eq, rfl, fresh.faithful, ?_⟩
    apply file?_eq_some_iff.mpr
    exact ⟨(coherent.content?_of_clean rfl).trans backed, rfl⟩
  · have small : sizes.initial < Window.allocationBound := Nat.lt_of_le_of_lt ordered allocatable
    obtain ⟨absent, reads⟩ := excuse quiet connected small location spelled
    rcases held with present | ⟨writes, -, -⟩
    · rw [absent] at present
      contradiction
    · exact (reads writes).elim

/-- A stream opens if the size that is remembered for its object is right. -/
theorem openStream_apply {location : ObjectPath} {content : Bytes}
    (connected : remote.session.connected = true) (quiet : remote.faults = ∅)
    (spelled : ObjectPath.parse path = .ok location)
    (held : remote.objects.find? location = some content ∨
      mode = .write ∧ remote.objects.find? location = none ∧ content = [])
    (remembers : remote.Remembers location) (ordered : sizes.initial ≤ sizes.max)
    (allocatable : sizes.max < Window.allocationBound) :
    ∃ object descriptor opened, openStream path mode sizes remote =
        (.ok (fresh object path sizes), opened) ∧
      Coherent ⟨fresh object path sizes, opened⟩ descriptor ∧
      Steady ⟨fresh object path sizes, opened⟩ descriptor ∧
      descriptor.mode = mode ∧ descriptor.location = location ∧
      descriptor.Faithful opened.objects ∧
      file? ⟨fresh object path sizes, opened⟩ = some ⟨content, 0⟩ :=
  openStream_shows connected quiet spelled held (fun _ => remembers) ordered allocatable

/-- The stream knows where its object stands, and a clean window shows what the object has there. -/
structure Synchronised (attached : Attached) (sizes : BufferSizes) (descriptor : Descriptor) :
    Prop where
  opened : attached.remote.session.descriptors.find? attached.stream.object = some descriptor
  /-- The object stands behind the bytes of the window that are in step with it. -/
  position : descriptor.position = attached.stream.base + attached.stream.synced
  synced_le : attached.stream.synced ≤ attached.stream.window.extent
  cursor_le : attached.stream.window.cursor ≤ attached.stream.window.extent
  extent_le : attached.stream.window.extent ≤ attached.stream.window.capacity
  capacity_le : attached.stream.window.capacity ≤ sizes.max
  /-- All of a clean window is in step with the object, -/
  settled : attached.stream.dirty = false →
    attached.stream.synced = attached.stream.window.extent
  /-- and if the object is staged, the window shows what is staged there. -/
  mirrors : attached.stream.dirty = false → descriptor.mode.writable = true →
    ∃ staged modified, descriptor.content = .staged staged modified ∧
      attached.stream.window.occupied = staged.slice attached.stream.base
        (attached.stream.base + attached.stream.window.extent)
  pending : attached.stream.dirty = true → 0 < attached.stream.window.extent
  /-- The window never gets smaller. -/
  grows : ∀ later, Reachable attached later →
    attached.stream.window.capacity ≤ later.stream.window.capacity

/-- However the remote side fails, as long as it does so honestly, a stream that was opened is in
step with its object. -/
theorem synchronised_of_reachable (honest : remote.faults.Honest)
    (ordered : sizes.initial ≤ sizes.max)
    (succeeded : openStream path mode sizes remote = (.ok stream, opened))
    (reached : Reachable ⟨stream, opened⟩ attached) :
    ∃ descriptor, Synchronised attached sizes descriptor := by
  obtain ⟨first, initial, -, limit⟩ := coherent_of_openStream honest ordered succeeded
  obtain ⟨descriptor, tracks⟩ := reached.visited.tracks initial
  have coherent := tracks.coherent
  have bound : attached.stream.window.capacity ≤ sizes.max := by
    rw [← limit, ← tracks.limit]
    exact coherent.limited
  refine ⟨descriptor, coherent.serves.found, coherent.position, coherent.reached,
    Window.cursor_le_extent _, coherent.extent_le, bound, coherent.settled, fun clean writable => ?_,
    coherent.pending, fun later onwards => ?_⟩
  · have sound := coherent.serves.sound
    cases kind : descriptor.content with
    | recorded size =>
        rw [Descriptor.Sound, kind, writable] at sound
        contradiction
    | staged staged modified =>
        refine ⟨staged, modified, rfl, coherent.mirrored clean staged ?_⟩
        rw [Descriptor.backing?, kind]
  · obtain ⟨moved, further⟩ := onwards.visited.tracks coherent
    exact further.capacity

/-- A flush that stops early leaves the stream synchronised. -/
theorem synchronised_after_short_flush :
    ∃ (stream : CachedStream) (opened : Remote) (descriptor : Descriptor),
      openStream "a" .readWrite ⟨2, 4⟩ .hesitant = (.ok stream, opened) ∧
      (run [.write [7, 8], .flush] ⟨stream, opened⟩).2.stream.dirty = true ∧
      descriptor.position =
        (run [.write [7, 8], .flush] ⟨stream, opened⟩).2.stream.base +
          (run [.write [7, 8], .flush] ⟨stream, opened⟩).2.stream.synced := by
  have succeeded : openStream "a" .readWrite ⟨2, 4⟩ .hesitant =
      (.ok (fresh ⟨1⟩ "a" ⟨2, 4⟩), (openStream "a" .readWrite ⟨2, 4⟩ .hesitant).2) := rfl
  have reached : Reachable ⟨fresh ⟨1⟩ "a" ⟨2, 4⟩, (openStream "a" .readWrite ⟨2, 4⟩ .hesitant).2⟩
      (perform .flush (perform (.write [7, 8]) ⟨fresh ⟨1⟩ "a" ⟨2, 4⟩,
        (openStream "a" .readWrite ⟨2, 4⟩ .hesitant).2⟩).2).2 :=
    .step (.step .start (by decide) (by decide)) (by decide) (by decide)
  obtain ⟨descriptor, synchronised⟩ :=
    synchronised_of_reachable Remote.honest_hesitant (by decide) succeeded reached
  exact ⟨_, _, descriptor, succeeded, rfl, synchronised.position⟩

/-- No byte is lost, doubled or misplaced: whatever fails, as long as it fails honestly,
every operation is a step of the file that the user of a stream sees. That file is what the
object has, once the window is written back. -/
theorem step_of_reachable (honest : remote.faults.Honest) (ordered : sizes.initial ≤ sizes.max)
    (succeeded : openStream path .readWrite sizes remote = (.ok stream, opened))
    (reached : Reachable ⟨stream, opened⟩ attached)
    (near : attached.stream.here < PlainFile.positionBound) {operation : Operation}
    (addressable : operation.Addressable) (fits : operation.FitsAt attached.stream.here) :
    ∃ file final,
      attached.file? = some file ∧
      (perform operation attached).2.file? = some final ∧
      file.Step operation (perform operation attached).1 final ∧
      (tell : StreamAction Nat) attached = (.ok file.position, attached) ∧
      (attached.stream.dirty = false →
        attached.remote.backing? attached.stream.object = some file.content) ∧
      (0 < sizes.max → ∀ byte, operation = .putByte byte →
        (perform operation attached).1 = .ok (.byte byte) → final = file.written [byte]) := by
  obtain ⟨first, initial, mode, limit⟩ := coherent_of_openStream honest ordered succeeded
  obtain ⟨descriptor, tracks⟩ := reached.visited.tracks initial
  have coherent := tracks.coherent
  have writable : descriptor.mode.writable = true := by
    rw [tracks.mode, mode]
    rfl
  obtain ⟨file, seen, stored⟩ := exists_file coherent writable
  obtain ⟨moved, answers⟩ := perform_answers coherent near addressable fits
  obtain ⟨final, next, step⟩ := answers.step file seen
  refine ⟨file, final, seen, next, step, ?_, stored, ?_⟩
  · rw [tell_apply (Nat.lt_trans near (by decide)), (file?_eq_some_iff.mp seen).2]
  · rintro roomy byte rfl delivered
    have limited : 0 < attached.stream.window.limit := by
      rw [tracks.limit, limit]
      exact roomy
    rcases putByte_cases coherent near byte with
      ⟨count, after, moved, ended, room, accepts, whole, -⟩ | ⟨cause, after, moved, ended, -⟩
    · have last := accepts.file?_eq seen
      rw [whole limited] at last
      rw [perform, Action.map_apply, ended] at next
      exact Option.some.inj (next.symm.trans last)
    · rw [perform, Action.map_apply, ended] at delivered
      simp at delivered

/-- Two bytes wait in the window when a flush of them stops early. There is no memory for three
more, so a write of these is a step that refuses, and the file is as before. -/
theorem step_of_refused_growth :
    ∃ (stream : CachedStream) (opened : Remote) (file final : PlainFile),
      openStream "a" .readWrite ⟨2, 4⟩ .cramped = (.ok stream, opened) ∧
      (run [.write [7, 8], .flush] ⟨stream, opened⟩).2.file? = some file ∧
      (perform (.write [9, 10, 11]) (run [.write [7, 8], .flush] ⟨stream, opened⟩).2).2.file? =
        some final ∧
      file.Step (.write [9, 10, 11]) (.error (.allocation 4)) final := by
  have succeeded : openStream "a" .readWrite ⟨2, 4⟩ .cramped =
      (.ok (fresh ⟨1⟩ "a" ⟨2, 4⟩), (openStream "a" .readWrite ⟨2, 4⟩ .cramped).2) := rfl
  have reached : Reachable ⟨fresh ⟨1⟩ "a" ⟨2, 4⟩, (openStream "a" .readWrite ⟨2, 4⟩ .cramped).2⟩
      (perform .flush (perform (.write [7, 8]) ⟨fresh ⟨1⟩ "a" ⟨2, 4⟩,
        (openStream "a" .readWrite ⟨2, 4⟩ .cramped).2⟩).2).2 :=
    .step (.step .start (by decide) (by decide)) (by decide) (by decide)
  have addressable : Operation.Addressable (.write [9, 10, 11]) := by decide
  obtain ⟨file, final, seen, next, step, -⟩ := step_of_reachable Remote.honest_cramped (by decide)
    succeeded reached (by decide) addressable (by decide)
  exact ⟨_, _, file, final, succeeded, seen, next, step⟩

/-- Without faults, a stream is a plain file. Whatever the sizes of its window are and
however its operations are mixed, it reports what the plain file reports, and when it is
closed its object is what the plain file is. -/
theorem run_eq_plainFile {location : ObjectPath} {content : Bytes} {operations : List Operation}
    (connected : remote.session.connected = true) (quiet : remote.faults = ∅)
    (spelled : ObjectPath.parse path = .ok location)
    (held : remote.objects.find? location = some content ∨
      mode = .write ∧ remote.objects.find? location = none ∧ content = [])
    (remembers : remote.Remembers location) (ordered : sizes.initial ≤ sizes.max)
    (allocatable : sizes.max < Window.allocationBound)
    (addressable : ∀ operation ∈ operations, operation.Addressable)
    (permitted : ∀ operation ∈ operations, operation.Permitted mode)
    (inRange : PlainFile.Within operations ⟨content, 0⟩) :
    ∃ stream opened closed, openStream path mode sizes remote = (.ok stream, opened) ∧
      (run operations ⟨stream, opened⟩).1 = (PlainFile.run operations ⟨content, 0⟩).1 ∧
      close (run operations ⟨stream, opened⟩).2.stream
        (run operations ⟨stream, opened⟩).2.remote = (.ok (), closed) ∧
      closed.objects.find? location =
        some (PlainFile.run operations ⟨content, 0⟩).2.content := by
  obtain ⟨object, descriptor, opened, answered, coherent, steady, rfl, rfl, faithful, seen⟩ :=
    openStream_apply connected quiet spelled held remembers ordered allocatable
  obtain ⟨reports, moved, advances, calm, final, near⟩ :=
    run_eq operations coherent steady seen inRange addressable permitted
  obtain ⟨shown, here⟩ := file?_eq_some_iff.mp final
  have moves := advances.moves
  obtain ⟨closed, finished, stored⟩ := close_apply advances.coherent
    (advances.coherent.reach_lt (here ▸ near)) calm
    (moves.objects ▸ moves.evolved.faithful faithful) shown
  exact ⟨_, opened, closed, answered, reports, finished, moves.evolved.location ▸ stored⟩

end Opened

/-- Writing past a small window, seeking back and reading is what it is for a plain file. -/
theorem run_eq_plainFile_small_window :
    ∃ stream opened closed, openStream "a" .readWrite ⟨2, 4⟩ .reliable = (.ok stream, opened) ∧
      (run [.write [7, 8, 9, 10, 11], .seek (.current (-4)), .read [0, 0], .seek (.ending (-9))]
        ⟨stream, opened⟩).1 =
          [(.ok (.accepted 5), .ok 5), (.ok (.position 1), .ok 1),
            (.ok (.filled 2 [8, 9]), .ok 3), (.error (), .ok 3)] ∧
      close (run [.write [7, 8, 9, 10, 11], .seek (.current (-4)), .read [0, 0],
          .seek (.ending (-9))] ⟨stream, opened⟩).2.stream
        (run [.write [7, 8, 9, 10, 11], .seek (.current (-4)), .read [0, 0],
          .seek (.ending (-9))] ⟨stream, opened⟩).2.remote = (.ok (), closed) ∧
      closed.objects.find? ⟨"a"⟩ = some [7, 8, 9, 10, 11] := by
  have spelled : ObjectPath.parse "a" = .ok ⟨"a"⟩ := rfl
  have held : Remote.reliable.objects.find? ⟨"a"⟩ = some [1, 2, 3] := rfl
  have remembers : Remote.reliable.Remembers ⟨"a"⟩ := by
    intro size data remembered
    contradiction
  have ordered : BufferSizes.initial ⟨2, 4⟩ ≤ BufferSizes.max ⟨2, 4⟩ := by decide
  have allocatable : BufferSizes.max ⟨2, 4⟩ < Window.allocationBound := by decide
  have permitted : ∀ operation ∈ [.write [7, 8, 9, 10, 11], .seek (.current (-4)), .read [0, 0],
      .seek (.ending (-9))], Operation.Permitted .readWrite operation := by decide
  have inRange : PlainFile.Within [.write [7, 8, 9, 10, 11], .seek (.current (-4)), .read [0, 0],
      .seek (.ending (-9))] ⟨[1, 2, 3], 0⟩ := by
    simp only [PlainFile.Within]
    decide
  exact run_eq_plainFile rfl rfl spelled (.inl held) remembers ordered allocatable (by decide)
    permitted inRange

end CachedStream

end RemoteStreams
