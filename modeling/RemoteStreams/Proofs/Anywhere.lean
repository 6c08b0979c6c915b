import RemoteStreams.Proofs.StreamLasting

/-! # Wherever streams are

A stream may be sought to any machine word and used there. Operations at the far end of the machine
words may be abandoned, but they too leave the stream coherent with its object
(`RemoteStreams.CachedStream.perform_followed`). So does every state that a stream comes to from its
opening on, wherever it is used and whatever honest faults are put in store on the way
(`RemoteStreams.CachedStream.Visited.tracks`).
-/

namespace RemoteStreams

namespace Attached

/-- The same stream, with other faults in store for its remote side. -/
def armed (attached : Attached) (plan : FaultPlan) : Attached :=
  ⟨attached.stream, { attached.remote with faults := plan }⟩

/-- The stream tracks its object, wherever that is by now. -/
def Followed (start : Attached) (first : Descriptor) (attached : Attached) : Prop :=
  ∃ moved, start.Tracks first attached moved

variable {start attached after : Attached} {first descriptor moved : Descriptor}

/-- A stream tracks its object whatever fails next, as long as that is honest. -/
theorem Tracks.armed (tracks : start.Tracks first attached descriptor) {plan : FaultPlan}
    (honest : plan.Honest) : start.Tracks first (attached.armed plan) descriptor :=
  { tracks with coherent := tracks.coherent.armed honest }

/-- A step that leads a coherent stream to a coherent one follows the object. -/
theorem Followed.on (followed : start.Followed first attached)
    (steps : ∀ descriptor, attached.Coherent descriptor →
      ∃ moved, attached.Tracks descriptor after moved) : start.Followed first after := by
  obtain ⟨descriptor, tracks⟩ := followed
  obtain ⟨moved, later⟩ := steps descriptor tracks.coherent
  exact ⟨moved, tracks.trans later⟩

/-- So does a step that advances the stream. -/
theorem Followed.later (followed : start.Followed first attached)
    (steps : ∀ descriptor, attached.Coherent descriptor →
      ∃ moved, attached.Advances descriptor after moved) : start.Followed first after :=
  followed.on fun descriptor coherent =>
    (steps descriptor coherent).imp fun _ advances => advances.tracks

end Attached

namespace CachedStream

open Attached

variable {start attached : Attached} {first descriptor : Descriptor}

section Steps

open Action.Maintains

variable {ε α : Type}

/-- What goes on from the current stream may rely on which object it is on. -/
theorem current_bind_followed {next : CachedStream → Action Attached ε α}
    (goesOn : ∀ stream, stream.object = start.stream.object →
      Action.Maintains (Followed start first) (next stream)) :
    Action.Maintains (Followed start first) (current >>= next) := fun attached followed =>
  have ⟨_, tracks⟩ := followed
  goesOn attached.stream tracks.object attached followed

/-- Events do not matter to where the object is. -/
theorem note_followed (event : Event) :
    Action.Maintains (Followed start first) (note event : Action Attached ε Unit) :=
  fun _ followed => followed.later fun _ coherent =>
    ⟨_, (coherent.keeps_remote (coherent.serves.noting event)).advances⟩

/-- Neither does asking for its position. -/
theorem remotePosition_followed :
    Action.Maintains (Followed start first) remotePosition := fun attached followed =>
  followed.later fun descriptor coherent => by
    rcases Link.position_ends coherent.serves with
      ⟨remote, answered, stays⟩ | ⟨cause, remote, failed, stays, -⟩
    · have ended : remotePosition attached =
          (.ok descriptor.position, ⟨attached.stream, remote⟩) := by
        simp [remotePosition, Action.bind_apply, ask_apply, answered]
      rw [ended]
      exact ⟨descriptor, (coherent.keeps_remote stays).advances⟩
    · have ended : remotePosition attached =
          (.error (.remote cause), ⟨attached.stream, remote⟩) := by
        simp [remotePosition, Action.bind_apply, ask_apply, failed]
      rw [ended]
      exact ⟨descriptor, (coherent.keeps_remote stays).advances⟩

/-- What comes after a flush may count on a clean window. -/
theorem flush_bind_followed {next : Unit → StreamAction α}
    (goesOn : ∀ attached, Followed start first attached → attached.stream.dirty = false →
      Followed start first (next () attached).2) :
    Action.Maintains (Followed start first) (flush >>= next) := by
  intro attached followed
  obtain ⟨descriptor, tracks⟩ := followed
  rw [Action.bind_apply]
  rcases flush_inPlace tracks.coherent with ⟨remote, moved, ended, kept, -⟩ |
    ⟨cause, synced, remote, moved, ended, kept, -⟩ | ⟨breach, remote, moved, ended, kept, -⟩
  · rw [ended]
    exact goesOn _ ⟨moved, tracks.trans kept.advances.tracks⟩ rfl
  · rw [ended]
    exact ⟨moved, tracks.trans kept.advances.tracks⟩
  · rw [ended]
    exact ⟨moved, tracks.trans kept⟩

/-- A flush that fails half way, or that is given up, leaves the stream coherent with its object. -/
theorem flush_followed : Action.Maintains (Followed start first) flush := by
  have alone : Action.Maintains (Followed start first) (flush >>= Pure.pure) :=
    flush_bind_followed fun _ followed _ => followed
  rwa [bind_pure] at alone

/-- Bytes that are taken from the window leave the object alone. -/
theorem take_followed (count : Nat) :
    Action.Maintains (Followed start first)
      (onWindow (Window.take count) : Action Attached ε Bytes) := fun attached followed =>
  followed.later fun descriptor coherent => by
    have extent : (attached.stream.window.consumed
        (min attached.stream.window.unread count)).extent = attached.stream.window.extent := by
      simp only [Window.consumed, Window.extent]
      omega
    rw [onWindow_apply, Window.take_apply coherent.bounded]
    exact ⟨descriptor, (coherent.moveCursor (attached.stream.window.consumed
      (min attached.stream.window.unread count)) rfl extent rfl).1⟩

/-- So does a window that grows, or for which there is no memory. -/
theorem grow_followed (capacity : Nat) :
    Action.Maintains (Followed start first) (grow capacity) :=
  fun attached followed => followed.later fun descriptor coherent => by
    by_cases allowed : capacity ≤ attached.stream.window.limit
    · rcases coherent.grow_cases allowed with ⟨grew, kept⟩ | ⟨failed, kept, -⟩
      · rw [grew]
        exact ⟨descriptor, kept.advances⟩
      · rw [failed]
        exact ⟨descriptor, kept.advances⟩
    · have asked := coherent.keeps_remote coherent.serves.requesting
      have refused : Window.grow capacity (attached.remote.affords capacity)
          attached.stream.window = (.broken (.growthAboveLimit capacity
            attached.stream.window.limit), attached.stream.window) := by
        simp [Window.grow, Action.bind_apply, Action.ensure, allowed]
      rw [grow_apply, onWindow_apply, refused]
      exact ⟨descriptor, asked.advances⟩

/-- A window that is dirty or not used up is not filled again. -/
theorem requireSettled_refuses {ε : Type}
    (busy : ¬(attached.stream.dirty = false ∧ attached.stream.window.unread = 0)) :
    (requireSettled : Action Attached ε Unit) attached = (.broken .windowInUse, attached) := by
  simp only [requireSettled, Action.bind_apply, current_apply, Action.ensure, if_neg busy]
  rfl

/-- When the window is filled, it follows the object to where the read left it. -/
theorem fill_followed : Action.Maintains (Followed start first) fill := fun attached followed =>
  followed.later fun descriptor coherent => by
    by_cases settled : attached.stream.dirty = false ∧ attached.stream.window.unread = 0
    · rcases fill_anywhere coherent settled.1 settled.2 with
        ⟨bytes, remote, moved, ended, kept, -⟩ | ⟨cause, after, ended, kept, -⟩ |
          ⟨breach, after, ended, kept, -⟩
      · rw [ended]
        exact ⟨moved, kept.advances⟩
      · rw [ended]
        exact ⟨descriptor, kept.advances⟩
      · rw [ended]
        exact ⟨descriptor, kept.advances⟩
    · rw [fill, Action.bind_apply, requireSettled_refuses settled]
      exact ⟨descriptor, .refl coherent⟩

/-- A read around the window leaves it empty, and anchored where the object is afterwards. -/
theorem readDirect_followed (buffer : Bytes) :
    Action.Maintains (Followed start first) (readDirect buffer) := fun attached followed =>
  followed.later fun descriptor coherent => by
    by_cases settled : attached.stream.dirty = false ∧ attached.stream.window.unread = 0
    · rcases readDirect_anywhere coherent settled.1 settled.2 buffer with
        (⟨bytes, after, moved, ended, -, delivers, -⟩ | ⟨cause, after, moved, ended, kept, -⟩) |
          ⟨breach, after, ended, kept, -⟩
      · rw [ended]
        exact ⟨moved, delivers.advances⟩
      · rw [ended]
        exact ⟨moved, kept.advances⟩
      · rw [ended]
        exact ⟨descriptor, kept.advances⟩
    · have noted := coherent.keeps_remote
        (coherent.serves.noting (.readBypasses attached.stream.path buffer.length))
      have refused : (requireSettled : StreamAction Unit) ⟨attached.stream, attached.remote.noting
          (.readBypasses attached.stream.path buffer.length)⟩ = (.broken .windowInUse, _) :=
        requireSettled_refuses settled
      rw [readDirect, Action.bind_apply, current_apply]
      simp only [Action.bind_apply, note_apply, refused]
      exact ⟨descriptor, noted.advances⟩

/-- Both ways to get bytes follow the object. -/
theorem fetch_followed (buffer : Bytes) :
    Action.Maintains (Followed start first) (fetch buffer) := by
  refine current_bind_followed fun stream _ => ite (readDirect_followed buffer) ?_
  refine bind (grow_followed _) fun _ => bind fill_followed fun _ => ?_
  exact bind (take_followed _) fun _ => pure _

/-- It does not matter whether the failure of the second part of a read is reported. -/
theorem fetchRest_followed (cached : Nat) (buffer : Bytes) :
    Action.Maintains (Followed start first) (fetchRest cached buffer) := by
  refine bind (attempt (fetch_followed buffer)) fun answer => ?_
  split
  · exact pure _
  · exact ite (fail _) (current_bind_followed fun _ _ => bind (note_followed _) fun _ => pure _)

/-- So a read follows its object, whatever part of it fails. -/
theorem read_followed (buffer : Bytes) :
    Action.Maintains (Followed start first) (read buffer) := by
  refine ite (pure _) (bind flush_followed fun _ => bind (take_followed _) fun cached => ?_)
  refine ite (pure _) (bind (fetchRest_followed _ _) fun fetched => ?_)
  refine current_bind_followed fun stream _ => bind (note_followed _) fun _ => ?_
  exact bind (ite (pure _) (abandon _)) fun _ => pure _

/-- A shift of the cursor that would leave the window is not made. -/
theorem shift_followed (delta : Int) :
    Action.Maintains (Followed start first)
      (onWindow (Window.shift delta) : StreamAction Unit) := fun attached followed =>
  followed.later fun descriptor coherent => by
    by_cases inside : attached.stream.window.canShift delta = true
    · obtain ⟨window, shifted, -, position, -, repositions⟩ := shift_cases coherent inside
      rw [shifted]
      exact ⟨descriptor, repositions.advances⟩
    · have refused : (Window.shift delta : Action Window StreamError Unit)
          attached.stream.window = (.broken (.shiftOutside delta attached.stream.window.cursor
            attached.stream.window.unread), attached.stream.window) := by
        simp [Window.shift, Action.bind_apply, Action.ensure, inside]
      rw [onWindow_apply, refused]
      exact ⟨descriptor, .refl coherent⟩

/-- A seek of the object leaves the window empty, and anchored where the object went. -/
theorem seekObject_followed (target : SeekTarget) :
    Action.Maintains (Followed start first) (seekObject target) := by
  refine bind (maintains_resolve target) fun goal => flush_bind_followed ?_
  intro attached followed clean
  apply followed.later
  intro descriptor coherent
  rw [Action.bind_apply, current_apply]
  rcases Link.seekObject_cases coherent.serves goal with
    ⟨position, remote, answered, -, moves⟩ | ⟨cause, remote, failed, moves, -⟩
  · have noted := moves.trans (moves.serves.noting (.sought attached.stream.path target position))
    simp only [Action.bind_apply, ask_apply, answered, Outcome.mapError_ok, anchor_apply,
      note_apply, Action.pure_apply]
    exact ⟨_, coherent.anchor clean noted rfl⟩
  · simp only [Action.bind_apply, ask_apply, failed, Outcome.mapError_error]
    exact ⟨descriptor, (coherent.keeps_remote moves).advances⟩

/-- A seek within the window leaves the object where it is, and any other moves both. -/
theorem seek_followed (target : SeekTarget) :
    Action.Maintains (Followed start first) (seek target) := by
  refine bind (maintains_localShift target) fun shift => ?_
  split
  · exact bind (shift_followed _) fun _ => maintains_tell
  · exact seekObject_followed target

/-- Data that goes around an empty window is followed, even if it does not find its place. -/
theorem writePastWindow_around {flushed : Attached} {stream : CachedStream} {base : Nat}
    {remote : Remote} {rest : Bytes} (wrote : flush attached = (.ok (), flushed))
    (rebased : rebase flushed = (.ok (), ⟨stream.anchored base, remote⟩))
    (coherent : Coherent ⟨stream.anchored base, remote⟩ descriptor)
    (clean : stream.dirty = false) (large : stream.window.limit < rest.length) :
    ∃ moved, Tracks ⟨stream.anchored base, remote⟩ descriptor
      (writePastWindow rest attached).2 moved := by
  have position : descriptor.position = base := coherent.position
  have serves : remote.Serves (stream.anchored base).object descriptor := coherent.serves
  have noted := serves.noting (.writeBypasses (stream.anchored base).path rest.length)
  have limit : (stream.anchored base).window.limit < rest.length := large
  rcases Link.writeObject_ends noted.serves rest with
    ⟨count, staged, modified, written, answered, content, moves, room, place, -⟩ |
      ⟨cause, refused, failed, moves, -⟩ | ⟨breach, broken, moved, abandoned, spills, -⟩
  · have reach : count = 0 ∨ base + count < Word.bound :=
      place.imp_right fun holds => by
        rw [Descriptor.Holds, position] at holds
        exact Nat.lt_trans holds (by decide)
    have length : (rest.take count).length = count := List.length_take_of_le room
    have moved := Descriptor.position_extended descriptor staged (rest.take count)
    rw [position, length] at moved
    obtain ⟨outcome, asked, finished, stays, -⟩ :=
      anchorAfterDirect_ends stream moves.serves moved reach
    have advances : Advances ⟨stream.anchored base, remote⟩ descriptor
        ⟨stream.anchored (base + count), asked⟩ _ :=
      coherent.anchor clean ((noted.trans moves).trans stays) moved
    have ended : (writePastWindow rest attached).2 = ⟨stream.anchored (base + count), asked⟩ := by
      simp only [writePastWindow, Action.bind_apply, wrote, rebased, current_apply, limit,
        ↓reduceIte, note_apply, ask_apply, answered, Outcome.mapError_ok, finished]
      cases outcome <;> rfl
    rw [ended]
    exact ⟨_, advances.tracks⟩
  · have ended : (writePastWindow rest attached).2 = ⟨stream.anchored base, refused⟩ := by
      simp only [writePastWindow, Action.bind_apply, wrote, rebased, current_apply, limit,
        ↓reduceIte, note_apply, ask_apply, failed, Outcome.mapError_error]
    rw [ended]
    exact ⟨descriptor, (coherent.keeps_remote (noted.trans moves)).advances.tracks⟩
  · have ended : (writePastWindow rest attached).2 = ⟨stream.anchored base, broken⟩ := by
      simp only [writePastWindow, Action.bind_apply, wrote, rebased, current_apply, limit,
        ↓reduceIte, note_apply, ask_apply, abandoned, Outcome.mapError_broken]
    have drifts := spills.drifts
    rw [ended]
    exact ⟨moved, rfl, rfl, Nat.le_refl _, drifts.objects, drifts.drifted.mode,
      coherent.anchored clean drifts.serves (spills.position.trans position)⟩

/-- Data that does not fit into the window is followed whether it goes into the next one or around
it, and also if it is given up. -/
theorem writePastWindow_followed {rest : Bytes} (present : rest ≠ [])
    (small : rest.length < Word.signedBound) :
    Action.Maintains (Followed start first) (writePastWindow rest) := fun attached followed =>
  followed.on fun descriptor coherent => by
    rcases flush_inPlace coherent with ⟨remote, between, wrote, kept, -⟩ |
      ⟨cause, synced, remote, moved, ended, kept, -⟩ | ⟨breach, remote, moved, ended, kept, -⟩
    · rcases rebase_ends kept.advances.coherent rfl with
        ⟨asked, rebased, stays⟩ | ⟨cause, asked, failed, stays, -⟩
      · have anchored := kept.advances.coherent.anchor rfl stays rfl
        by_cases large : attached.stream.window.limit < rest.length
        · obtain ⟨moved, tracks⟩ := writePastWindow_around wrote rebased anchored.coherent rfl large
          exact ⟨moved, (kept.advances.trans anchored).tracks.trans tracks⟩
        · rcases writePastWindow_windowed wrote rebased anchored.coherent rfl present small large with
            ⟨count, after, moved, ended, -, accepts, -⟩ | ⟨cause, after, moved, ended, last, -⟩
          · rw [ended]
            exact ⟨moved, ((kept.advances.trans anchored).trans accepts.advances).tracks⟩
          · rw [ended]
            exact ⟨moved, ((kept.advances.trans anchored).trans last.advances).tracks⟩
      · simp only [writePastWindow, Action.bind_apply, wrote, failed]
        exact ⟨between, (kept.trans stays).advances.tracks⟩
    · simp only [writePastWindow, Action.bind_apply, ended]
      exact ⟨moved, kept.advances.tracks⟩
    · simp only [writePastWindow, Action.bind_apply, ended]
      exact ⟨moved, kept⟩

/-- It does not matter whether the failure of the second part of a write is reported. -/
theorem writeRest_followed (cached : Nat) {rest : Bytes} (present : rest ≠ [])
    (small : rest.length < Word.signedBound) :
    Action.Maintains (Followed start first) (writeRest cached rest) := by
  refine bind (attempt (writePastWindow_followed present small)) fun answer => ?_
  split
  · exact ite (pure _) (abandon _)
  · exact ite (fail _) (current_bind_followed fun _ _ => bind (note_followed _) fun _ => pure _)

/-- So a write follows its object, wherever it ends. -/
theorem write_followed {data : Bytes} (small : data.length < Word.signedBound) :
    Action.Maintains (Followed start first) (write data) := by
  intro attached followed
  by_cases empty : data = []
  · simpa [write, empty] using followed
  · obtain ⟨count, count_eq⟩ : ∃ count, count = min attached.stream.window.spare data.length :=
      ⟨_, rfl⟩
    obtain ⟨descriptor, tracks⟩ := followed
    have put := (accepts_fitting tracks.coherent count_eq).advances
    have later :
        Followed start first ⟨attached.stream.putting (data.take count), attached.remote⟩ :=
      ⟨descriptor, tracks.trans put.tracks⟩
    rw [write_put tracks.coherent empty count_eq]
    by_cases full : count = data.length
    · rw [if_pos full]
      exact later
    · rw [if_neg full]
      have rest : (data.drop count).length = data.length - count := List.length_drop
      have present : data.drop count ≠ [] := mt List.drop_eq_nil_iff.mp (by omega)
      exact writeRest_followed count present (by omega) _ later

end Steps

/-- Whatever a stream is asked for, and wherever, it stays coherent with its object. -/
theorem perform_followed {operation : Operation} (addressable : operation.Addressable) :
    Action.Maintains (Followed start first) (perform operation) := by
  have small (byte : UInt8) : [byte].length < Word.signedBound := by
    simp [Word.signedBound]
  cases operation with
  | read buffer => exact (read_followed buffer).map _
  | write data => exact (write_followed addressable).map _
  | putByte byte => exact ((write_followed (small byte)).bind fun _ => .pure _).map _
  | getByte => exact ((read_followed [0]).bind fun _ => .ite (.pure _) (.pure _)).map _
  | seek target => exact (seek_followed target).map _
  | tell => exact maintains_tell.map _
  | flush => exact flush_followed.map _
  | remotePosition => exact remotePosition_followed.map _

/-- The states that a stream comes to, wherever it is used and whatever honest faults are put in
store for its remote side on the way. -/
inductive Visited (start : Attached) : Attached → Prop
  | start : Visited start start
  | step {attached : Attached} {operation : Operation} (visited : Visited start attached)
      (addressable : operation.Addressable) : Visited start (perform operation attached).2
  | arm {attached : Attached} {plan : FaultPlan} (visited : Visited start attached)
      (honest : plan.Honest) : Visited start (attached.armed plan)

/-- A stream that was coherent at first stays so, and is on the same object. -/
theorem Visited.tracks (visited : Visited start attached) (coherent : start.Coherent first) :
    ∃ descriptor, start.Tracks first attached descriptor := by
  induction visited with
  | start => exact ⟨first, coherent.tracks⟩
  | step _ addressable ih => exact perform_followed addressable _ ih
  | arm _ honest ih =>
      obtain ⟨descriptor, tracks⟩ := ih
      exact ⟨descriptor, tracks.armed honest⟩

end CachedStream

end RemoteStreams
