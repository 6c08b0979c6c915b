import RemoteStreams.Proofs.WindowSteps
import RemoteStreams.Proofs.WriteBack

/-! # Reading

Whichever way a read takes, through the window, through a window that is filled
again, or around the window, it delivers bytes of the file from the position on
and moves the position behind them (`RemoteStreams.CachedStream.read_cases`). It
stops early only at the end of the file or because of a fault.
-/

namespace RemoteStreams

namespace Attached

/-- A step that delivers `bytes` from the position on to the user of the stream. -/
structure Delivers (before : Attached) (descriptor : Descriptor) (bytes : Bytes)
    (after : Attached) (moved : Descriptor) : Prop where
  advances : before.Advances descriptor after moved
  here : after.stream.here = before.stream.here + bytes.length
  content : after.content? = before.content?
  dirty : after.stream.dirty = true → before.stream.dirty = true
  faithful : ∀ content, before.content? = some content →
    bytes = content.slice before.stream.here (before.stream.here + bytes.length)

/-- Nothing stands in the way of reading up to `count` bytes: the stream is calm, and the window
that such a read may ask for can be had. -/
structure Ready (attached : Attached) (descriptor : Descriptor) (count : Nat) : Prop
    extends attached.Calm descriptor where
  allocatable : min attached.stream.window.limit (CachedStream.roomFor count) <
    Window.allocationBound

/-- The bytes that a read of up to `count` bytes delivers if nothing stands in its way. -/
def Whole (attached : Attached) (descriptor : Descriptor) (count : Nat) (bytes : Bytes) : Prop :=
  attached.Ready descriptor count → descriptor.mode.readable = true →
    ∀ content, attached.content? = some content →
      bytes.length = min count (content.length - attached.stream.here)

/-- A read of up to `count` bytes fails only for want of a content to read, of the permission to, or
of luck. -/
def Excused (attached : Attached) (descriptor : Descriptor) (count : Nat) : Prop :=
  attached.Ready descriptor count → attached.content? ≠ none → descriptor.mode.readable = false

/-- How a read into `buffer` ends: it puts bytes of the file at the front of the buffer, or
it fails and the user of the stream notices nothing else. -/
def ReadEnds (before : Attached) (descriptor : Descriptor) (buffer : Bytes)
    (ended : Outcome StreamError (Nat × Bytes) × Attached) : Prop :=
  (∃ bytes after moved, ended = (.ok (bytes.length, buffer.overlay 0 bytes), after) ∧
    bytes.length ≤ buffer.length ∧ before.Delivers descriptor bytes after moved ∧
    before.Whole descriptor buffer.length bytes) ∨
  ∃ cause after moved, ended = (.error cause, after) ∧
    before.Keeps descriptor after moved ∧ before.Excused descriptor buffer.length

variable {before middle after : Attached} {descriptor between moved : Descriptor} {count : Nat}

/-- A steady stream is ready for reads of any length. -/
theorem Steady.ready (steady : before.Steady descriptor) (count : Nat) :
    before.Ready descriptor count :=
  ⟨steady.calm, Nat.lt_of_le_of_lt (Nat.min_le_left _ _) steady.allocatable⟩

/-- What may be had for many bytes may be had for fewer. -/
theorem Ready.fewer {fewer : Nat} (ready : before.Ready descriptor count) (less : fewer ≤ count) :
    before.Ready descriptor fewer where
  toCalm := ready.toCalm
  allocatable := by
    have allocatable := ready.allocatable
    simp only [CachedStream.roomFor, Word.saturate] at *
    omega

theorem Keeps.ready (keeps : before.Keeps descriptor after moved)
    (ready : before.Ready descriptor count) : after.Ready moved count :=
  ⟨keeps.calm ready.toCalm, keeps.advances.limit ▸ ready.allocatable⟩

theorem Keeps.delivers (keeps : before.Keeps descriptor after moved) :
    before.Delivers descriptor [] after moved :=
  ⟨keeps.advances, keeps.here, keeps.content, keeps.dirty, fun content _ => by simp⟩

/-- Bytes that are delivered one after the other are delivered together. -/
theorem Delivers.trans {first second : Bytes}
    (earlier : before.Delivers descriptor first middle between)
    (later : middle.Delivers between second after moved) :
    before.Delivers descriptor (first ++ second) after moved where
  advances := earlier.advances.trans later.advances
  here := by
    rw [later.here, earlier.here, List.length_append]
    omega
  content := later.content.trans earlier.content
  dirty := fun dirty => earlier.dirty (later.dirty dirty)
  faithful := fun content shown => by
    have front := earlier.faithful content shown
    have back := later.faithful content (earlier.content.trans shown)
    rw [earlier.here] at back
    by_cases empty : first = []
    · subst empty
      simpa using back
    · have present := List.length_pos_iff.mpr empty
      have size := congrArg List.length front
      rw [Bytes.length_slice] at size
      have joined := Bytes.slice_append_slice content
        (Nat.le_add_right before.stream.here first.length)
        (Nat.le_add_right (before.stream.here + first.length) second.length) (by omega)
      rw [← front, ← back, Nat.add_assoc, ← List.length_append] at joined
      exact joined

/-- What is not noticed before or after a delivery is no part of it. -/
theorem Keeps.deliver {bytes : Bytes} (keeps : before.Keeps descriptor middle between)
    (delivers : middle.Delivers between bytes after moved) :
    before.Delivers descriptor bytes after moved :=
  keeps.delivers.trans delivers

/-- What the user does not notice may follow a delivery. -/
theorem Delivers.keep {bytes : Bytes} (delivers : before.Delivers descriptor bytes middle between)
    (keeps : middle.Keeps between after moved) : before.Delivers descriptor bytes after moved := by
  have joined := delivers.trans keeps.delivers
  rwa [List.append_nil] at joined

/-- A delivery of no bytes is not noticed. -/
theorem Delivers.keeps (delivers : before.Delivers descriptor [] after moved) :
    before.Keeps descriptor after moved :=
  ⟨delivers.advances, delivers.here, delivers.content, delivers.dirty⟩

/-- As many bytes are delivered as there are, and no more than there are. -/
theorem Delivers.length_le {bytes content : Bytes}
    (delivers : before.Delivers descriptor bytes after moved)
    (shown : before.content? = some content) :
    bytes.length ≤ content.length - before.stream.here := by
  have size := congrArg List.length (delivers.faithful content shown)
  rw [Bytes.length_slice] at size
  omega

/-- If there is an excuse for failing, there is one for delivering less. -/
theorem Excused.whole (excused : before.Excused descriptor count) (bytes : Bytes) :
    before.Whole descriptor count bytes := by
  intro ready readable content shown
  have refused := excused ready (by simp [shown])
  rw [refused] at readable
  contradiction

/-- An excuse after a step that was not noticed is one from before. -/
theorem Keeps.excused (keeps : before.Keeps descriptor middle between)
    (excused : middle.Excused between count) : before.Excused descriptor count := by
  intro ready present
  rw [← keeps.advances.moves.evolved.mode]
  exact excused (keeps.ready ready) (keeps.content ▸ present)

/-- What is all there is after a step that was not noticed was so before. -/
theorem Keeps.whole (keeps : before.Keeps descriptor middle between) {bytes : Bytes}
    (whole : middle.Whole between count bytes) : before.Whole descriptor count bytes := by
  intro ready readable content shown
  rw [← keeps.here]
  rw [← keeps.advances.moves.evolved.mode] at readable
  exact whole (keeps.ready ready) readable content (keeps.content.trans shown)

/-- A read may begin with steps that are not noticed. -/
theorem Keeps.readEnds (keeps : before.Keeps descriptor middle between) {buffer : Bytes}
    {ended : Outcome StreamError (Nat × Bytes) × Attached}
    (ends : middle.ReadEnds between buffer ended) : before.ReadEnds descriptor buffer ended := by
  rcases ends with ⟨bytes, after, moved, ended, room, delivers, whole⟩ |
    ⟨cause, after, moved, ended, kept, excused⟩
  · exact .inl ⟨bytes, after, moved, ended, room, keeps.deliver delivers, keeps.whole whole⟩
  · exact .inr ⟨cause, after, moved, ended, keeps.trans kept, keeps.excused excused⟩

/-- A stream stays ready when it has delivered bytes. -/
theorem Delivers.ready {bytes : Bytes} (delivers : before.Delivers descriptor bytes after moved)
    (ready : before.Ready descriptor count) : after.Ready moved count where
  toCalm := delivers.advances.calm ready.toCalm fun dirty => ready.writable (delivers.dirty dirty)
  allocatable := delivers.advances.limit ▸ ready.allocatable

/-- A stream stays steady when it has delivered bytes. -/
theorem Delivers.steady {bytes : Bytes} (delivers : before.Delivers descriptor bytes after moved)
    (steady : before.Steady descriptor) : after.Steady moved :=
  delivers.advances.steady steady fun dirty => steady.writable (delivers.dirty dirty)

end Attached

namespace CachedStream

open Attached

variable {attached : Attached} {descriptor : Descriptor}

/-- The stream after its window was filled with `bytes` from where it stands. -/
def refilled (stream : CachedStream) (bytes : Bytes) : CachedStream :=
  { stream with
    base := stream.here
    window := stream.window.loaded (stream.window.data.overlay 0 bytes) bytes.length
    synced := bytes.length }

/-- The check passes for a clean window that is used up. -/
theorem requireSettled_apply {ε : Type} (clean : attached.stream.dirty = false)
    (used : attached.stream.window.unread = 0) :
    (requireSettled : Action Attached ε Unit) attached = (.ok (), attached) := by
  simp [requireSettled, Action.bind_apply, Action.ensure, clean, used]

/-- A window that is filled again keeps its size. -/
theorem capacity_refilled (stream : CachedStream) {bytes : Bytes}
    (room : bytes.length ≤ stream.window.capacity) :
    (stream.refilled bytes).window.capacity = stream.window.capacity := by
  simp only [refilled, Window.loaded, Window.capacity, Bytes.length_overlay] at *
  omega

/-- It holds just what it was filled with. -/
theorem occupied_refilled (stream : CachedStream) (bytes : Bytes) :
    (stream.refilled bytes).window.occupied = bytes := by
  simp only [refilled, Window.loaded, Window.occupied, Window.extent, Bytes.overlay_zero]
  rw [Nat.zero_add, List.take_left]

/-- A window that was filled with what the object has is coherent with the object behind it. -/
theorem coherent_refilled (coherent : attached.Coherent descriptor)
    (clean : attached.stream.dirty = false) {remote : Remote} {moved : Descriptor} {bytes : Bytes}
    (serves : remote.Serves attached.stream.object moved)
    (position : moved.position = attached.stream.here + bytes.length)
    (room : bytes.length ≤ attached.stream.window.capacity)
    (shown : ∀ backing, moved.backing? remote.objects = some backing →
      bytes = backing.slice attached.stream.here (attached.stream.here + bytes.length)) :
    Coherent ⟨attached.stream.refilled bytes, remote⟩ moved := by
  have size := capacity_refilled attached.stream room
  have reach : (attached.stream.refilled bytes).window.extent = bytes.length := Nat.zero_add _
  exact {
    serves := serves
    position := position
    bounded := by
      apply Window.inBounds_iff.mpr
      rw [reach, size]
      exact room
    limited := by
      rw [size]
      exact coherent.limited
    allocated := by
      rw [size]
      exact coherent.allocated
    reached := Nat.le_of_eq reach.symm
    settled := fun _ => reach.symm
    pending := fun dirty => by simp [refilled, clean] at dirty
    mirrored := fun _ backing backed => by
      rw [occupied_refilled, reach]
      exact shown backing backed }

/-- A window that is filled again holds the bytes from the position on, as many as fit. That is
abandoned only if machine words cannot count what there is room for. -/
theorem fill_anywhere (coherent : attached.Coherent descriptor)
    (clean : attached.stream.dirty = false) (used : attached.stream.window.unread = 0) :
    (∃ bytes remote moved, fill attached = (.ok (), ⟨attached.stream.refilled bytes, remote⟩) ∧
      attached.Keeps descriptor ⟨attached.stream.refilled bytes, remote⟩ moved ∧
      (attached.remote.faults = ∅ → ∀ content, attached.content? = some content →
        bytes.length =
          min attached.stream.window.capacity (content.length - attached.stream.here))) ∨
    (∃ cause after, fill attached = (.error cause, after) ∧
      attached.Keeps descriptor after descriptor ∧
      (attached.remote.faults = ∅ → descriptor.position < Word.bound →
        attached.content? ≠ none → descriptor.mode.readable = false)) ∨
    ∃ breach after, fill attached = (.broken breach, after) ∧
      attached.Keeps descriptor after descriptor ∧
      ¬descriptor.Spans attached.stream.window.capacity := by
  have position := position_of_settled coherent clean used
  rcases Link.position_ends coherent.serves with
    ⟨asked, answered, stays⟩ | ⟨cause, asked, failed, stays, far⟩
  · have kept := keeps_anchored coherent clean position stays
    rcases Link.readObject_ends stays.serves attached.stream.window.data with
      ⟨bytes, remote, delivered, moves, room, -, faithful⟩ |
        ⟨cause, remote, failed, moves, excuse⟩ | ⟨breach, remote, abandoned, moves, outside⟩
    · have fits : bytes.length ≤ (attached.stream.window.data.overlay 0 bytes).length := by
        rw [Bytes.length_overlay]
        omega
      have after := coherent_refilled coherent clean moves.serves (by rw [position]) room
        (fun backing backed => by
          rw [moves.objects] at backed
          rw [← position]
          exact (faithful backing backed).1)
      refine .inl ⟨bytes, remote, _, ?_, ⟨⟨stays.trans moves, rfl, rfl, ?_, after⟩, rfl, ?_, id⟩,
        ?_⟩
      · simp [fill, Action.bind_apply, requireSettled_apply clean used, ask_apply, answered,
          position, delivered, refilled, onWindow_apply, Window.accept_apply fits, anchored,
          Window.cleared, CachedStream.withWindow, Window.loaded]
      · exact Nat.le_of_eq (capacity_refilled attached.stream room).symm
      · rw [after.content?_of_clean clean, coherent.content?_of_clean clean, moves.objects,
          stays.objects]
        rfl
      · intro quiet content present
        rw [coherent.content?_of_clean clean, ← stays.objects] at present
        rw [← position]
        exact (faithful content present).2 (stays.quiet quiet)
    · refine .inr (.inl ⟨.remote cause, ⟨attached.stream.anchored attached.stream.here, remote⟩, ?_,
        kept.trans (kept.advances.coherent.keeps_remote moves), ?_⟩)
      · simp [fill, Action.bind_apply, requireSettled_apply clean used, ask_apply, answered,
          position, failed, anchored]
      · intro quiet _ present
        rw [coherent.content?_of_clean clean, ← stays.objects] at present
        exact excuse (stays.quiet quiet) present
    · refine .inr (.inr ⟨breach, ⟨attached.stream.anchored attached.stream.here, remote⟩, ?_,
        kept.trans (kept.advances.coherent.keeps_remote moves), outside⟩)
      simp [fill, Action.bind_apply, requireSettled_apply clean used, ask_apply, answered,
        position, abandoned, anchored]
  · refine .inr (.inl ⟨.remote cause, ⟨attached.stream, asked⟩, ?_, coherent.keeps_remote stays,
      fun quiet word _ => (Nat.not_lt.mpr (far quiet) word).elim⟩)
    simp [fill, Action.bind_apply, requireSettled_apply clean used, ask_apply, failed]

/-- A window is filled from where the stream is, as far as there are bytes, or that fails and the
user does not notice. -/
theorem fill_cases (coherent : attached.Coherent descriptor)
    (clean : attached.stream.dirty = false) (used : attached.stream.window.unread = 0)
    (inReach : descriptor.InReach) :
    (∃ bytes remote moved, fill attached = (.ok (), ⟨attached.stream.refilled bytes, remote⟩) ∧
      attached.Keeps descriptor ⟨attached.stream.refilled bytes, remote⟩ moved ∧
      (attached.remote.faults = ∅ → ∀ content, attached.content? = some content →
        bytes.length =
          min attached.stream.window.capacity (content.length - attached.stream.here))) ∨
    ∃ cause after, fill attached = (.error cause, after) ∧
      attached.Keeps descriptor after descriptor ∧
      (attached.remote.faults = ∅ → attached.content? ≠ none →
        descriptor.mode.readable = false) := by
  have small : attached.stream.window.capacity < Word.signedBound :=
    Nat.lt_trans coherent.allocated (by decide)
  rcases fill_anywhere coherent clean used with
    filled | ⟨cause, after, failed, kept, excuse⟩ | ⟨breach, after, -, -, outside⟩
  · exact .inl filled
  · exact .inr ⟨cause, after, failed, kept, fun quiet => excuse quiet inReach.word⟩
  · exact (outside (inReach.spans small)).elim

/-- What a clean window has unread is delivered from it. -/
theorem take_apply (coherent : attached.Coherent descriptor)
    (clean : attached.stream.dirty = false) (count : Nat) :
    ∃ bytes, onWindow (ε := StreamError) (Window.take count) attached =
        (.ok bytes, ⟨attached.stream.withWindow
          (attached.stream.window.consumed bytes.length), attached.remote⟩) ∧
      bytes.length = min attached.stream.window.unread count ∧
      attached.Delivers descriptor bytes ⟨attached.stream.withWindow
        (attached.stream.window.consumed bytes.length), attached.remote⟩ descriptor := by
  have bounded := coherent.bounded
  have length : (attached.stream.window.data.slice attached.stream.window.cursor
      (attached.stream.window.cursor + min attached.stream.window.unread count)).length =
        min attached.stream.window.unread count := by
    rw [Bytes.length_slice]
    simp only [Window.InBounds, Window.capacity] at bounded
    omega
  have extent : (attached.stream.window.consumed
      (min attached.stream.window.unread count)).extent = attached.stream.window.extent := by
    simp only [Window.consumed, Window.extent]
    omega
  obtain ⟨advances, content⟩ := coherent.moveCursor
    (attached.stream.window.consumed (min attached.stream.window.unread count)) rfl extent rfl
  refine ⟨_, ?_, length, ?_⟩
  · rw [onWindow_apply, Window.take_apply bounded, length]
  · rw [length]
    refine ⟨advances, ?_, content, id, fun content shown => ?_⟩
    · rw [length]
      exact (Nat.add_assoc _ _ _).symm
    · rw [coherent.content?_of_clean clean] at shown
      have inside : attached.stream.window.cursor + min attached.stream.window.unread count ≤
          attached.stream.window.extent := by
        simp only [Window.extent]
        omega
      have window := coherent.mirrored clean content shown
      rw [length, here, ← Bytes.slice_take _ _ inside, Nat.add_assoc,
        ← Bytes.slice_slice content (Nat.add_le_add_left inside attached.stream.base), ← window]
      rfl

/-- A read around the window leaves the window empty behind what was read. It is abandoned only if
machine words cannot count where it begins or ends. -/
theorem readDirect_anywhere (coherent : attached.Coherent descriptor)
    (clean : attached.stream.dirty = false) (used : attached.stream.window.unread = 0)
    (buffer : Bytes) :
    attached.ReadEnds descriptor buffer (readDirect buffer attached) ∨
      ∃ breach after, readDirect buffer attached = (.broken breach, after) ∧
        attached.Keeps descriptor after descriptor ∧
        (descriptor.position < Word.bound → ¬descriptor.Spans buffer.length) := by
  have position := position_of_settled coherent clean used
  have noted := coherent.serves.noting (.readBypasses attached.stream.path buffer.length)
  have settled : (requireSettled : StreamAction Unit) ⟨attached.stream, attached.remote.noting
      (.readBypasses attached.stream.path buffer.length)⟩ = _ := requireSettled_apply clean used
  by_cases inRange : attached.stream.here < Word.bound
  case neg =>
    have lost : (tell : StreamAction Nat) ⟨attached.stream, attached.remote.noting
        (.readBypasses attached.stream.path buffer.length)⟩ = (.broken .additionOverflow, _) :=
      tell_far inRange
    refine .inr ⟨.additionOverflow, _, ?_, coherent.keeps_remote noted, fun word => ?_⟩
    · simp only [readDirect, Action.bind_apply, current_apply, note_apply, settled, lost]
    · exact (inRange (position ▸ word)).elim
  have told : (tell : StreamAction Nat) ⟨attached.stream, attached.remote.noting
      (.readBypasses attached.stream.path buffer.length)⟩ = (.ok attached.stream.here, _) :=
    tell_apply inRange
  have kept := keeps_anchored coherent clean position noted
  rcases Link.readObject_ends noted.serves buffer with
    ⟨bytes, remote, delivered, moves, room, word, faithful⟩ |
      ⟨cause, remote, failed, moves, excuse⟩ | ⟨breach, remote, abandoned, moves, outside⟩
  · have fits : attached.stream.here + bytes.length < Word.bound := by
      rcases word with rfl | counted
      · exact inRange
      · exact position ▸ counted
    obtain ⟨asked, finished, stays⟩ := anchorAfterDirect_apply attached.stream
      moves.serves (congrArg (· + bytes.length) position) fits
    have advances := coherent.anchor clean ((noted.trans moves).trans stays)
      (congrArg (· + bytes.length) position)
    refine .inl (.inl ⟨bytes, ⟨attached.stream.anchored (attached.stream.here + bytes.length), asked⟩,
      _, ?_, room, ⟨advances, ?_, ?_, id, ?_⟩, ?_⟩)
    · simp only [readDirect, Action.bind_apply, current_apply, note_apply, settled, told,
        anchor_apply, ask_apply, Outcome.mapError_ok, delivered, finished, Action.pure_apply]
    · simp [here, anchored, Window.cleared]
    · rw [advances.coherent.content?_of_clean clean, coherent.content?_of_clean clean,
        advances.moves.objects]
      rfl
    · intro content shown
      rw [coherent.content?_of_clean clean] at shown
      rw [← position]
      exact (faithful content shown).1
    · intro ready _ content shown
      rw [coherent.content?_of_clean clean] at shown
      rw [← position]
      exact (faithful content shown).2 ready.quiet
  · refine .inl (.inr ⟨.remote cause, ⟨attached.stream.anchored attached.stream.here, remote⟩, _, ?_,
      kept.trans (kept.advances.coherent.keeps_remote moves), ?_⟩)
    · simp only [readDirect, Action.bind_apply, current_apply, note_apply, settled, told,
        anchor_apply, ask_apply, Outcome.mapError_error, failed]
    · intro ready present
      rw [coherent.content?_of_clean clean] at present
      exact excuse ready.quiet present
  · refine .inr ⟨breach, ⟨attached.stream.anchored attached.stream.here, remote⟩, ?_,
      kept.trans (kept.advances.coherent.keeps_remote moves), fun _ => outside⟩
    simp only [readDirect, Action.bind_apply, current_apply, note_apply, settled, told,
      anchor_apply, ask_apply, Outcome.mapError_broken, abandoned]

/-- However the missing bytes of a read are fetched, through the window or around it, they are those
that follow. -/
theorem fetch_ends (coherent : attached.Coherent descriptor)
    (clean : attached.stream.dirty = false) (used : attached.stream.window.unread = 0)
    (inReach : descriptor.InReach) {buffer : Bytes} (small : buffer.length < Word.signedBound) :
    attached.ReadEnds descriptor buffer (fetch buffer attached) := by
  by_cases large : attached.stream.window.limit < roomFor buffer.length
  · have direct : fetch buffer attached = readDirect buffer attached := by
      simp only [fetch, Action.bind_apply, current_apply, large, ↓reduceIte]
    rw [direct]
    rcases readDirect_anywhere coherent clean used buffer with ends | ⟨breach, after, -, -, outside⟩
    · exact ends
    · exact (outside inReach.word (inReach.spans small)).elim
  · rcases coherent.grow_cases (Nat.not_lt.mp large) with
      ⟨grew, grown⟩ | ⟨failed, refused, scarce⟩
    · have size := attached.stream.window.capacity_grown (roomFor buffer.length)
      have room := le_roomFor small
      rcases fill_cases grown.advances.coherent clean
          ((Window.unread_grown _ _).trans used) inReach with
        ⟨bytes, remote, moved, filled, kept, whole⟩ | ⟨cause, after, failed, kept, excuse⟩
      · obtain ⟨taken, took, length, delivers⟩ :=
          take_apply kept.advances.coherent clean buffer.length
        have known := grown.trans kept
        refine .inl ⟨taken, _, _, ?_, ?_, known.deliver delivers, ?_⟩
        · simp only [fetch, Action.bind_apply, current_apply, large, ↓reduceIte, grew, filled,
            took, Action.pure_apply]
        · rw [length]
          exact Nat.min_le_right _ _
        · intro ready _ content shown
          have all := whole (grown.advances.moves.quiet ready.quiet) content
            (grown.content.trans shown)
          rw [grown.here] at all
          have unread : (refilled (attached.stream.withWindow
              (attached.stream.window.grown (roomFor buffer.length))) bytes).window.unread =
                bytes.length := rfl
          rw [length, unread, all]
          simp only [CachedStream.withWindow]
          omega
      · refine .inr ⟨cause, after, _, ?_, grown.trans kept, fun ready present =>
          excuse (grown.advances.moves.quiet ready.quiet) (grown.content ▸ present)⟩
        simp only [fetch, Action.bind_apply, current_apply, large, ↓reduceIte, grew, failed]
    · refine .inr ⟨.allocation (roomFor buffer.length), _, descriptor, ?_, refused,
        fun ready _ => ?_⟩
      · simp only [fetch, Action.bind_apply, current_apply, large, ↓reduceIte, failed]
      · have allocatable := ready.allocatable
        have beyond := scarce ready.quiet
        omega

/-- Once bytes were delivered, the failure to fetch more is not an error. -/
theorem fetchRest_ends (coherent : attached.Coherent descriptor)
    (clean : attached.stream.dirty = false) (used : attached.stream.window.unread = 0)
    (inReach : descriptor.InReach) (buffer : Bytes)
    (small : buffer.length < Word.signedBound) (cached : Nat) :
    (∃ bytes after moved, fetchRest cached buffer attached =
        (.ok (bytes.length, buffer.overlay 0 bytes), after) ∧
      bytes.length ≤ buffer.length ∧ attached.Delivers descriptor bytes after moved ∧
      attached.Whole descriptor buffer.length bytes) ∨
    ∃ cause after moved, fetchRest cached buffer attached = (.error cause, after) ∧ cached = 0 ∧
      attached.Keeps descriptor after moved ∧ attached.Excused descriptor buffer.length := by
  rcases fetch_ends coherent clean used inReach small with
    ⟨bytes, after, moved, fetched, room, delivers, whole⟩ |
      ⟨cause, after, moved, failed, keeps, excused⟩
  · refine .inl ⟨bytes, after, moved, ?_, room, delivers, whole⟩
    simp only [fetchRest, Action.bind_apply, Action.attempt, fetched, Action.pure_apply]
  · by_cases start : cached = 0
    · refine .inr ⟨cause, after, moved, ?_, start, keeps, excused⟩
      simp only [fetchRest, Action.bind_apply, Action.attempt, failed, start, ↓reduceIte,
        Action.fail_apply]
    · have noted := keeps.advances.coherent.keeps_remote
        (keeps.advances.coherent.serves.noting (.fetchFailed after.stream.path cached cause))
      refine .inl ⟨[], _, moved, ?_, Nat.zero_le _, (keeps.trans noted).delivers,
        excused.whole _⟩
      simp only [fetchRest, Action.bind_apply, Action.attempt, failed, start, ↓reduceIte,
        current_apply, note_apply, Action.pure_apply]
      simp

/-- Once the window is written back, a read takes what it has unread and fetches the rest. -/
theorem read_of_flushed {middle : Attached} {buffer : Bytes}
    (flushed : flush attached = (.ok (), middle)) (coherent : middle.Coherent descriptor)
    (clean : middle.stream.dirty = false) (inReach : descriptor.InReach) (present : buffer ≠ [])
    (small : buffer.length < Word.signedBound) :
    middle.ReadEnds descriptor buffer (read buffer attached) := by
  obtain ⟨cached, took, length, first⟩ := take_apply coherent clean buffer.length
  by_cases full : cached.length = buffer.length
  · refine .inl ⟨cached, _, descriptor, ?_, Nat.le_of_eq full, first, ?_⟩
    · have whole : buffer.overlay 0 cached = cached := by
        rw [Bytes.overlay_zero, full, List.drop_length, List.append_nil]
      simp only [read, present, ↓reduceIte, Action.bind_apply, flushed, took, full, whole,
        Action.pure_apply]
    · intro _ _ content shown
      have reach := first.length_le shown
      omega
  · have used : (middle.stream.window.consumed cached.length).unread = 0 := by
      simp only [Window.consumed]
      omega
    have rest : (buffer.drop cached.length).length = buffer.length - cached.length :=
      List.length_drop
    have twice := Word.signedBound_add_signedBound
    rcases fetchRest_ends first.advances.coherent clean used inReach
        (buffer.drop cached.length) (by omega) cached.length with
      ⟨bytes, after, moved, fetched, room, second, whole⟩ |
        ⟨cause, after, moved, failed, start, kept, excused⟩
    · have noted := second.advances.coherent.keeps_remote
        (second.advances.coherent.serves.noting
          (.readServed after.stream.path cached.length bytes.length))
      have joined := (first.trans second).keep noted
      refine .inl ⟨cached ++ bytes, _, moved, ?_, ?_, joined, ?_⟩
      · have fits : cached.length + bytes.length < Word.bound := by omega
        simp only [read, present, ↓reduceIte, Action.bind_apply, flushed, took, full, fetched,
          current_apply, note_apply, Word.add_apply fits, Action.pure_apply, List.length_append,
          Bytes.overlay_zero_append]
      · rw [List.length_append]
        omega
      · intro ready readable content shown
        have fewer : (buffer.drop cached.length).length ≤ buffer.length := by omega
        have all := whole ((first.ready ready).fewer fewer) readable content (first.content.trans shown)
        have limit := first.length_le shown
        rw [first.here] at all
        rw [List.length_append]
        omega
    · obtain rfl : cached = [] := List.length_eq_zero_iff.mp start
      refine .inr ⟨cause, after, moved, ?_, first.keeps.trans kept, first.keeps.excused excused⟩
      simp only [read, present, ↓reduceIte, Action.bind_apply, flushed, took, full, failed]

/-- A read delivers the bytes of the file from the position on, or it leaves the file as it was,
wherever the stream is. -/
theorem read_inReach (coherent : attached.Coherent descriptor)
    (inReach : attached.InReach descriptor) {buffer : Bytes}
    (small : buffer.length < Word.signedBound) :
    attached.ReadEnds descriptor buffer (read buffer attached) := by
  by_cases empty : buffer = []
  · refine .inl ⟨[], attached, descriptor, ?_, Nat.zero_le _, (Keeps.refl coherent).delivers, ?_⟩
    · simp [read, empty]
    · intro _ _ content _
      simp [empty]
  · rcases flush_inReach coherent inReach with
      ⟨remote, between, flushed, kept, reached⟩ |
        ⟨cause, synced, remote, moved, failed, kept, dirty, excuse⟩
    · have ends := read_of_flushed flushed kept.advances.coherent rfl reached empty small
      exact kept.readEnds ends
    · refine .inr ⟨cause, _, moved, ?_, kept, fun ready _ => ?_⟩
      · simp only [read, empty, ↓reduceIte, Action.bind_apply, failed]
      · exact (ready.no_refusal dirty excuse).elim

/-- A read delivers the bytes of the file from the position on, or it leaves the file as it was. -/
theorem read_cases (coherent : attached.Coherent descriptor)
    (near : attached.stream.here < PlainFile.positionBound) {buffer : Bytes}
    (small : buffer.length < Word.signedBound) :
    attached.ReadEnds descriptor buffer (read buffer attached) :=
  read_inReach coherent (inReach_of_lt (coherent.reach_lt near)) small

end CachedStream

end RemoteStreams
