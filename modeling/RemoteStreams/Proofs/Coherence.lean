import RemoteStreams.CachedStream.Transfer
import RemoteStreams.Proofs.OpenObject
import RemoteStreams.Proofs.PlainFile

/-! # Coherent streams

A cached stream is coherent with the descriptor of its object if the object
stands `synced` bytes past the start of the window, and a clean window shows what
the object has there (`RemoteStreams.Attached.Coherent`). The file that its user
sees is the content of the object with a dirty window laid over it, at the
position of the cursor (`RemoteStreams.Attached.file?`).

A step of the stream advances it, if it leaves it coherent with the descriptor
moved on (`RemoteStreams.Attached.Advances`), and keeps it, if moreover its user
sees the same file (`RemoteStreams.Attached.Keeps`).
-/

namespace RemoteStreams

namespace CachedStream

/-- The position in the stream. -/
def here (stream : CachedStream) : Nat := stream.base + stream.window.cursor

/-- The content of the object as the user of the stream sees it. -/
def overlaid (stream : CachedStream) (backing : Bytes) : Bytes :=
  if stream.dirty then backing.overlay stream.base stream.window.occupied else backing

theorem overlaid_of_dirty {stream : CachedStream} (dirty : stream.dirty = true) (backing : Bytes) :
    stream.overlaid backing = backing.overlay stream.base stream.window.occupied := by
  simp only [overlaid, dirty, ↓reduceIte]

theorem overlaid_of_clean {stream : CachedStream} (clean : stream.dirty = false) (backing : Bytes) :
    stream.overlaid backing = backing := by
  simp only [overlaid, clean, Bool.false_eq_true, ↓reduceIte]

/-- The stream with another window. -/
def withWindow (stream : CachedStream) (window : Window) : CachedStream := { stream with window }

/-- The position of a stream is in range if the end of its window is. -/
theorem here_lt {stream : CachedStream} {bound : Nat}
    (reach : stream.base + stream.window.extent < bound) : stream.here < bound :=
  Nat.lt_of_le_of_lt (Nat.add_le_add_left stream.window.cursor_le_extent _) reach

/-- The stream with an empty window that begins at `base`. -/
def anchored (stream : CachedStream) (base : Nat) : CachedStream :=
  { stream with window := stream.window.cleared, base, synced := 0 }

end CachedStream

/-- The bytes that an open object has, as long as it has them. -/
def Remote.backing? (remote : Remote) (object : ObjectId) : Option Bytes :=
  (remote.session.descriptors.find? object).bind (fun descriptor =>
    descriptor.backing? remote.objects)

namespace Attached

/-- What the user of the stream takes for the content of its object. -/
def content? (attached : Attached) : Option Bytes :=
  (attached.remote.backing? attached.stream.object).map attached.stream.overlaid

/-- The file that the user of the stream sees. -/
def file? (attached : Attached) : Option PlainFile :=
  attached.content?.map fun content => ⟨content, attached.stream.here⟩

/-- The stream knows where its object is and what its window holds of it. -/
structure Coherent (attached : Attached) (descriptor : Descriptor) : Prop where
  serves : attached.remote.Serves attached.stream.object descriptor
  position : descriptor.position = attached.stream.base + attached.stream.synced
  bounded : attached.stream.window.InBounds
  limited : attached.stream.window.capacity ≤ attached.stream.window.limit
  allocated : attached.stream.window.capacity < Window.allocationBound
  reached : attached.stream.synced ≤ attached.stream.window.extent
  settled : attached.stream.dirty = false →
    attached.stream.synced = attached.stream.window.extent
  pending : attached.stream.dirty = true → 0 < attached.stream.window.extent
  mirrored : attached.stream.dirty = false →
    ∀ backing, descriptor.backing? attached.remote.objects = some backing →
      attached.stream.window.occupied = backing.slice attached.stream.base
        (attached.stream.base + attached.stream.window.extent)

/-- A step that leaves the stream coherent. -/
structure Advances (before : Attached) (descriptor : Descriptor) (after : Attached)
    (moved : Descriptor) : Prop where
  moves : Remote.Moves before.stream.object before.remote descriptor after.remote moved
  object : after.stream.object = before.stream.object
  limit : after.stream.window.limit = before.stream.window.limit
  capacity : before.stream.window.capacity ≤ after.stream.window.capacity
  coherent : after.Coherent moved

/-- The stream is on the object that it was on before, which was opened for the same, and it is
coherent with that object. Unlike after a step that advances it, what is staged may be anything. -/
structure Tracks (before : Attached) (descriptor : Descriptor) (after : Attached)
    (moved : Descriptor) : Prop where
  object : after.stream.object = before.stream.object
  limit : after.stream.window.limit = before.stream.window.limit
  capacity : before.stream.window.capacity ≤ after.stream.window.capacity
  objects : after.remote.objects = before.remote.objects
  mode : moved.mode = descriptor.mode
  coherent : after.Coherent moved

/-- A step that the user of the stream does not notice. -/
structure Keeps (before : Attached) (descriptor : Descriptor) (after : Attached)
    (moved : Descriptor) : Prop where
  advances : before.Advances descriptor after moved
  here : after.stream.here = before.stream.here
  content : after.content? = before.content?
  dirty : after.stream.dirty = true → before.stream.dirty = true

/-- Nothing stands in the way of the stream: no faults are in store, every window that
may be asked for can be had, and a dirty window may be written back. -/
structure Steady (attached : Attached) (descriptor : Descriptor) : Prop where
  quiet : attached.remote.faults = ∅
  allocatable : attached.stream.window.limit < Window.allocationBound
  writable : attached.stream.dirty = true → descriptor.mode.writable = true

/-- No faults are in store, and a dirty window may be written back. -/
structure Calm (attached : Attached) (descriptor : Descriptor) : Prop where
  quiet : attached.remote.faults = ∅
  writable : attached.stream.dirty = true → descriptor.mode.writable = true

variable {attached before middle after : Attached} {descriptor between moved : Descriptor}

/-- A stream that nothing stands in the way of is calm. -/
theorem Steady.calm (steady : attached.Steady descriptor) : attached.Calm descriptor :=
  ⟨steady.quiet, steady.writable⟩

/-- A calm stream has no reason to refuse a dirty window. -/
theorem Calm.no_refusal (calm : attached.Calm descriptor) (dirty : attached.stream.dirty = true)
    (excuse : attached.remote.faults = ∅ → descriptor.mode.writable = false) : False := by
  have refused := excuse calm.quiet
  rw [calm.writable dirty] at refused
  contradiction

theorem Coherent.extent_le (coherent : attached.Coherent descriptor) :
    attached.stream.window.extent ≤ attached.stream.window.capacity :=
  Window.inBounds_iff.mp coherent.bounded

/-- All bytes that are counted as the window's are in its buffer. -/
theorem Coherent.length_occupied (coherent : attached.Coherent descriptor) :
    attached.stream.window.occupied.length = attached.stream.window.extent :=
  List.length_take_of_le coherent.extent_le

/-- A stream that is used at a position in range has its whole window in range. -/
theorem Coherent.reach_lt (coherent : attached.Coherent descriptor)
    (near : attached.stream.here < PlainFile.positionBound) :
    attached.stream.base + attached.stream.window.extent < Word.signedBound := by
  have inside := coherent.extent_le
  have allocated := coherent.allocated
  simp only [CachedStream.here, PlainFile.positionBound, Window.allocationBound,
    Word.signedBound] at *
  omega

/-- The user of a coherent stream sees the bytes of its object with the dirty window laid
over them. -/
theorem Coherent.content?_eq (coherent : attached.Coherent descriptor) :
    attached.content? =
      (descriptor.backing? attached.remote.objects).map attached.stream.overlaid := by
  simp only [content?, Remote.backing?, coherent.serves.found, Option.bind_some]

/-- If the window is clean, these are the bytes of the object. -/
theorem Coherent.content?_of_clean (coherent : attached.Coherent descriptor)
    (clean : attached.stream.dirty = false) :
    attached.content? = descriptor.backing? attached.remote.objects := by
  have same : attached.stream.overlaid = id := funext (CachedStream.overlaid_of_clean clean)
  rw [coherent.content?_eq, same, Option.map_id_fun, id_eq]

theorem Advances.refl (coherent : attached.Coherent descriptor) :
    attached.Advances descriptor attached descriptor :=
  ⟨coherent.serves.refl, rfl, rfl, Nat.le_refl _, coherent⟩

/-- Steps that lead from coherent streams to coherent streams go on one after another. -/
theorem Advances.trans (first : before.Advances descriptor middle between)
    (second : middle.Advances between after moved) : before.Advances descriptor after moved where
  moves := first.moves.trans (first.object ▸ second.moves)
  object := second.object.trans first.object
  limit := second.limit.trans first.limit
  capacity := Nat.le_trans first.capacity second.capacity
  coherent := second.coherent

/-- What advances a stream has tracked its object. -/
theorem Advances.tracks (advances : before.Advances descriptor after moved) :
    before.Tracks descriptor after moved where
  object := advances.object
  limit := advances.limit
  capacity := advances.capacity
  objects := advances.moves.objects
  mode := advances.moves.evolved.mode
  coherent := advances.coherent

theorem Coherent.tracks (coherent : attached.Coherent descriptor) :
    attached.Tracks descriptor attached descriptor :=
  ⟨rfl, rfl, Nat.le_refl _, rfl, rfl, coherent⟩

/-- A stream goes on tracking its object from step to step. -/
theorem Tracks.trans (first : before.Tracks descriptor middle between)
    (second : middle.Tracks between after moved) : before.Tracks descriptor after moved where
  object := second.object.trans first.object
  limit := second.limit.trans first.limit
  capacity := Nat.le_trans first.capacity second.capacity
  objects := second.objects.trans first.objects
  mode := second.mode.trans first.mode
  coherent := second.coherent

/-- Nothing stands in the way of a stream that advanced, unless it became dirty and may not be
written back. -/
theorem Advances.steady (advances : before.Advances descriptor after moved)
    (steady : before.Steady descriptor)
    (writable : after.stream.dirty = true → descriptor.mode.writable = true) :
    after.Steady moved where
  quiet := advances.moves.quiet steady.quiet
  allocatable := advances.limit ▸ steady.allocatable
  writable := fun dirty => advances.moves.evolved.mode ▸ writable dirty

/-- The same for a stream that is merely calm. -/
theorem Advances.calm (advances : before.Advances descriptor after moved)
    (calm : before.Calm descriptor)
    (writable : after.stream.dirty = true → descriptor.mode.writable = true) : after.Calm moved where
  quiet := advances.moves.quiet calm.quiet
  writable := fun dirty => advances.moves.evolved.mode ▸ writable dirty

theorem Keeps.refl (coherent : attached.Coherent descriptor) :
    attached.Keeps descriptor attached descriptor :=
  ⟨.refl coherent, rfl, rfl, id⟩

/-- A call that leaves the object where it is does not touch the stream. -/
theorem Coherent.keeps_remote {remote : Remote} (coherent : attached.Coherent descriptor)
    (moves : Remote.Moves attached.stream.object attached.remote descriptor remote descriptor) :
    attached.Keeps descriptor ⟨attached.stream, remote⟩ descriptor := by
  have after : Coherent ⟨attached.stream, remote⟩ descriptor :=
    { coherent with
      serves := moves.serves
      mirrored := fun clean backing backed =>
        coherent.mirrored clean backing (moves.objects ▸ backed) }
  refine ⟨⟨moves, rfl, rfl, Nat.le_refl _, after⟩, rfl, ?_, id⟩
  rw [after.content?_eq, coherent.content?_eq, moves.objects]

/-- Other faults do not change what a stream knows. -/
theorem Coherent.armed {stream : CachedStream} {remote : Remote}
    (coherent : Coherent ⟨stream, remote⟩ descriptor) {faults : FaultPlan}
    (honest : faults.Honest) : Coherent ⟨stream, { remote with faults }⟩ descriptor :=
  have serves := coherent.serves
  { coherent with serves := ⟨serves.connected, serves.found, honest, serves.sound⟩ }

theorem Keeps.steady (keeps : before.Keeps descriptor after moved)
    (steady : before.Steady descriptor) : after.Steady moved :=
  keeps.advances.steady steady fun dirty => steady.writable (keeps.dirty dirty)

theorem Keeps.calm (keeps : before.Keeps descriptor after moved)
    (calm : before.Calm descriptor) : after.Calm moved :=
  keeps.advances.calm calm fun dirty => calm.writable (keeps.dirty dirty)

/-- The user does not notice several such steps either. -/
theorem Keeps.trans (first : before.Keeps descriptor middle between)
    (second : middle.Keeps between after moved) : before.Keeps descriptor after moved :=
  ⟨first.advances.trans second.advances, second.here.trans first.here,
    second.content.trans first.content, fun dirty => first.dirty (second.dirty dirty)⟩

end Attached

/-- A position and a length that are both below the signed bound add up to a word. -/
theorem Word.signedBound_add_signedBound : signedBound + signedBound = bound := rfl

namespace CachedStream

variable {ε α : Type} (attached : Attached)

@[simp] theorem current_apply :
    (current : Action Attached ε CachedStream) attached = (.ok attached.stream, attached) := rfl

@[simp] theorem modify_apply (change : CachedStream → CachedStream) :
    (modify change : Action Attached ε Unit) attached =
      (.ok (), ⟨change attached.stream, attached.remote⟩) := rfl

/-- What is done on the window leaves the rest of the stream and the remote side alone. -/
theorem onWindow_apply (body : Action Window ε α) :
    onWindow body attached =
      ((body attached.stream.window).1,
        ⟨attached.stream.withWindow (body attached.stream.window).2, attached.remote⟩) := rfl

/-- What is done on the remote side leaves the stream alone. -/
theorem onRemote_apply (body : Action Remote ε α) :
    onRemote body attached =
      ((body attached.remote).1, ⟨attached.stream, (body attached.remote).2⟩) := rfl

/-- So does what the remote side is asked for, and its errors are handed on. -/
theorem ask_apply (request : RemoteAction α) :
    ask request attached =
      ((request attached.remote).1.mapError .remote,
        ⟨attached.stream, (request attached.remote).2⟩) := rfl

/-- A window grows as far as the remote side affords it. -/
theorem grow_apply (capacity : Nat) :
    grow capacity attached = onWindow (Window.grow capacity (attached.remote.affords capacity))
      ⟨attached.stream, attached.remote.requesting⟩ := rfl

@[simp] theorem note_apply (event : Event) :
    (note event : Action Attached ε Unit) attached =
      (.ok (), ⟨attached.stream, attached.remote.noting event⟩) := rfl

@[simp] theorem anchor_apply (base : Nat) :
    (anchor base : Action Attached ε Unit) attached =
      (.ok (), ⟨attached.stream.anchored base, attached.remote⟩) := rfl

end CachedStream

end RemoteStreams
