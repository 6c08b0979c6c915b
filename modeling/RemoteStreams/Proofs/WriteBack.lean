import RemoteStreams.CachedStream.Flush
import RemoteStreams.Proofs.Coherence

/-! # Writing windows back

A flush that fails may leave the object anywhere in the window, and a front part
of the window in the object. The user of the stream notices neither: the window
is still dirty and covers what was written. A flush that goes through leaves the
window in the object, in its place (`RemoteStreams.CachedStream.flush_inPlace`).
Only a window that no content can reach as far as makes a flush give up; in reach it
goes through or fails (`RemoteStreams.CachedStream.flush_inReach`).
-/

namespace RemoteStreams

/-- Content that is as it was, or that had a front part of `patch` laid over it at `offset`. -/
inductive Content.Patched (offset : Nat) (patch : Bytes) : Content → Content → Prop
  | same {content : Content} : Patched offset patch content content
  | front {staged : Bytes} {modified : Bool} {count : Nat} (some : 0 < count)
      (room : count ≤ patch.length) : Patched offset patch (.staged staged modified)
        (.staged (staged.overlay offset (patch.take count)) true)

/-- A write of a part of a patch lays that part over what is staged. -/
theorem Descriptor.patched_extended {descriptor : Descriptor} {staged patch : Bytes}
    {modified : Bool} {count : Nat} (content : descriptor.content = .staged staged modified)
    (room : count ≤ patch.length) :
    Content.Patched descriptor.position patch descriptor.content
      (descriptor.extended staged (patch.take count)).content := by
  unfold extended
  split
  · exact .same
  · next present =>
      rw [content]
      have some : 0 < count := by
        apply Nat.pos_of_ne_zero
        rintro rfl
        exact present List.take_zero
      exact .front some room

namespace CachedStream

open Attached

variable {attached : Attached} {descriptor : Descriptor}

/-- The stream with its object `synced` bytes past the start of the window. -/
def syncedTo (stream : CachedStream) (synced : Nat) : CachedStream := { stream with synced }

/-- What is in step does not matter to what the user sees. -/
theorem overlaid_syncedTo (stream : CachedStream) (synced : Nat) (backing : Bytes) :
    (stream.syncedTo synced).overlaid backing = stream.overlaid backing := rfl

/-- The stream after its window was written back. -/
def flushed (stream : CachedStream) : CachedStream :=
  { stream with synced := stream.window.extent, dirty := false }

/-- While its window is dirty, the object of a stream may stand anywhere in it. -/
theorem coherent_syncedTo {remote : Remote} {moved : Descriptor} {synced : Nat}
    (coherent : attached.Coherent descriptor) (dirty : attached.stream.dirty = true)
    (serves : remote.Serves attached.stream.object moved)
    (position : moved.position = attached.stream.base + synced)
    (inside : synced ≤ attached.stream.window.extent) :
    Coherent ⟨attached.stream.syncedTo synced, remote⟩ moved where
  serves := serves
  position := position
  bounded := coherent.bounded
  limited := coherent.limited
  allocated := coherent.allocated
  reached := inside
  settled := fun clean => by simp [syncedTo, dirty] at clean
  pending := coherent.pending
  mirrored := fun clean => by simp [syncedTo, dirty] at clean

/-- Before a dirty window is written back, the object stands where the window begins. -/
theorem rewindObject_cases (coherent : attached.Coherent descriptor)
    (dirty : attached.stream.dirty = true) :
    (∃ remote, rewindObject attached = (.ok (), ⟨attached.stream.syncedTo 0, remote⟩) ∧
      attached.Keeps descriptor ⟨attached.stream.syncedTo 0, remote⟩
        { descriptor with position := attached.stream.base }) ∨
    ∃ cause remote, rewindObject attached = (.error cause, ⟨attached.stream, remote⟩) ∧
      attached.Keeps descriptor ⟨attached.stream, remote⟩ descriptor ∧
      (attached.remote.faults = ∅ → Word.bound ≤ attached.stream.base) := by
  by_cases here : attached.stream.synced = 0
  · have same : attached.stream.syncedTo 0 = attached.stream := by
      rw [← here]
      rfl
    have position : descriptor.position = attached.stream.base := by
      rw [coherent.position, here, Nat.add_zero]
    refine .inl ⟨attached.remote, ?_, ?_⟩
    · simp [rewindObject, Action.bind_apply, here, same]
    · rw [same, ← position]
      exact .refl coherent
  · rcases Link.seekObject_cases coherent.serves (.start attached.stream.base) with
      ⟨position, remote, answered, reached, moves⟩ | ⟨cause, remote, failed, moves, excuse⟩
    · obtain rfl : attached.stream.base = position := by
        rw [show descriptor.target (.start attached.stream.base) = (attached.stream.base : Int)
          from rfl] at reached
        simp only [Word.ofInt?, Int.toNat_natCast] at reached
        split at reached
        · exact Option.some.inj reached
        · simp at reached
      have after : Coherent ⟨attached.stream.syncedTo 0, remote⟩
          { descriptor with position := attached.stream.base } :=
        coherent_syncedTo coherent dirty moves.serves rfl (Nat.zero_le _)
      refine .inl ⟨remote, ?_, ⟨moves, rfl, rfl, Nat.le_refl _, after⟩, rfl, ?_, id⟩
      · simp [rewindObject, Action.bind_apply, here, ask_apply, answered, syncedTo]
      · rw [after.content?_eq, coherent.content?_eq, moves.objects]
        rfl
    · refine .inr ⟨.remote cause, remote, ?_, coherent.keeps_remote moves, fun quiet => ?_⟩
      · simp [rewindObject, Action.bind_apply, here, ask_apply, failed]
      · apply Nat.not_lt.mp
        intro inRange
        have unreachable := excuse quiet
        rw [show descriptor.target (.start attached.stream.base) = (attached.stream.base : Int)
          from rfl, Word.ofInt?_natCast inRange] at unreachable
        simp at unreachable

/-- A window that the object has seen is coherent as a clean one. -/
theorem coherent_flushed (coherent : attached.Coherent descriptor) {staged : Bytes}
    {modified : Bool} {remote : Remote} (content : descriptor.content = .staged staged modified)
    (position : descriptor.position = attached.stream.base)
    (present : attached.stream.window.occupied ≠ [])
    (serves : remote.Serves attached.stream.object
      (descriptor.extended staged attached.stream.window.occupied)) :
    Coherent ⟨attached.stream.flushed, remote⟩
      (descriptor.extended staged attached.stream.window.occupied) := by
  exact {
    serves := serves
    position := by
      rw [Descriptor.position_extended, position, coherent.length_occupied]
      rfl
    bounded := coherent.bounded
    limited := coherent.limited
    allocated := coherent.allocated
    reached := Nat.le_refl _
    settled := fun _ => rfl
    pending := fun pending => by simp [flushed] at pending
    mirrored := fun _ backing shown => by
      rw [Descriptor.backing?_extended content, position, if_neg present] at shown
      obtain rfl := Option.some.inj shown
      have same := Bytes.slice_overlay staged attached.stream.base attached.stream.window.occupied
      rw [coherent.length_occupied] at same
      exact same.symm }

/-- A window that is written back whole goes unnoticed, as it hid what the object had there. -/
theorem keeps_flushed (coherent : attached.Coherent descriptor)
    (dirty : attached.stream.dirty = true) (position : descriptor.position = attached.stream.base)
    {staged : Bytes} {modified : Bool} {remote : Remote}
    (content : descriptor.content = .staged staged modified)
    (moves : Remote.Moves attached.stream.object attached.remote descriptor remote
      (descriptor.extended staged attached.stream.window.occupied)) :
    attached.Keeps descriptor ⟨attached.stream.flushed, remote⟩
      (descriptor.write staged attached.stream.window.occupied) := by
  have present : attached.stream.window.occupied ≠ [] := by
    apply List.ne_nil_of_length_pos
    rw [coherent.length_occupied]
    exact coherent.pending dirty
  have after := coherent_flushed coherent content position present moves.serves
  have backed := Descriptor.backing?_extended content attached.stream.window.occupied
    attached.remote.objects
  rw [if_neg present, position] at backed
  have shown : content? ⟨attached.stream.flushed, remote⟩ = attached.content? := by
    rw [after.content?_eq, moves.objects, backed, coherent.content?_eq]
    simp only [Descriptor.backing?, content, Option.map_some, overlaid_of_dirty dirty]
    rfl
  have written : descriptor.extended staged attached.stream.window.occupied =
      descriptor.write staged attached.stream.window.occupied := if_neg present
  exact written ▸ ⟨⟨moves, rfl, rfl, Nat.le_refl _, after⟩, rfl, shown, fun pending => by
    simp [flushed] at pending⟩

/-- A front part of a window that reaches the object goes unnoticed as well. The window is dirty as
before, and lies over what the object took of it. -/
theorem keeps_syncedTo (coherent : attached.Coherent descriptor)
    (dirty : attached.stream.dirty = true) (position : descriptor.position = attached.stream.base)
    {staged : Bytes} {modified : Bool} {remote : Remote} {count : Nat}
    (content : descriptor.content = .staged staged modified)
    (moves : Remote.Moves attached.stream.object attached.remote descriptor remote
      (descriptor.extended staged (attached.stream.window.occupied.take count)))
    (room : count ≤ attached.stream.window.occupied.length) :
    attached.Keeps descriptor ⟨attached.stream.syncedTo count, remote⟩
      (descriptor.extended staged (attached.stream.window.occupied.take count)) := by
  have after : Coherent ⟨attached.stream.syncedTo count, remote⟩
      (descriptor.extended staged (attached.stream.window.occupied.take count)) := by
    apply coherent_syncedTo coherent dirty moves.serves
    · rw [Descriptor.position_extended, position, List.length_take_of_le room]
    · rwa [← coherent.length_occupied]
  have backed := Descriptor.backing?_extended content
    (attached.stream.window.occupied.take count) attached.remote.objects
  rw [position] at backed
  refine ⟨⟨moves, rfl, rfl, Nat.le_refl _, after⟩, rfl, ?_, id⟩
  rw [after.content?_eq, coherent.content?_eq, moves.objects, backed]
  simp only [Descriptor.backing?, content, Option.map_some, overlaid_syncedTo,
    overlaid_of_dirty dirty]
  split
  · rfl
  · rw [Bytes.overlay_absorb]

/-- A write of the window that is given up leaves the object where the window begins. -/
theorem tracks_spilled (coherent : attached.Coherent descriptor)
    (dirty : attached.stream.dirty = true) (rewound : attached.stream.synced = 0)
    {data : Bytes} {remote : Remote} {moved : Descriptor}
    (spills :
      Remote.Spills attached.stream.object attached.remote descriptor data remote moved) :
    attached.Tracks descriptor ⟨attached.stream, remote⟩ moved := by
  have same : attached.stream.syncedTo 0 = attached.stream := by
    rw [← rewound]
    rfl
  have after : Coherent ⟨attached.stream.syncedTo 0, remote⟩ moved := by
    apply coherent_syncedTo coherent dirty spills.drifts.serves
    · rw [spills.position, coherent.position, rewound]
    · exact Nat.zero_le _
  exact ⟨rfl, rfl, Nat.le_refl _, spills.drifts.objects, spills.drifts.drifted.mode, same ▸ after⟩

/-- The whole window reaches the object, or a front part that the dirty window still covers. The
write is given up if no content reaches as far as the window. -/
theorem writeBack_cases (coherent : attached.Coherent descriptor)
    (dirty : attached.stream.dirty = true) (rewound : attached.stream.synced = 0) :
    (∃ staged modified remote, writeBack attached = (.ok (), ⟨attached.stream.flushed, remote⟩) ∧
      descriptor.content = .staged staged modified ∧
      attached.Keeps descriptor ⟨attached.stream.flushed, remote⟩
        (descriptor.write staged attached.stream.window.occupied)) ∨
    (∃ cause synced remote moved, writeBack attached =
        (.error cause, ⟨attached.stream.syncedTo synced, remote⟩) ∧
      attached.Keeps descriptor ⟨attached.stream.syncedTo synced, remote⟩ moved ∧
      Content.Patched attached.stream.base attached.stream.window.occupied descriptor.content
        moved.content ∧
      (attached.remote.faults = ∅ → descriptor.mode.writable = false)) ∨
    ∃ breach remote moved, writeBack attached = (.broken breach, ⟨attached.stream, remote⟩) ∧
      attached.Tracks descriptor ⟨attached.stream, remote⟩ moved ∧
      Content.Spilled attached.stream.base attached.stream.window.occupied descriptor.content
        moved.content ∧
      Word.signedBound ≤ attached.stream.base + attached.stream.window.extent := by
  have position : descriptor.position = attached.stream.base := by
    rw [coherent.position, rewound, Nat.add_zero]
  have length := coherent.length_occupied
  rcases Link.writeObject_ends coherent.serves attached.stream.window.occupied with
    ⟨count, staged, modified, remote, answered, content, moves, room, -, whole⟩ |
      ⟨cause, remote, failed, moves, excuse⟩ | ⟨breach, remote, moved, abandoned, spills, outside⟩
  · by_cases complete : count = attached.stream.window.occupied.length
    · rw [complete, List.take_length] at moves
      have noted := moves.trans (moves.serves.noting (.flushed attached.stream.path
        attached.stream.window.occupied.length attached.stream.base))
      refine .inl ⟨staged, modified, _, ?_, content,
        keeps_flushed coherent dirty position content noted⟩
      simp [writeBack, Action.bind_apply, ask_apply, answered, complete, flushed, length]
    · refine .inr (.inl ⟨.remote (.generic (.shortWrite attached.stream.path count
          attached.stream.window.occupied.length)), count, remote, _, ?_,
        keeps_syncedTo coherent dirty position content moves room,
        position ▸ Descriptor.patched_extended content room,
        fun quiet => (complete (whole quiet)).elim⟩)
      simp [writeBack, Action.bind_apply, ask_apply, answered, complete, syncedTo]
  · refine .inr (.inl ⟨.remote cause, attached.stream.synced, remote, descriptor, ?_,
      coherent.keeps_remote moves, .same, excuse⟩)
    simp [writeBack, Action.bind_apply, ask_apply, failed, syncedTo]
  · refine .inr (.inr ⟨breach, remote, moved, ?_, tracks_spilled coherent dirty rewound spills,
      position ▸ spills.content, ?_⟩)
    · simp [writeBack, Action.bind_apply, ask_apply, abandoned]
    · rw [← position, ← length]
      exact Nat.not_lt.mp outside

end CachedStream

namespace Attached

open CachedStream

/-- How a flush ends: with the window in the object, in its place, or with the window dirty as
before and at most a front part of it in the object, which does not count as modified by that if the
flush was given up. -/
def FlushEnds (before : Attached) (descriptor : Descriptor)
    (ended : Outcome StreamError Unit × Attached) : Prop :=
  (∃ remote moved, ended = (.ok (), ⟨before.stream.flushed, remote⟩) ∧
    before.Keeps descriptor ⟨before.stream.flushed, remote⟩ moved ∧
    (before.stream.dirty = false → moved = descriptor) ∧
    (before.stream.dirty = true → ∃ staged modified,
      descriptor.content = .staged staged modified ∧
      moved.position = before.stream.base + before.stream.window.extent ∧
      moved.content = .staged (staged.overlay before.stream.base before.stream.window.occupied)
        true)) ∨
  (∃ cause synced remote moved, ended = (.error cause, ⟨before.stream.syncedTo synced, remote⟩) ∧
    before.Keeps descriptor ⟨before.stream.syncedTo synced, remote⟩ moved ∧
    before.stream.dirty = true ∧
    Content.Patched before.stream.base before.stream.window.occupied descriptor.content
      moved.content ∧
    (before.remote.faults = ∅ → before.stream.base < Word.bound →
      descriptor.mode.writable = false)) ∨
  ∃ breach remote moved, ended = (.broken breach, ⟨before.stream.syncedTo 0, remote⟩) ∧
    before.Tracks descriptor ⟨before.stream.syncedTo 0, remote⟩ moved ∧
    before.stream.dirty = true ∧
    Content.Spilled before.stream.base before.stream.window.occupied descriptor.content
      moved.content ∧
    Word.signedBound ≤ before.stream.base + before.stream.window.extent

/-- The end of the window is a machine word, and it can be addressed if the window is to be
written back or if there is anything to read behind it. -/
structure InReach (attached : Attached) (descriptor : Descriptor) : Prop where
  word : attached.stream.base + attached.stream.window.extent < Word.bound
  inside : attached.stream.dirty = true ∨
      attached.stream.base + attached.stream.window.extent < descriptor.content.length →
    attached.stream.base + attached.stream.window.extent < Word.signedBound

variable {attached : Attached} {descriptor : Descriptor}

/-- A window that ends below the signed bound is in reach. -/
theorem inReach_of_lt
    (reach : attached.stream.base + attached.stream.window.extent < Word.signedBound) :
    attached.InReach descriptor where
  word := by
    have twice := Word.signedBound_add_signedBound
    omega
  inside := fun _ => reach

end Attached

namespace CachedStream

open Attached

variable {attached : Attached} {descriptor : Descriptor}

/-- A clean stream is as it would be after a flush. -/
theorem flushed_of_clean (coherent : attached.Coherent descriptor)
    (clean : attached.stream.dirty = false) : attached.stream.flushed = attached.stream := by
  simp only [flushed, ← coherent.settled clean, ← clean]

/-- Wherever the window is, a flush writes it in its place or leaves it dirty. -/
theorem flush_inPlace (coherent : attached.Coherent descriptor) :
    attached.FlushEnds descriptor (flush attached) := by
  by_cases dirty : attached.stream.dirty = true
  · have parts : flush attached = (rewindObject >>= fun _ => writeBack) attached := by
      simp [flush, Action.bind_apply, dirty]
    rw [parts, Action.bind_apply]
    rcases rewindObject_cases coherent dirty with
      ⟨between, rewound, kept⟩ | ⟨cause, remote, failed, kept, excuse⟩
    · rw [rewound]
      rcases writeBack_cases kept.advances.coherent dirty rfl with
        ⟨staged, modified, remote, finished, content, last⟩ |
          ⟨cause, synced, remote, moved, failed, last, patched, excuse⟩ |
            ⟨breach, remote, moved, abandoned, last, spilled, outside⟩
      · refine .inl ⟨remote, _, finished, kept.trans last, fun clean => ?_,
          fun _ => ⟨staged, modified, content, ?_, rfl⟩⟩
        · rw [dirty] at clean
          contradiction
        · exact congrArg (attached.stream.base + ·) coherent.length_occupied
      · exact .inr (.inl ⟨cause, synced, remote, moved, failed, kept.trans last, dirty, patched,
          fun quiet _ => excuse (kept.advances.moves.quiet quiet)⟩)
      · exact .inr (.inr ⟨breach, remote, moved, abandoned, kept.advances.tracks.trans last, dirty,
          spilled, outside⟩)
    · rw [failed]
      exact .inr (.inl ⟨cause, attached.stream.synced, remote, descriptor, rfl, kept, dirty, .same,
        fun quiet inRange => (Nat.not_lt.mpr (excuse quiet) inRange).elim⟩)
  · have clean : attached.stream.dirty = false := by simpa using dirty
    have done : flush attached = (.ok (), attached) := by
      simp [flush, Action.bind_apply, clean]
    refine .inl ⟨attached.remote, descriptor, ?_, ?_, fun _ => rfl, fun pending =>
      (dirty pending).elim⟩
    · rw [flushed_of_clean coherent clean, done]
    · rw [flushed_of_clean coherent clean]
      exact .refl coherent

/-- A flush of a window in reach leaves it clean and its object in reach, or it fails and the window
is dirty as before. -/
theorem flush_inReach (coherent : attached.Coherent descriptor)
    (inReach : attached.InReach descriptor) :
    (∃ remote moved, flush attached = (.ok (), ⟨attached.stream.flushed, remote⟩) ∧
      attached.Keeps descriptor ⟨attached.stream.flushed, remote⟩ moved ∧ moved.InReach) ∨
    ∃ cause synced remote moved, flush attached =
        (.error cause, ⟨attached.stream.syncedTo synced, remote⟩) ∧
      attached.Keeps descriptor ⟨attached.stream.syncedTo synced, remote⟩ moved ∧
      attached.stream.dirty = true ∧
      (attached.remote.faults = ∅ → descriptor.mode.writable = false) := by
  have twice := Word.signedBound_add_signedBound
  have word := inReach.word
  rcases flush_inPlace coherent with ⟨remote, moved, ended, kept, same, written⟩ |
    ⟨cause, synced, remote, moved, ended, kept, dirty, -, excuse⟩ |
      ⟨breach, remote, moved, -, -, dirty, -, outside⟩
  · have position : moved.position = attached.stream.base + attached.stream.window.extent :=
      kept.advances.coherent.position
    refine .inl ⟨remote, moved, ended, kept, position ▸ word, fun present => ?_⟩
    rw [position] at present ⊢
    by_cases dirty : attached.stream.dirty = true
    · exact inReach.inside (.inl dirty)
    · rw [same (by simpa using dirty)] at present
      exact inReach.inside (.inr present)
  · exact .inr ⟨cause, synced, remote, moved, ended, kept, dirty, fun quiet =>
      excuse quiet (by omega)⟩
  · have inside := inReach.inside (.inl dirty)
    omega

/-- A flush of a calm stream goes through. -/
theorem flush_calm (coherent : attached.Coherent descriptor) (inReach : attached.InReach descriptor)
    (calm : attached.Calm descriptor) :
    ∃ remote moved, flush attached = (.ok (), ⟨attached.stream.flushed, remote⟩) ∧
      attached.Keeps descriptor ⟨attached.stream.flushed, remote⟩ moved := by
  rcases flush_inReach coherent inReach with
    ⟨remote, moved, wrote, kept, -⟩ | ⟨cause, synced, remote, moved, -, -, dirty, excuse⟩
  · exact ⟨remote, moved, wrote, kept⟩
  · exact (calm.no_refusal dirty excuse).elim

/-- A flush leaves a clean window, or it fails and the window is dirty as before. -/
theorem flush_cases (coherent : attached.Coherent descriptor)
    (reach : attached.stream.base + attached.stream.window.extent < Word.signedBound) :
    (∃ remote moved, flush attached = (.ok (), ⟨attached.stream.flushed, remote⟩) ∧
      attached.Keeps descriptor ⟨attached.stream.flushed, remote⟩ moved) ∨
    ∃ cause synced remote moved, flush attached =
        (.error cause, ⟨attached.stream.syncedTo synced, remote⟩) ∧
      attached.Keeps descriptor ⟨attached.stream.syncedTo synced, remote⟩ moved ∧
      attached.stream.dirty = true ∧
      (attached.remote.faults = ∅ → descriptor.mode.writable = false) := by
  rcases flush_inReach coherent (inReach_of_lt reach) with
    ⟨remote, moved, ended, kept, -⟩ | fails
  · exact .inl ⟨remote, moved, ended, kept⟩
  · exact .inr fails

end CachedStream

end RemoteStreams
