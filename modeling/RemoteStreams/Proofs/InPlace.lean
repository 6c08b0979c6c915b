import RemoteStreams.Proofs.Runs

/-! # Flushes in place

A flush decides from a count alone whether its object has to be moved first, and refills, flushes
and failed flushes all change that count. From whatever state a stream has come to, and however the
calls of the flush end, the window is written where it belongs or it is not written at all
(`RemoteStreams.CachedStream.flush_written_in_place`). A failed flush leaves at most a front part of
the window in the object, so that any number of failures before a success make no difference to what
is staged.
-/

namespace RemoteStreams

namespace Content

/-- Staged content with `patch` laid over it at `offset`. -/
def overlaid (offset : Nat) (patch : Bytes) : Content → Content
  | .staged data _ => .staged (data.overlay offset patch) true
  | .recorded size => .recorded size

/-- A patch makes up for the front part of it that was laid down before. -/
theorem Patched.overlaid_eq {offset : Nat} {patch : Bytes} {before after : Content}
    (patched : Patched offset patch before after) :
    after.overlaid offset patch = before.overlaid offset patch := by
  cases patched with
  | same => rfl
  | front some room =>
      simp only [overlaid, Bytes.overlay_absorb]

end Content

namespace Attached

/-- The descriptor of the object behind the stream. -/
def descriptor? (attached : Attached) : Option Descriptor :=
  attached.remote.session.descriptors.find? attached.stream.object

/-- The occupied window was laid over what was staged, where it begins, and the object was left at
its end. -/
structure WroteBack (attached : Attached) (before after : Descriptor) : Prop where
  content : ∃ staged modified, before.content = .staged staged modified ∧
    after.content =
      .staged (staged.overlay attached.stream.base attached.stream.window.occupied) true
  position : after.position = attached.stream.base + attached.stream.window.extent

/-- The stream is to write back what it was to write back at first, and whatever is staged by now,
laying the window over it leads to the same. -/
structure Owes (start : Attached) (first : Descriptor) (attached : Attached)
    (moved : Descriptor) : Prop where
  coherent : attached.Coherent moved
  object : attached.stream.object = start.stream.object
  base : attached.stream.base = start.stream.base
  window : attached.stream.window = start.stream.window
  dirty : attached.stream.dirty = true
  content : moved.content.overlaid start.stream.base start.stream.window.occupied =
    first.content.overlaid start.stream.base start.stream.window.occupied

variable {start attached : Attached} {first descriptor : Descriptor}

theorem Coherent.descriptor?_eq (coherent : attached.Coherent descriptor) :
    attached.descriptor? = some descriptor := coherent.serves.found

/-- A dirty stream owes its window to the object. -/
theorem Coherent.owes (coherent : attached.Coherent descriptor)
    (dirty : attached.stream.dirty = true) : attached.Owes descriptor attached descriptor :=
  ⟨coherent, rfl, rfl, rfl, dirty, rfl⟩

theorem Owes.armed (owes : start.Owes first attached descriptor) {plan : FaultPlan}
    (honest : plan.Honest) : start.Owes first (attached.armed plan) descriptor :=
  { owes with coherent := owes.coherent.armed honest }

end Attached

namespace CachedStream

open Attached

variable {start attached : Attached} {first descriptor : Descriptor}

/-- The states that a stream comes to by flushes that fail, whatever honest faults are put in store
between them. -/
inductive Retried (start : Attached) : Attached → Prop
  | start : Retried start start
  | fail {attached : Attached} {cause : StreamError} (retried : Retried start attached)
      (failed : (flush attached).1 = .error cause) : Retried start (flush attached).2
  | arm {attached : Attached} {plan : FaultPlan} (retried : Retried start attached)
      (honest : plan.Honest) : Retried start (attached.armed plan)

/-- After a flush that failed it still owes the same, although a part may be written by now. -/
theorem flush_owes (owes : start.Owes first attached descriptor) {cause : StreamError}
    (failed : (flush attached).1 = .error cause) :
    ∃ moved, start.Owes first (flush attached).2 moved := by
  rcases flush_inPlace owes.coherent with ⟨remote, moved, ended, -⟩ |
    ⟨_, synced, remote, moved, ended, kept, dirty, patched, -⟩ | ⟨breach, remote, moved, ended, -⟩
  · rw [ended] at failed
    contradiction
  · rw [owes.base, owes.window] at patched
    refine ⟨moved, ?_⟩
    rw [ended]
    exact {
      coherent := kept.advances.coherent
      object := owes.object
      base := owes.base
      window := owes.window
      dirty := dirty
      content := patched.overlaid_eq.trans owes.content }
  · rw [ended] at failed
    contradiction

/-- So it does after any number of flushes that failed. -/
theorem Retried.owes {origin : Attached} (retried : Retried origin attached)
    (owes : start.Owes first origin descriptor) : ∃ moved, start.Owes first attached moved := by
  induction retried with
  | start => exact ⟨descriptor, owes⟩
  | fail _ failed ih =>
      obtain ⟨descriptor, still⟩ := ih
      exact flush_owes still failed
  | arm _ honest ih =>
      obtain ⟨descriptor, still⟩ := ih
      exact ⟨descriptor, still.armed honest⟩

/-- Once a flush goes through, the object is what it would be had the first one gone through. -/
theorem flush_of_owes (owes : start.Owes first attached descriptor) {final : Attached}
    (flushed : flush attached = (.ok (), final)) :
    ∃ moved, final.descriptor? = some moved ∧ start.WroteBack first moved := by
  rcases flush_inPlace owes.coherent with ⟨remote, moved, ended, kept, -, written⟩ |
    ⟨cause, synced, remote, moved, ended, -⟩ | ⟨breach, remote, moved, ended, -⟩
  · obtain ⟨staged, modified, content, position, after⟩ := written owes.dirty
    obtain rfl := (Prod.mk.inj (flushed.symm.trans ended)).2
    refine ⟨moved, kept.advances.coherent.descriptor?_eq, ?_, ?_⟩
    · have same := owes.content
      rw [content] at same
      cases began : first.content with
      | staged data kept =>
          rw [began] at same
          refine ⟨data, kept, rfl, ?_⟩
          rw [after, owes.base, owes.window]
          exact same
      | recorded size =>
          rw [began] at same
          simp [Content.overlaid] at same
    · rw [position, owes.base, owes.window]
  · rw [flushed] at ended
    simp at ended
  · rw [flushed] at ended
    simp at ended

/-- How a flush leaves the stream and the object, in terms of what was there before. -/
structure FlushedInPlace (attached : Attached) (before after : Descriptor) : Prop where
  /-- Cursor, unread bytes, base, buffer and object are those from before. -/
  stream : (flush attached).2.stream = { attached.stream with
    synced := (flush attached).2.stream.synced
    dirty := (flush attached).2.stream.dirty }
  of_ok : (flush attached).1 = .ok () → (flush attached).2.stream.dirty = false ∧
    (attached.stream.dirty = false → (flush attached).2 = attached) ∧
    (attached.stream.dirty = true → attached.WroteBack before after)
  of_error : ∀ cause, (flush attached).1 = .error cause → attached.stream.dirty = true ∧
    (flush attached).2.stream.dirty = true ∧
    Content.Patched attached.stream.base attached.stream.window.occupied before.content
      after.content ∧
    ∀ later final, Retried (flush attached).2 later → flush later = (.ok (), final) →
      ∃ last, final.descriptor? = some last ∧ attached.WroteBack before last
  /-- A flush is abandoned at most if the window ends where no content reaches. If it does not even
  begin where one does, the object stays as it was. -/
  of_broken : ∀ breach, (flush attached).1 = .broken breach →
    Word.signedBound ≤ attached.stream.base + attached.stream.window.extent ∧
    (flush attached).2.stream.dirty = true ∧
    Content.Spilled attached.stream.base attached.stream.window.occupied before.content
      after.content

/-- Every flush of a coherent stream writes the window in its place, or a part of it, or nothing. -/
theorem flush_flushedInPlace (coherent : attached.Coherent descriptor) :
    ∃ moved, (flush attached).2.descriptor? = some moved ∧
      FlushedInPlace attached descriptor moved := by
  rcases flush_inPlace coherent with ⟨remote, moved, ended, kept, -, written⟩ |
    ⟨cause, synced, remote, moved, ended, kept, dirty, patched, -⟩ |
      ⟨breach, remote, moved, ended, kept, dirty, spilled, far⟩
  · refine ⟨moved, ended ▸ kept.advances.coherent.descriptor?_eq, ?_⟩
    exact {
      stream := by
        rw [ended]
        rfl
      of_ok := fun _ => by
        refine ⟨by rw [ended]; rfl, fun clean => ?_, fun dirty => ?_⟩
        · simp only [flush, Action.bind_apply, current_apply, clean, Bool.false_eq_true,
            ↓reduceIte, Action.pure_apply]
        · obtain ⟨staged, modified, before, position, after⟩ := written dirty
          exact ⟨⟨staged, modified, before, after⟩, position⟩
      of_error := fun cause failed => by simp [ended] at failed
      of_broken := fun breach abandoned => by simp [ended] at abandoned }
  · refine ⟨moved, ended ▸ kept.advances.coherent.descriptor?_eq, ?_⟩
    have failed : (flush attached).1 = .error cause := congrArg Prod.fst ended
    exact {
      stream := by
        rw [ended]
        rfl
      of_ok := fun done => by simp [ended] at done
      of_error := fun _ _ => by
        refine ⟨dirty, by rw [ended]; exact dirty, patched, fun later final retried flushed => ?_⟩
        obtain ⟨_, owes⟩ := flush_owes (coherent.owes dirty) failed
        obtain ⟨_, still⟩ := retried.owes owes
        exact flush_of_owes still flushed
      of_broken := fun breach abandoned => by simp [ended] at abandoned }
  · refine ⟨moved, ended ▸ kept.coherent.descriptor?_eq, ?_⟩
    exact {
      stream := by
        rw [ended]
        rfl
      of_ok := fun done => by simp [ended] at done
      of_error := fun cause failed => by simp [ended] at failed
      of_broken := fun _ _ => ⟨far, by rw [ended]; exact dirty, spilled⟩ }

section Opened

variable {remote opened : Remote} {stream : CachedStream} {path : String} {mode : OpenMode}
  {sizes : BufferSizes}

/-- Wherever a stream has come to and however the calls of a flush end, the window is written in its
place or it is not written, and a failure is made up for by the first flush that goes through. -/
theorem flush_written_in_place (honest : remote.faults.Honest) (ordered : sizes.initial ≤ sizes.max)
    (succeeded : openStream path mode sizes remote = (.ok stream, opened))
    (visited : Visited ⟨stream, opened⟩ attached) :
    ∃ before after, attached.descriptor? = some before ∧
      (flush attached).2.descriptor? = some after ∧ FlushedInPlace attached before after := by
  obtain ⟨first, initial, -⟩ := coherent_of_openStream honest ordered succeeded
  obtain ⟨descriptor, tracks⟩ := visited.tracks initial
  obtain ⟨moved, found, inPlace⟩ := flush_flushedInPlace tracks.coherent
  exact ⟨descriptor, moved, tracks.coherent.descriptor?_eq, found, inPlace⟩

/-- A flush that stopped after one of two bytes is made up for by the next one. -/
theorem flush_written_in_place_retried :
    ∃ (stream : CachedStream) (opened : Remote) (short final : Attached) (last : Descriptor),
      openStream "a" .readWrite ⟨2, 4⟩ .hesitant = (.ok stream, opened) ∧
      flush (perform (.write [7, 8]) ⟨stream, opened⟩).2 =
        (.error (.remote (.generic (.shortWrite "a" 1 2))), short) ∧
      flush short = (.ok (), final) ∧ final.descriptor? = some last ∧
      last.content = .staged [7, 8, 3] true := by
  have succeeded : openStream "a" .readWrite ⟨2, 4⟩ .hesitant =
      (.ok (fresh ⟨1⟩ "a" ⟨2, 4⟩), (openStream "a" .readWrite ⟨2, 4⟩ .hesitant).2) := rfl
  have visited : Visited ⟨fresh ⟨1⟩ "a" ⟨2, 4⟩, (openStream "a" .readWrite ⟨2, 4⟩ .hesitant).2⟩
      (perform (.write [7, 8]) ⟨fresh ⟨1⟩ "a" ⟨2, 4⟩,
        (openStream "a" .readWrite ⟨2, 4⟩ .hesitant).2⟩).2 := .step .start (by decide)
  obtain ⟨before, after, found, -, inPlace⟩ :=
    flush_written_in_place Remote.honest_hesitant (by decide) succeeded visited
  obtain ⟨-, -, -, retries⟩ := inPlace.of_error (.remote (.generic (.shortWrite "a" 1 2))) rfl
  obtain ⟨last, shown, written⟩ := retries _ _ .start rfl
  refine ⟨_, _, _, _, last, succeeded, rfl, rfl, shown, ?_⟩
  obtain ⟨staged, modified, content, laid⟩ := written.content
  obtain rfl := Option.some.inj found
  obtain ⟨rfl, -⟩ := Content.staged.inj content
  exact laid

end Opened

end CachedStream

end RemoteStreams
