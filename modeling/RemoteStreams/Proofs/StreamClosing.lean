import RemoteStreams.Proofs.Closing
import RemoteStreams.Proofs.ReadOnly

/-! # Closing streams

What a stream leaves behind when it is closed, whatever fails (`RemoteStreams.Attached.Shuts`). Its
object is asked to close once, other objects stay as they are, and if nothing failed the store has
what the stream had left to save.
-/

namespace RemoteStreams

open Remote

theorem CachedStream.session_dropped (stream : CachedStream) (remote : Remote) :
    (stream.dropped remote).session = remote.session := by
  unfold dropped
  split <;> rfl

theorem CachedStream.objects_dropped (stream : CachedStream) (remote : Remote) :
    (stream.dropped remote).objects = remote.objects := by
  unfold dropped
  split <;> rfl

theorem CachedStream.faults_dropped (stream : CachedStream) (remote : Remote) :
    (stream.dropped remote).faults = remote.faults := by
  unfold dropped
  split <;> rfl

theorem CachedStream.calls_dropped (stream : CachedStream) (remote : Remote) :
    (stream.dropped remote).calls = remote.calls := by
  unfold dropped
  split <;> rfl

/-- What an object for writing holds does not depend on the store. -/
theorem Descriptor.Sound.backing?_eq {descriptor : Descriptor} (sound : descriptor.Sound)
    (writable : descriptor.mode.writable = true) (objects objects' : FiniteMap ObjectPath Bytes) :
    descriptor.backing? objects = descriptor.backing? objects' := by
  unfold Descriptor.Sound at sound
  unfold Descriptor.backing?
  split at sound
  · rw [writable] at sound
    contradiction
  · next content => rw [content]

/-- What is to be uploaded is what the object has. -/
theorem Descriptor.backing?_of_uploads {descriptor : Descriptor} {data : Bytes}
    (uploads : descriptor.upload? = some data) (objects : FiniteMap ObjectPath Bytes) :
    descriptor.backing? objects = some data := by
  unfold Descriptor.upload? at uploads
  unfold Descriptor.backing?
  split at uploads
  · next staged content => rw [content, ← uploads]
  all_goals contradiction

namespace Attached

variable {stream : CachedStream} {before after : Remote} {descriptor : Descriptor}
  {attached : Attached}

/-- A stream for writing is coherent wherever its object is served alike. -/
theorem Coherent.elsewhere (coherent : Coherent ⟨stream, before⟩ descriptor)
    (writable : descriptor.mode.writable = true) (serves : after.Serves stream.object descriptor) :
    Coherent ⟨stream, after⟩ descriptor where
  serves := serves
  position := coherent.position
  bounded := coherent.bounded
  limited := coherent.limited
  allocated := coherent.allocated
  reached := coherent.reached
  settled := coherent.settled
  pending := coherent.pending
  mirrored := fun clean backing backed => coherent.mirrored clean backing
    ((coherent.serves.sound.backing?_eq writable _ _).trans backed)

/-- What the store has does not matter to a stream for writing. -/
theorem Coherent.content?_elsewhere (coherent : Coherent ⟨stream, before⟩ descriptor)
    (writable : descriptor.mode.writable = true) (serves : after.Serves stream.object descriptor) :
    content? ⟨stream, after⟩ = content? ⟨stream, before⟩ := by
  rw [(coherent.elsewhere writable serves).content?_eq, coherent.content?_eq,
    serves.sound.backing?_eq writable]

/-- A stream has an open object, and if it is for writing it knows where that stands. -/
structure Sound (attached : Attached) (descriptor : Descriptor) : Prop where
  serves : attached.remote.Serves attached.stream.object descriptor
  numbered : attached.stream.object.number ≤ attached.remote.session.lastNumber
  coherent : descriptor.mode.writable = true →
    attached.Coherent descriptor ∧ 0 < attached.stream.window.limit

/-- What becomes of other objects does not matter to a stream. -/
theorem Sound.framed {touched : ObjectId → Prop} (sound : Sound ⟨stream, before⟩ descriptor)
    (untouched : ¬touched stream.object) (frames : Frames touched before after) :
    Sound ⟨stream, after⟩ descriptor := by
  have serves : after.Serves stream.object descriptor :=
    ⟨frames.connected sound.serves.connected, (frames.others _ untouched).trans sound.serves.found,
      frames.honest sound.serves.honest, sound.serves.sound⟩
  exact ⟨serves, Nat.le_trans sound.numbered frames.numbers, fun writable =>
    (sound.coherent writable).imp_left fun coherent => coherent.elsewhere writable serves⟩

/-- An object is modified exactly if it has something to upload. -/
theorem modified_iff {object : ObjectId} (serves : after.Serves object descriptor) :
    after.Modified object ↔ descriptor.upload? ≠ none := by
  refine ⟨fun modified => ?_, fun uploads => ⟨descriptor, serves, uploads⟩⟩
  obtain ⟨other, served, uploads⟩ := modified
  obtain rfl := Option.some.inj (serves.found.symm.trans served.found)
  exact uploads

/-- Whether a stream has something unsaved depends on it and on its object. -/
theorem unsaved_congr (serves : before.Serves stream.object descriptor)
    (serves' : after.Serves stream.object descriptor) :
    Unsaved ⟨stream, before⟩ ↔ Unsaved ⟨stream, after⟩ :=
  or_congr_right ((modified_iff serves).trans (modified_iff serves').symm)

/-- What is left to upload once a stream was asked to write its window back. -/
structure Returns (attached : Attached) (descriptor moved : Descriptor)
    (ended : Outcome StreamError Unit × Attached) : Prop where
  lasts : ∀ breach, ended.1 ≠ .broken breach
  moves : Moves attached.stream.object attached.remote descriptor ended.2.remote moved
  saved : ended.1 = .ok () → descriptor.mode.writable = true → attached.Unsaved →
    ∃ content, attached.content? = some content ∧ moved.upload? = some content
  kept : ended.1 = .ok () → descriptor.mode.writable = true → ¬attached.Unsaved →
    moved.upload? = none
  quiet : attached.remote.faults = ∅ → descriptor.mode.writable = true → ended.1 = .ok ()

/-- A stream that has nothing unsaved is clean. -/
theorem Coherent.clean (coherent : attached.Coherent descriptor) (saved : ¬attached.Unsaved) :
    attached.stream.dirty = false := by
  cases dirty : attached.stream.dirty with
  | false => rfl
  | true =>
      have held := coherent.pending dirty
      exact (saved (.inl ⟨dirty, Window.occupied_ne_nil.mpr
        ⟨Nat.lt_of_lt_of_le held coherent.extent_le, held⟩⟩)).elim

/-- The flush of a coherent stream returns, and does not change what its user sees. -/
theorem Coherent.returns (coherent : attached.Coherent descriptor)
    (near : attached.stream.here < PlainFile.positionBound) :
    ∃ moved, attached.Returns descriptor moved (CachedStream.flush attached) := by
  rcases CachedStream.flush_cases coherent (coherent.reach_lt near) with
    ⟨remote, moved, wrote, kept⟩ | ⟨cause, synced, remote, moved, failed, kept, -, excuse⟩
  · have moves := kept.advances.moves
    rw [wrote]
    refine ⟨moved, ⟨by simp, moves, fun _ writable unsaved => ?_, fun _ _ saved => ?_,
      fun _ _ => rfl⟩⟩
    · have ended := CachedStream.flush_keeping ⟨⟨rfl, descriptor, coherent.serves⟩, unsaved⟩
      rw [wrote] at ended
      rcases ended with ⟨⟨-, modified⟩, -⟩ | ⟨stops, -⟩
      · have uploads := (modified_iff moves.serves).mp modified
        obtain ⟨content, left⟩ := Option.ne_none_iff_exists'.mp uploads
        refine ⟨content, ?_, left⟩
        rw [← kept.content, kept.advances.coherent.content?_of_clean rfl]
        exact Descriptor.backing?_of_uploads left _
      · exact (stops () rfl).elim
    · rw [CachedStream.flush_of_clean (coherent.clean saved)] at wrote
      obtain rfl := congrArg Attached.remote (Prod.mk.inj wrote).2
      refine Decidable.not_not.mp fun uploads => saved (.inr ?_)
      exact (modified_iff moves.serves).mpr uploads
  · rw [failed]
    refine ⟨moved, ⟨by simp, kept.advances.moves, by simp, by simp, fun quiet writable => ?_⟩⟩
    simp [excuse quiet] at writable

/-- The store has what a stream had left to save, or what it had before if there was nothing. -/
structure Saved (attached : Attached) (location : ObjectPath)
    (objects : FiniteMap ObjectPath Bytes) : Prop where
  content : attached.Unsaved → ∃ content, attached.content? = some content ∧
    objects.find? location = some content
  unchanged : ¬attached.Unsaved →
    objects.find? location = attached.remote.objects.find? location

/-- What a stream has to save determines what is in its place afterwards. -/
theorem Saved.unique {location : ObjectPath} {objects objects' : FiniteMap ObjectPath Bytes}
    (saved : attached.Saved location objects) (saved' : attached.Saved location objects') :
    objects.find? location = objects'.find? location := by
  by_cases unsaved : attached.Unsaved
  · obtain ⟨content, shown, stored⟩ := saved.content unsaved
    obtain ⟨content', shown', stored'⟩ := saved'.content unsaved
    rw [stored, stored', ← shown, ← shown']
  · rw [saved.unchanged unsaved, saved'.unchanged unsaved]

/-- What a stream for writing has to save does not change while others are closed. -/
theorem Saved.earlier {objects : FiniteMap ObjectPath Bytes}
    (sound : Sound ⟨stream, before⟩ descriptor) (writable : descriptor.mode.writable = true)
    (serves : after.Serves stream.object descriptor)
    (same : after.objects.find? descriptor.location = before.objects.find? descriptor.location)
    (saved : Saved ⟨stream, after⟩ descriptor.location objects) :
    Saved ⟨stream, before⟩ descriptor.location objects := by
  have unsaved := unsaved_congr sound.serves serves
  refine ⟨fun modified => ?_, fun clean => (saved.unchanged (mt unsaved.mpr clean)).trans same⟩
  obtain ⟨content, shown, stored⟩ := saved.content (unsaved.mp modified)
  refine ⟨content, ?_, stored⟩
  rw [← shown, (sound.coherent writable).1.content?_elsewhere writable serves]

/-- What closing a stream comes to. -/
structure Shuts (attached : Attached) (descriptor : Descriptor)
    (ended : Outcome StreamError Unit × Remote) : Prop where
  lasts : ∀ breach, ended.1 ≠ .broken breach
  frames : Frames (· = attached.stream.object) attached.remote ended.2
  elsewhere : ∀ place, place ≠ descriptor.location →
    ended.2.objects.find? place = attached.remote.objects.find? place
  calls : ended.2.calls.filter Call.Ends =
    attached.remote.calls.filter Call.Ends ++ [.closeObject attached.stream.object]
  spared : attached.remote.faults.Spares .closeObject → attached.remote.faults.Spares .storePut →
    ended.2.session.descriptors.find? attached.stream.object = none
  saved : ended.1 = .ok () → descriptor.mode.writable = true →
    attached.Saved descriptor.location ended.2.objects
  quiet : attached.remote.faults = ∅ → descriptor.mode.writable = true → ended.1 = .ok ()

/-- The flush of a sound stream returns, be it one for reading. -/
theorem Sound.returns (sound : attached.Sound descriptor)
    (near : attached.stream.here < PlainFile.positionBound) :
    ∃ moved, attached.Returns descriptor moved (CachedStream.flush attached) := by
  cases writable : descriptor.mode.writable with
  | true => exact (sound.coherent writable).1.returns near
  | false =>
      obtain ⟨-, moved, drifts⟩ := (CachedStream.lasting_drifts attached.stream.object
        attached.remote descriptor).flush attached ⟨rfl, descriptor, sound.serves.refl.drifts⟩
      exact ⟨moved, CachedStream.flush_lasts ⟨rfl, descriptor, sound.serves, writable⟩,
        drifts.moves sound.serves.sound writable, fun _ => by simp [writable],
        fun _ => by simp [writable], fun _ => by simp [writable]⟩

/-- An event leaves a stream sound. -/
theorem Sound.noting (sound : attached.Sound descriptor) (event : Event) :
    Sound ⟨attached.stream, attached.remote.noting event⟩ descriptor where
  serves := (sound.serves.noting event).serves
  numbered := sound.numbered
  coherent := fun writable => (sound.coherent writable).imp_left fun coherent =>
    (coherent.keeps_remote (coherent.serves.noting event)).advances.coherent

/-- Writing a window back closes no object. -/
theorem flush_ends (attached : Attached) :
    (CachedStream.flush attached).2.remote.calls.filter Call.Ends =
      attached.remote.calls.filter Call.Ends := by
  have goesOn : Remote.Lasting (fun used => used ≠ .closeObject ∧ used ≠ .disconnect)
      fun after => after.calls.filter Call.Ends = attached.remote.calls.filter Call.Ends :=
    lasting_calls (fun call other => by simpa [Call.Ends] using other) _
  exact ((CachedStream.lasting_of_remote goesOn attached.stream.object (by decide)).flush attached
    ⟨rfl, rfl⟩).2

/-- A flush brings no faults for a primitive that is spared. -/
theorem flush_spares (attached : Attached) {primitive : Primitive}
    (spared : attached.remote.faults.Spares primitive) :
    (CachedStream.flush attached).2.remote.faults.Spares primitive :=
  ((CachedStream.lasting_of_remote (lasting_spares primitive) attached.stream.object
    fun _ _ => trivial).flush attached ⟨rfl, spared⟩).2

/-- A stream is closed once, and if nothing fails the store has what was left to save. -/
theorem Sound.shuts (sound : attached.Sound descriptor)
    (near : attached.stream.here < PlainFile.positionBound) :
    attached.Shuts descriptor (attached.stream.close attached.remote) := by
  obtain ⟨stream, remote⟩ := attached
  have noted := sound.noting (.closingCached stream.path)
  obtain ⟨moved, returns⟩ := noted.returns near
  have called := flush_ends ⟨stream, remote.noting (.closingCached stream.path)⟩
  have spares (primitive : Primitive) (spared : remote.faults.Spares primitive) :=
    flush_spares ⟨stream, remote.noting (.closingCached stream.path)⟩ spared
  generalize flushed : CachedStream.flush ⟨stream, remote.noting (.closingCached stream.path)⟩ =
    result at returns called spares
  obtain ⟨outcome, kept⟩ := result
  have moves := returns.moves
  obtain ⟨ended, closes, left, lasts, goes⟩ :=
    CachedStream.close_ends returns.lasts flushed moves.serves
  have objects : kept.remote.objects = remote.objects := moves.objects
  have located := moves.evolved.location
  have unsaved := unsaved_congr noted.serves sound.serves
  refine
    { lasts
      frames := ?_
      elsewhere := ?_
      calls := ?_
      spared := ?_
      saved := ?_
      quiet := fun still writable => ?_ }
  · rw [left]
    have begun : Frames (· = stream.object) remote
        (remote.noting (.closingCached stream.path)) := .same id rfl
    have dropped : Frames (· = stream.object) ended.2 (kept.stream.dropped ended.2) :=
      .same (by rw [CachedStream.faults_dropped]; exact id) (CachedStream.session_dropped _ _)
    exact begun.trans (moves.drifts.frames.trans (closes.frames.trans dropped))
  · intro place differs
    rw [left, CachedStream.objects_dropped, closes.elsewhere (located ▸ differs), objects]
  · rw [left, CachedStream.calls_dropped, closes.calls, called]
    rfl
  · intro closing putting
    rw [left, CachedStream.session_dropped]
    exact (closes.of_ok (closes.of_spared (spares _ closing) (spares _ putting))).1
  · intro ok writable
    have stored := (closes.of_ok (goes.mp ok).2).2
    rw [left, CachedStream.objects_dropped]
    refine ⟨fun modified => ?_, fun clean => ?_⟩
    · obtain ⟨content, shown, uploads⟩ :=
        returns.saved (goes.mp ok).1 writable (unsaved.mpr modified)
      rw [← located, stored, uploads]
      exact ⟨content, shown, rfl⟩
    · have uploads := returns.kept (goes.mp ok).1 writable (mt unsaved.mp clean)
      rw [← located, stored, uploads, objects]
      rfl
  · have idle (primitive : Primitive) : kept.remote.faults.Spares primitive := by
      rw [moves.quiet still]
      exact FaultPlan.spares_empty primitive
    exact goes.mpr ⟨returns.quiet still writable, closes.of_spared (idle _) (idle _)⟩

end Attached

end RemoteStreams
