import RemoteStreams.Proofs.Closing
import RemoteStreams.Proofs.Unsaved

/-! # Streams for reading only

A stream that is opened for reading takes bytes into its window as any other does, but none of them
ever reach the store (`RemoteStreams.CachedStream.readOnly_of_reachable`). They are not lost without
a word either: the stream stays dirty, whatever else it is asked for, and closing it fails.
-/

namespace RemoteStreams

open Remote

/-- An object is open, but not for writing. -/
def Remote.ReadsOnly (remote : Remote) (object : ObjectId) : Prop :=
  ∃ descriptor, remote.Serves object descriptor ∧ descriptor.mode.writable = false

/-- The uploads so far, oldest first. -/
def Remote.puts (remote : Remote) : List Call := remote.calls.filter (·.primitive = .storePut)

/-- The store and the uploads are those of an earlier remote side. -/
def Remote.KeepsStore (before after : Remote) : Prop :=
  after.objects = before.objects ∧ after.puts = before.puts

/-- The store is kept unless something is uploaded. -/
theorem Remote.lasting_keepsStore (before : Remote) :
    Lasting (· ≠ .storePut) before.KeepsStore :=
  (lasting_objects before.objects).both (lasting_calls (fun call other => by simpa using other) _)

section Refusing

variable {object : ObjectId} {descriptor : Descriptor} {before : Remote}

/-- An object that is not for writing refuses every write. -/
theorem Session.writeObject_refused (serves : before.Serves object descriptor)
    (readOnly : descriptor.mode.writable = false) (data : Bytes) :
    writeObject object data before = (.error (.generic (.notWritable object)), before) := by
  simp [writeObject, Action.bind_apply, descriptor_apply serves, readOnly]

/-- It does so through the link, even if the call meets a fault. -/
theorem Link.writeObject_refused (serves : before.Serves object descriptor)
    (readOnly : descriptor.mode.writable = false) (data : Bytes) :
    ∃ cause after, writeObject object data before = (.error cause, after) := by
  have called := serves.calling (.writeObject object data)
  rcases announce_ends (.writeObject object data) before with ⟨cause, refused⟩ | ⟨fault, passed⟩
  · exact ⟨cause, before.calling (.writeObject object data), by
      simp only [writeObject, Action.bind_apply, refused]⟩
  · exact ⟨.generic (.notWritable object), before.calling (.writeObject object data), by
      simp only [writeObject, Action.bind_apply, passed,
        Session.writeObject_refused called.serves readOnly]⟩

end Refusing

namespace CachedStream

variable {attached after : Attached} {object : ObjectId}

/-- An object that is for reading only stays so while it is used. -/
theorem lasting_readsOnly (object : ObjectId) : Lasting object (·.ReadsOnly object) :=
  .of_drifts fun ⟨_, serves, readOnly⟩ further =>
    have ⟨final, drifts⟩ := further serves
    ⟨final, drifts.serves, drifts.drifted.mode ▸ readOnly⟩

theorem opens_of_readsOnly (reads : On object (·.ReadsOnly object) attached) :
    On object (·.Opens object) attached :=
  ⟨reads.1, reads.2.imp fun _ serves => serves.1⟩

/-- What was taken by a stream for reading is in its window. -/
theorem Keeping.dirty (keeping : Keeping object attached)
    (reads : On object (·.ReadsOnly object) attached) : attached.stream.dirty = true := by
  rcases keeping.unsaved with ⟨dirty, -⟩ | ⟨descriptor, serves, uploads⟩
  · exact dirty
  · obtain ⟨same, served, readOnly⟩ := reads.2
    rw [reads.1] at serves
    obtain rfl := Option.some.inj (serves.found.symm.trans served.found)
    exact (uploads (serves.sound.upload?_of_read readOnly)).elim

/-- A dirty window cannot be written back. -/
theorem flush_refused (reads : On object (·.ReadsOnly object) attached)
    (dirty : attached.stream.dirty = true) :
    ∃ cause after, flush attached = (.error cause, after) := by
  obtain ⟨rfl, descriptor, serves, readOnly⟩ := reads
  have refused : ∀ middle : Attached, On attached.stream.object
      (·.ReadsOnly attached.stream.object) middle →
        ∃ cause after, writeBack middle = (.error cause, after) := by
    rintro ⟨stream, remote⟩ ⟨same, moved, serving, reading⟩
    rw [← same] at serving
    obtain ⟨cause, after, failed⟩ :=
      Link.writeObject_refused serving reading stream.window.occupied
    exact ⟨.remote cause, ⟨stream, after⟩, by
      simp [writeBack, Action.bind_apply, ask_apply, failed]⟩
  have flushed : flush attached = (rewindObject >>= fun _ => writeBack) attached := by
    simp [flush, Action.bind_apply, dirty]
  rw [flushed, Action.bind_apply]
  by_cases here : attached.stream.synced = 0
  · have idle : rewindObject attached = (.ok (), attached) := by
      simp [rewindObject, Action.bind_apply, here]
    rw [idle]
    exact refused attached ⟨rfl, descriptor, serves, readOnly⟩
  · rcases Link.seekObject_cases serves (.start attached.stream.base) with
      ⟨position, remote, sought, -, moves⟩ | ⟨cause, remote, failed, -⟩
    · have rewound : rewindObject attached =
          (.ok (), ⟨attached.stream.syncedTo 0, remote⟩) := by
        simp [rewindObject, Action.bind_apply, here, ask_apply, sought, syncedTo]
      rw [rewound]
      exact refused _ ⟨rfl, _, moves.serves, readOnly⟩
    · exact ⟨.remote cause, ⟨attached.stream, remote⟩, by
        simp [rewindObject, Action.bind_apply, here, ask_apply, failed]⟩

/-- A flush of such a stream is refused, but not abandoned. -/
theorem flush_lasts (reads : On object (·.ReadsOnly object) attached) (breach : Breach) :
    (flush attached).1 ≠ .broken breach := by
  cases dirty : attached.stream.dirty with
  | false =>
      rw [flush_of_clean dirty]
      simp
  | true =>
      obtain ⟨cause, after, failed⟩ := flush_refused reads dirty
      rw [failed]
      simp

/-- Bytes that go past the window of a stream for reading are taken all at once or not at all. -/
theorem writePastWindow_whole {rest : Bytes} {count : Nat}
    (reads : On object (·.ReadsOnly object) attached)
    (wrote : writePastWindow rest attached = (.ok count, after)) : count = rest.length := by
  have lasting := lasting_readsOnly object
  obtain ⟨flushed, rebased, flushes, rebases, ends⟩ := writePastWindow_eq_ok wrote
  have on := lasting.flush attached reads
  rw [flushes] at on
  replace on := lasting.rebase flushed on
  rw [rebases] at on
  obtain ⟨same : rebased.stream.object = object, reading⟩ := on
  rcases ends with whole | ⟨-, around, asked⟩
  · exact whole
  · obtain ⟨descriptor, serves, readOnly⟩ :=
      lasting.noting rebased.remote (.writeBypasses rebased.stream.path rest.length) reading
    obtain ⟨cause, _, refused⟩ := Link.writeObject_refused serves readOnly rest
    simp [ask_apply, same, refused] at asked

/-- A write to a stream for reading that goes through takes a byte. -/
theorem write_ne_zero {data : Bytes} (reads : On object (·.ReadsOnly object) attached)
    (present : data ≠ []) : (write data attached).1 ≠ .ok 0 := by
  intro none
  have wrote : write data attached = (.ok 0, (write data attached).2) := Prod.ext none rfl
  have some := List.length_pos_iff.mpr present
  unfold write at wrote
  rw [if_neg present] at wrote
  obtain ⟨cached, put, puts, wrote⟩ := Action.bind_eq_ok_iff.mp wrote
  rw [onWindow_apply, Prod.mk.injEq] at puts
  obtain ⟨-, rfl⟩ := puts
  rw [Action.bind_apply, modify_apply] at wrote
  dsimp only at wrote
  rw [Action.ite_apply] at wrote
  split at wrote
  · simp only [Action.pure_apply, Prod.mk.injEq, Outcome.ok.injEq] at wrote
    omega
  · by_cases empty : cached = 0
    · subst empty
      have past := writeRest_zero wrote
      have all := writePastWindow_whole (by exact ⟨reads.1, reads.2⟩) past
      simp only [List.drop_zero] at all
      omega
    · exact Nat.ne_of_gt (writeRest_pos (Nat.pos_of_ne_zero empty) wrote) rfl

variable {remote opened : Remote} {path : String} {sizes : BufferSizes} {stream : CachedStream}

/-- No stream is opened with a window that starts out larger than it may grow. -/
theorem ordered_of_openStream {mode : OpenMode}
    (succeeded : openStream path mode sizes remote = (.ok stream, opened)) :
    sizes.initial ≤ sizes.max := by
  obtain ⟨_, noted, -, succeeded⟩ := Action.bind_eq_ok_iff.mp succeeded
  obtain ⟨object, between, -, succeeded⟩ := Action.bind_eq_ok_iff.mp succeeded
  obtain ⟨granted, asked, -, succeeded⟩ := Action.bind_eq_ok_iff.mp succeeded
  by_cases reversed : sizes.max < sizes.initial
  · rw [Window.create, if_pos reversed] at succeeded
    simp at succeeded
  · exact Nat.le_of_not_lt reversed

/-- Nothing is created for a stream for reading. -/
theorem openStream_readOnly (honest : remote.faults.Honest)
    (succeeded : openStream path .read sizes remote = (.ok stream, opened)) :
    On stream.object (·.ReadsOnly stream.object) ⟨stream, opened⟩ ∧ remote.KeepsStore opened := by
  obtain ⟨descriptor, coherent, mode, -⟩ :=
    coherent_of_openStream honest (ordered_of_openStream succeeded) succeeded
  refine ⟨⟨rfl, descriptor, coherent.serves, by rw [mode]; rfl⟩, ?_⟩
  have lasting := lasting_keepsStore remote
  obtain ⟨_, noted, notes, succeeded⟩ := Action.bind_eq_ok_iff.mp succeeded
  obtain ⟨object, between, opens, succeeded⟩ := Action.bind_eq_ok_iff.mp succeeded
  obtain ⟨granted, asked, asks, succeeded⟩ := Action.bind_eq_ok_iff.mp succeeded
  have found : Action.Maintains remote.KeepsStore (openOrCreate path .read) := by
    refine .bind (.attempt (Link.maintains_openObject lasting (by decide) (by decide) (by decide)
      path .read)) fun answer => ?_
    split
    · exact .pure _
    · rw [if_neg (by decide)]
      exact .fail _
    · exact .fail _
  have start : remote.KeepsStore noted := by
    obtain ⟨-, rfl⟩ := Prod.mk.inj notes
    exact ⟨rfl, rfl⟩
  have final := found.mapError StreamError.remote noted start
  rw [opens] at final
  replace final := lasting.requesting (by decide) between final
  obtain ⟨-, rfl⟩ : _ ∧ between.requesting = asked := by simpa using asks
  generalize Window.create sizes.initial sizes.max granted = made at succeeded
  cases made with
  | ok window =>
      obtain ⟨-, rfl⟩ := Prod.mk.inj succeeded
      exact final
  | error cause =>
      obtain ⟨_, _, -, failed⟩ := Action.bind_eq_ok_iff.mp succeeded
      simp at failed
  | broken breach => simp at succeeded

/-- A stream that goes away stores nothing. -/
theorem keepsStore_dropped {before : Remote} (kept : before.KeepsStore remote)
    (stream : CachedStream) : before.KeepsStore (stream.dropped remote) := by
  unfold dropped
  split
  · exact kept
  · exact kept

/-- Closing a stream for reading stores nothing, and fails if the window still holds bytes that it
took. -/
theorem close_readOnly (reads : On attached.stream.object (·.ReadsOnly attached.stream.object)
    attached) :
    attached.remote.KeepsStore (close attached.stream attached.remote).2 ∧
      (attached.stream.dirty = true →
        ∃ cause, (close attached.stream attached.remote).1 = .error cause) := by
  have begun : On attached.stream.object (·.ReadsOnly attached.stream.object)
      ⟨attached.stream, attached.remote.noting (.closingCached attached.stream.path)⟩ :=
    ⟨rfl, (lasting_readsOnly _).noting _ _ reads.2⟩
  have lasting := lasting_of_remote (lasting_keepsStore attached.remote) attached.stream.object
    (by decide)
  have kept := lasting.flush ⟨attached.stream, attached.remote.noting
    (.closingCached attached.stream.path)⟩ ⟨rfl, rfl, rfl⟩
  have served := (lasting_readsOnly _).flush _ begun
  have lasts := flush_lasts begun
  generalize flushed : flush ⟨attached.stream, attached.remote.noting
    (.closingCached attached.stream.path)⟩ = result at kept served lasts
  obtain ⟨outcome, after⟩ := result
  obtain ⟨-, descriptor, serves, readOnly⟩ := served
  obtain ⟨ended, closes, left, whole, goes⟩ := close_ends lasts flushed serves
  obtain ⟨objects, calls⟩ := closes.unchanged (serves.sound.upload?_of_read readOnly)
  refine ⟨?_, fun dirty => ?_⟩
  · rw [left]
    refine keepsStore_dropped ⟨objects.trans kept.2.1, ?_⟩ after.stream
    rw [puts, calls, List.filter_append]
    simpa [puts, Call.primitive] using kept.2.2
  · obtain ⟨cause, _, refused⟩ := flush_refused begun dirty
    generalize (close attached.stream attached.remote).1 = answer at whole goes ⊢
    obtain _ | cause | breach := answer
    · rw [flushed] at refused
      obtain ⟨rfl, -⟩ := Prod.mk.inj refused
      simp at goes
    · exact ⟨cause, rfl⟩
    · exact (whole breach rfl).elim

/-- Whatever is done with a stream for reading, and however its remote side fails, as long as it
does so honestly, nothing is uploaded and the store stays as it was: when the stream is used, and
when it is dropped or closed. Once it took bytes from its user it stays dirty and cannot be closed
without an error. -/
theorem readOnly_of_reachable (honest : remote.faults.Honest)
    (succeeded : openStream path .read sizes remote = (.ok stream, opened))
    (reached : Reachable ⟨stream, opened⟩ attached) :
    remote.KeepsStore attached.remote ∧
    remote.KeepsStore (attached.stream.dropped attached.remote) ∧
    remote.KeepsStore (close attached.stream attached.remote).2 ∧
    ∀ operation, (perform operation attached).1.Took →
      ∀ later, Reachable (perform operation attached).2 later →
        later.stream.dirty = true ∧
        ∃ cause, (close later.stream later.remote).1 = .error cause := by
  obtain ⟨reads, kept⟩ := openStream_readOnly honest succeeded
  have reading := (lasting_readsOnly _).reachable reached reads
  have used := (lasting_of_remote (lasting_keepsStore remote) stream.object
    (by decide)).reachable reached ⟨rfl, kept⟩
  have closing := (close_readOnly (reading.1 ▸ reading)).1
  refine ⟨used.2, keepsStore_dropped used.2 _, ⟨closing.1.trans used.2.1, closing.2.trans used.2.2⟩,
    fun operation took later further => ?_⟩
  have taken := perform_took (opens_of_readsOnly reading)
    (fun byte _ => write_ne_zero reading (by simp)) took
  have keeping : Keeping stream.object later := by
    induction further with
    | start => exact taken
    | step _ _ _ before => exact perform_keeping _ _ before
  have onwards := (lasting_readsOnly _).reachable further
    ((lasting_readsOnly _).perform operation _ reading)
  have dirty := keeping.dirty onwards
  exact ⟨dirty, (close_readOnly (onwards.1 ▸ onwards)).2 dirty⟩

/-- A byte that a stream for reading took cannot be left behind by a seek, nor by closing it. -/
theorem readOnly_of_reachable_seek :
    ∃ (stream : CachedStream) (opened : Remote) (cause : StreamError),
      openStream "a" .read ⟨2, 4⟩ .hesitant = (.ok stream, opened) ∧
      (perform (.write [7]) ⟨stream, opened⟩).1 = .ok (.accepted 1) ∧
      (run [.write [7], .seek (.start 3)] ⟨stream, opened⟩).2.stream.dirty = true ∧
      (close (run [.write [7], .seek (.start 3)] ⟨stream, opened⟩).2.stream
        (run [.write [7], .seek (.start 3)] ⟨stream, opened⟩).2.remote).1 = .error cause ∧
      Remote.hesitant.KeepsStore (close stream opened).2 := by
  have succeeded : openStream "a" .read ⟨2, 4⟩ .hesitant =
      (.ok (fresh ⟨1⟩ "a" ⟨2, 4⟩), (openStream "a" .read ⟨2, 4⟩ .hesitant).2) := rfl
  obtain ⟨-, -, closed, lost⟩ :=
    readOnly_of_reachable Remote.honest_hesitant succeeded .start
  have took : (perform (.write [7]) ⟨fresh ⟨1⟩ "a" ⟨2, 4⟩,
      (openStream "a" .read ⟨2, 4⟩ .hesitant).2⟩).1.Took := ⟨.accepted 1, rfl, Nat.one_pos⟩
  have sought : Reachable (perform (.write [7]) ⟨fresh ⟨1⟩ "a" ⟨2, 4⟩,
        (openStream "a" .read ⟨2, 4⟩ .hesitant).2⟩).2
      (perform (.seek (.start 3)) (perform (.write [7]) ⟨fresh ⟨1⟩ "a" ⟨2, 4⟩,
        (openStream "a" .read ⟨2, 4⟩ .hesitant).2⟩).2).2 :=
    .step .start (by decide) (by decide)
  obtain ⟨dirty, cause, refused⟩ := lost _ took _ sought
  exact ⟨_, _, cause, succeeded, rfl, dirty, refused, closed⟩

end CachedStream

end RemoteStreams
