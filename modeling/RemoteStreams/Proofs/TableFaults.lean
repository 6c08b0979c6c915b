import RemoteStreams.Proofs.Opening
import RemoteStreams.Proofs.TableSteps

/-! # The table under faults

Whatever fails, what is done with the streams of a program touches at most one entry of its table
and one object: a stream that is opened gets a free slot, unless it cannot be opened
(`RemoteStreams.Streams.openStream_ends`), and a stream that is served moves on alone
(`RemoteStreams.Streams.serve_ends`).
-/

namespace RemoteStreams

open Remote

namespace Streams

variable {streams : Streams} {path name mode : String}

/-- A remote stream is opened under a free id, or nothing is put into the table. -/
theorem openStream_ends (honest : streams.remote.faults.Honest)
    (ordered : streams.settings.sizes.initial ≤ streams.settings.sizes.max)
    (free : streams.table.isFull = false)
    (named : streams.settings.objectPath? path = some name) (mode : String) :
    ∃ ended, CachedStream.Opening streams.remote name streams.settings.sizes ended ∧
      ((∃ outcome, openStream path mode streams = (outcome, streams.withRemote ended.2) ∧
          (∀ stream, outcome ≠ .ok stream) ∧ (∀ slots, outcome ≠ .error (.tableFull slots)) ∧
          ∀ entry, ended.1 ≠ .ok entry) ∨
        ∃ id entry, openStream path mode streams =
            (.ok (.cached id), streams.withAttached id ⟨entry, ended.2⟩) ∧
          ended.1 = .ok entry ∧ streams.table.find? id = none ∧
          id.slot < streams.table.capacity) := by
  have noted : (streams.remote.noting (.openingStream path mode)).faults.Honest := honest
  rcases Link.connect_ends (streams.remote.noting (.openingStream path mode)) with
    ⟨cause, refused, -⟩ | ⟨linked, connects, session, -, faults⟩
  · have trusted : ((streams.remote.noting (.openingStream path mode)).calling
        .connect).faults.Honest := noted.advance .connect
    refine ⟨(.error (.remote cause), _), .nothing (by simp) (by simp) trusted rfl,
      .inl ⟨.error (.remote cause), ?_, by simp, by simp, by simp⟩⟩
    simp [openStream, Action.bind_apply, note, onRemote_apply, Remote.note, withRemote, named,
      free, ask, Action.mapError, refused]
  · have trusted : linked.faults.Honest := faults ▸ noted.advance .connect
    have opening := CachedStream.openStream_opening trusted name (.parse mode) ordered
    have opened : openStream path mode streams =
        (onRemote (CachedStream.openStream name (.parse mode) streams.settings.sizes) >>=
          fun entry => Stream.cached <$> register entry) (streams.withRemote linked) := by
      simp [openStream, Action.bind_apply, note, onRemote_apply, Remote.note, withRemote, named,
        free, ask, Action.mapError, connects]
    refine ⟨_, .later (by rw [session]; rfl) (by rw [session]; rfl) (fun _ => by rw [session]; rfl)
      (fun _ => trusted) (fun spares => faults ▸ spares.advance .connect) opening, ?_⟩
    rw [opened]
    have room := opening.room
    generalize ends : CachedStream.openStream name (.parse mode) streams.settings.sizes linked =
      ended at room
    obtain ⟨outcome, after⟩ := ended
    cases outcome with
    | ok entry =>
        obtain ⟨id, lowest, vacant, inside⟩ := SlotTable.exists_free free
        refine .inr ⟨id, entry, ?_, rfl, vacant, inside⟩
        simp [Action.bind_apply, Action.map_apply, onRemote_apply, withRemote, ends, register,
          SlotTable.register?, lowest, withTable, withAttached]
    | error cause =>
        refine .inl ⟨.error cause, ?_, by simp, fun slots same => ?_, by simp⟩
        · simp [Action.bind_apply, onRemote_apply, withRemote, ends]
        · exact room slots (by rw [Outcome.error.inj same])
    | broken breach =>
        refine .inl ⟨.broken breach, ?_, by simp, by simp, by simp⟩
        simp [Action.bind_apply, onRemote_apply, withRemote, ends]

/-- Without a free slot nothing is asked of the remote side. -/
theorem openStream_full (full : streams.table.isFull = true)
    (named : streams.settings.objectPath? path = some name) (mode : String) :
    openStream path mode streams = (.error (.tableFull streams.table.capacity),
      streams.withRemote (streams.remote.noting (.openingStream path mode))) := by
  simp [openStream, Action.bind_apply, note, onRemote_apply, Remote.note, withRemote, named, full]

/-- A file is opened on the disk. -/
theorem openStream_unnamed (unnamed : streams.settings.objectPath? path = none) (mode : String) :
    ∃ outcome disk, openStream path mode streams = (outcome,
        (streams.withRemote (streams.remote.noting (.openingStream path mode))).withDisk disk) ∧
      (∀ id, outcome ≠ .ok (.cached id)) ∧ ∀ slots, outcome ≠ .error (.tableFull slots) := by
  simp only [openStream, Action.bind_apply, note, onRemote_apply, Remote.note, Action.modify_apply,
    Action.get_apply, withRemote, unnamed, onDisk_apply]
  generalize Disk.openFile path (.parse mode) streams.disk = ended
  obtain ⟨_ | _ | _, disk⟩ := ended
  · exact ⟨_, disk, rfl, by simp, by simp⟩
  · exact ⟨_, disk, rfl, by simp, by simp⟩
  · exact ⟨_, disk, rfl, by simp, by simp⟩

/-- A request is a step of one stream of the table, or it concerns the disk alone. -/
theorem serve_ends (stream : Stream) (request : Request) (streams : Streams) :
    (∃ disk, (serve stream request streams).2 = streams.withDisk disk) ∧
      (∀ id entry, stream = .cached id → streams.table.find? id = some entry → ¬request.Ready) ∨
    ∃ id entry, stream = .cached id ∧ streams.table.find? id = some entry ∧
      (serve stream request streams).2 = streams.withAttached id
        (CachedStream.perform request.operation ⟨entry, streams.remote⟩).2 := by
  by_cases ready : request.Ready
  · rw [serve_eq stream ready, Action.map_apply]
    cases stream with
    | file file => exact .inl ⟨⟨_, rfl⟩, by simp⟩
    | cached id =>
        cases found : streams.table.find? id with
        | none =>
            refine .inl ⟨⟨streams.disk, by simp [perform, onCached, found, withDisk]⟩, ?_⟩
            rintro _ entry ⟨⟩ there
            simp [found] at there
        | some entry =>
            refine .inr ⟨id, entry, rfl, found, ?_⟩
            rw [perform, onCached_apply found]
  · obtain ⟨-, -, outcome, served, -⟩ := serve_of_not_ready stream ⟨[], 0⟩ ready
    exact .inl ⟨⟨streams.disk, by rw [served]; rfl⟩, fun _ _ _ _ => ready⟩

/-- What is closed is a stream of the table, or it concerns the disk alone. -/
theorem close_ends (stream : Stream) (streams : Streams) :
    (∃ disk, (close stream streams).2 = streams.withDisk disk) ∨
    ∃ id entry, stream = .cached id ∧ streams.table.find? id = some entry := by
  cases stream with
  | file file => exact .inl ⟨_, rfl⟩
  | cached id =>
      cases found : streams.table.find? id with
      | none =>
          refine .inl ⟨streams.disk, ?_⟩
          simp [close, release, Action.bind_apply, found, withDisk]
      | some entry => exact .inr ⟨id, entry, rfl, found⟩

end Streams

end RemoteStreams
