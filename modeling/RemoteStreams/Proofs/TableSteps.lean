import RemoteStreams.Proofs.Confinement
import RemoteStreams.Proofs.Interchange

/-! # Steps of the streams in the table

What is done with a stream that is in the table is done by its entry and on the remote side
(`RemoteStreams.Streams.serve_cached`, `RemoteStreams.Streams.close_cached`). What is opened takes
the lowest free slot and the next object, and if it cannot be opened it takes nothing
(`RemoteStreams.Streams.openStream_opens`, `RemoteStreams.Streams.openStream_refuses`). All of it is
stated without faults.
-/

namespace RemoteStreams

open Remote

/-- The session connects and nothing else changes, or the call is refused, which takes a fault. -/
theorem Link.connect_ends (before : Remote) :
    (∃ cause, connect before = (.error cause, before.calling .connect) ∧ before.faults ≠ ∅) ∨
    ∃ after, connect before = (.ok (), after) ∧ after.session = before.session.joined ∧
      after.objects = before.objects ∧ after.faults = before.faults.advance .connect := by
  rcases announce_ends .connect before with ⟨cause, refused⟩ | ⟨fault, passed⟩
  · refine .inl ⟨cause, by simp only [connect, Action.bind_apply, refused], fun quiet => ?_⟩
    rw [announce_quiet quiet] at refused
    simp at refused
  · by_cases online : before.session.connected = true
    · refine .inr ⟨before.calling .connect, ?_, ?_, rfl, rfl⟩
      · simp [connect, Session.connect, Action.bind_apply, passed, calling, online]
      · rw [Session.joined, ← online]
        rfl
    · refine .inr ⟨{ before.calling .connect with
        session := before.session.joined
        log := before.log ++ [.connected] }, ?_, rfl, rfl, rfl⟩
      simp [connect, Session.connect, Action.bind_apply, passed, calling, online,
        modifySession, note, noting, Session.joined]

/-- Without faults the session connects, and nothing else changes. -/
theorem Link.connect_quiet {before : Remote} (quiet : before.faults = ∅) :
    ∃ after, connect before = (.ok (), after) ∧ after.session = before.session.joined ∧
      after.objects = before.objects ∧ after.faults = ∅ := by
  rcases connect_ends before with ⟨cause, -, armed⟩ | ⟨after, connects, session, objects, faults⟩
  · exact (armed quiet).elim
  · exact ⟨after, connects, session, objects, faults.trans (quiet_calling quiet .connect)⟩

/-- Connecting is confined to any object and place. -/
theorem Remote.confined_joined {object : ObjectId} {location : ObjectPath} {before after : Remote}
    (session : after.session = before.session.joined) (objects : after.objects = before.objects)
    (quiet : after.faults = ∅) : Confined object location before after where
  connected := fun _ => session ▸ rfl
  quiet := fun _ => quiet
  truthful := fun truthful => truthful.same (by rw [session]; rfl) objects
  numbers := Nat.le_of_eq (by rw [session]; rfl)
  others := fun other _ _ => by rw [session]; rfl
  elsewhere := fun place _ => by rw [objects]

namespace SlotTable

variable {α : Type} {table : SlotTable α}

/-- The lowest free slot of a table with room. -/
theorem exists_free (room : table.isFull = false) :
    ∃ id, table.lowestFree? = some id ∧ table.find? id = none ∧ id.slot < table.capacity := by
  have vacant : (table.slots.findIdx? Option.isNone).isSome = true := by
    rw [List.findIdx?_isSome]
    simpa [isFull] using room
  obtain ⟨slot, lowest⟩ := Option.isSome_iff_exists.mp vacant
  obtain ⟨inside, free, -⟩ := List.findIdx?_eq_some_iff_getElem.mp lowest
  refine ⟨⟨slot⟩, by simp [lowestFree?, lowest], ?_, inside⟩
  simpa [find?, List.getElem?_eq_getElem inside] using free

/-- A stream that is put into its own slot changes nothing. -/
theorem assign_self {id : StreamId} {entry : α} (found : table.find? id = some entry) :
    table.assign id (some entry) = table := by
  have inside : id.slot < table.slots.length := slot_lt_capacity found
  have same : table.slots[id.slot] = some entry := by
    simpa [find?, List.getElem?_eq_getElem inside] using found
  rw [assign, ← same, List.set_getElem_self]

end SlotTable

namespace Streams

variable {streams : Streams} {id : StreamId} {entry : CachedStream} {path name mode : String}
  {location : ObjectPath} {descriptor : Descriptor}

theorem withAttached_self (found : streams.table.find? id = some entry) :
    streams.withAttached id ⟨entry, streams.remote⟩ = streams := by
  rw [withAttached, SlotTable.assign_self found]

theorem onCached_pure {α : Type} (found : streams.table.find? id = some entry) (value : α) :
    onCached id (pure value) streams = (.ok value, streams) := by
  rw [onCached_apply found, Action.pure_apply, withAttached_self found]

/-- An error is handed through the table as it is. -/
theorem onCached_fail {α : Type} (found : streams.table.find? id = some entry)
    (cause : StreamError) :
    onCached id (.fail cause : StreamAction α) streams = (.error cause, streams) := by
  rw [onCached_apply found, Action.fail_apply, withAttached_self found]

/-- A request to a stream of the table is a step of that stream, and the same step of any other. -/
theorem serve_cached (request : Request) :
    ∃ body : StreamAction Answer, (∀ twins : Twins, twins.InStep body body) ∧
      ∀ {streams : Streams} {id : StreamId} {entry : CachedStream},
        streams.table.find? id = some entry →
          serve (.cached id) request streams = onCached id body streams := by
  by_cases ready : request.Ready
  · refine ⟨request.convert <$> CachedStream.perform request.operation,
      fun twins => (Twins.perform request.operation).map _, fun _ => ?_⟩
    rw [serve_eq _ ready, perform, map_onCached]
  · -- Nothing is transferred, and the answer does not depend on the stream.
    cases request with
    | read buffer size count =>
        by_cases sized : size = 0
        · refine ⟨pure (.filled 0 buffer), fun _ => .pure rfl, fun found => ?_⟩
          simp [serve, read, sized, Action.map_apply, onCached_pure found]
        · have full : ¬size * count ≤ buffer.length := fun fits => ready ⟨sized, fits⟩
          refine ⟨.fail (.shortBuffer (Word.saturate (size * count)) buffer.length),
            fun _ => .fail rfl, fun found => ?_⟩
          simp [serve, read, sized, bytesOfItems, full, Action.map_apply, onCached_fail found]
    | write data size count =>
        by_cases sized : size = 0
        · refine ⟨pure (.accepted 0), fun _ => .pure rfl, fun found => ?_⟩
          simp [serve, write, sized, Action.map_apply, onCached_pure found]
        · have full : ¬size * count ≤ data.length := fun fits => ready ⟨sized, fits⟩
          refine ⟨.fail (.shortBuffer (Word.saturate (size * count)) data.length),
            fun _ => .fail rfl, fun found => ?_⟩
          simp [serve, write, sized, bytesOfItems, full, Action.map_apply, onCached_fail found]
    | _ => exact (ready trivial).elim

/-- A stream of the table leaves it and is closed. -/
theorem close_cached (found : streams.table.find? id = some entry) :
    close (.cached id) streams =
      ((entry.close streams.remote).1,
        (streams.withTable (streams.table.release id)).withRemote
          (entry.close streams.remote).2) := by
  simp [close, release, Action.bind_apply, Action.map_apply, found, onRemote_apply, withTable]

/-- A stream of a remote object is opened over the link, and put into the table. -/
theorem openStream_linked (mode : String) (object : ObjectId) (location : ObjectPath)
    (quiet : streams.remote.faults = ∅) (free : streams.table.isFull = false)
    (named : streams.settings.objectPath? path = some name) :
    ∃ linked, linked.session.connected = true ∧
      linked.session.nextObject = streams.remote.session.nextObject ∧
      linked.objects = streams.remote.objects ∧
      Confined object location streams.remote linked ∧
      openStream path mode streams =
        (onRemote (CachedStream.openStream name (.parse mode) streams.settings.sizes) >>=
          fun entry => Stream.cached <$> register entry) (streams.withRemote linked) := by
  have noted : (streams.remote.noting (.openingStream path mode)).faults = ∅ := quiet
  obtain ⟨linked, connects, session, objects, still⟩ := Link.connect_quiet noted
  refine ⟨linked, by rw [session]; rfl, by rw [session]; rfl, objects,
    (confined_noting _ _).trans (confined_joined session objects still), ?_⟩
  simp [openStream, Action.bind_apply, note, onRemote_apply, Remote.note, withRemote, named, free,
    ask, Action.mapError, connects]

section Opening

variable (quiet : streams.remote.faults = ∅) (truthful : streams.remote.Truthful)
  (ordered : streams.settings.sizes.initial ≤ streams.settings.sizes.max)
  (free : streams.table.isFull = false)
  (named : streams.settings.objectPath? path = some name)
  (spelled : ObjectPath.parse name = .ok location)

include quiet truthful ordered free named spelled

/-- A stream that can be opened takes a free slot and the next object. -/
theorem openStream_opens (opens :
    streams.remote.opening location (.parse mode) streams.settings.sizes = .ok descriptor) :
    ∃ id after, openStream path mode streams = (.ok (.cached id), streams.withAttached id
        ⟨.fresh streams.remote.session.nextObject name streams.settings.sizes, after⟩) ∧
      streams.table.find? id = none ∧ id.slot < streams.table.capacity ∧
      Gains location streams.remote after descriptor ∧
      after.objects.find? location = streams.remote.offers? location (.parse mode) := by
  obtain ⟨linked, online, next, objects, between, opened⟩ :=
    openStream_linked mode streams.remote.session.nextObject location quiet free named
  have same : linked.objects.find? location = streams.remote.objects.find? location := by
    rw [objects]
  obtain ⟨after, answered, gains, stored⟩ := CachedStream.openStream_opens (between.quiet quiet)
    online (between.truthful truthful) ordered spelled (opening_congr same _ _ ▸ opens)
  obtain ⟨id, lowest, vacant, inside⟩ := SlotTable.exists_free free
  refine ⟨id, after, ?_, vacant, inside, .later between next gains, ?_⟩
  · rw [next] at answered
    rw [opened]
    simp [Action.bind_apply, Action.map_apply, onRemote_apply, withRemote, answered, register,
      SlotTable.register?, lowest, withTable, withAttached]
  · rw [stored, offers?, offers?, objects]

/-- A stream that cannot be opened takes nothing. -/
theorem openStream_refuses {cause : StreamError} (refuses :
    streams.remote.opening location (.parse mode) streams.settings.sizes = .error cause) :
    ∃ after, openStream path mode streams = (.error cause, streams.withRemote after) ∧
      Confined streams.remote.session.nextObject location streams.remote after ∧
      after.objects.find? location = streams.remote.offers? location (.parse mode) := by
  obtain ⟨linked, online, next, objects, between, opened⟩ :=
    openStream_linked mode streams.remote.session.nextObject location quiet free named
  have same : linked.objects.find? location = streams.remote.objects.find? location := by
    rw [objects]
  obtain ⟨after, failed, stored, confined⟩ := CachedStream.openStream_refuses (between.quiet quiet)
    online (between.truthful truthful) ordered spelled (opening_congr same _ _ ▸ refuses)
  refine ⟨after, ?_, between.trans (next ▸ confined), ?_⟩
  · rw [opened]
    simp [Action.bind_apply, onRemote_apply, withRemote, failed]
  · rw [stored, offers?, offers?, objects]

end Opening

end Streams

end RemoteStreams
