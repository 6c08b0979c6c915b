import RemoteStreams.Proofs.Requests

/-! # Remote and local streams

A stream on a remote object and a stream on a local file that start with the same
bytes cannot be told apart by the requests that their mode allows, and when both
are closed their bytes are the same (`RemoteStreams.Streams.cached_eq_local`).
This takes a mode string that both kinds read alike (`RemoteStreams.Agreed`), a
free slot in the table and a remote side without faults.
-/

namespace RemoteStreams

/-- The mode strings that mean the same for remote objects and for local files. -/
inductive Agreed (mode : String) : OpenMode → Prop
  | update {rest : List Char} (starts : mode.toList = 'r' :: '+' :: rest) : Agreed mode .readWrite
  | read (single : '+' ∉ mode.toList) (empties : mode.toList.head? ≠ some 'w')
      (appends : mode.toList.head? ≠ some 'a') : Agreed mode .read
  | write {rest : List Char} (starts : mode.toList = 'w' :: rest) (single : '+' ∉ mode.toList) :
      Agreed mode .write

section Agreed

variable {mode : String} {kind : OpenMode}

/-- A mode string that means the same for both opens a remote object for just that. -/
theorem Agreed.openMode_eq (agreed : Agreed mode kind) : OpenMode.parse mode = kind := by
  cases agreed with
  | update starts => simp only [OpenMode.parse, starts]
  | read single empties appends =>
      unfold OpenMode.parse
      split
      · next starts => simp [starts] at single
      · next starts => simp [starts] at empties
      · rfl
  | write starts single => simp only [OpenMode.parse, starts]

/-- It opens a local file with the options that correspond. -/
theorem Agreed.options_eq (agreed : Agreed mode kind) : FileOptions.parse mode = kind.options := by
  cases agreed with
  | update starts =>
      simp only [FileOptions.parse, starts, List.contains_cons, BEq.rfl, Bool.true_or, Bool.or_true]
      rfl
  | read single empties appends =>
      have update : mode.toList.contains '+' = false := by simpa using single
      unfold FileOptions.parse
      rw [update]
      split
      · next starts => simp [starts] at empties
      · next starts => simp [starts] at appends
      · rfl
      · rfl
  | write starts single =>
      have update : mode.toList.contains '+' = false := by simpa using single
      unfold FileOptions.parse
      rw [update, starts]
      rfl

end Agreed

/-- Without faults the session connects, and nothing else changes. -/
theorem Link.connect_apply {remote : Remote} (quiet : remote.faults = ∅) :
    ∃ after, connect remote = (.ok (), after) ∧ after.session.connected = true ∧
      after.faults = ∅ ∧ after.objects = remote.objects ∧
      after.session.sizes = remote.session.sizes := by
  rcases Remote.announce_cases (quiet ▸ FaultPlan.honest_empty) .connect with
    ⟨cause, refused, armed⟩ | ⟨fault, passed, allows⟩
  · exact (armed quiet).elim
  · have called := Remote.quiet_calling quiet .connect
    by_cases connected : remote.session.connected = true
    · refine ⟨remote.calling .connect, ?_, connected, called, rfl, rfl⟩
      simp [connect, Session.connect, Action.bind_apply, passed, Remote.calling, connected]
    · refine ⟨{ remote.calling .connect with
        session := { remote.session with connected := true }
        log := remote.log ++ [.connected] }, ?_, rfl, called, rfl, rfl⟩
      simp [connect, Session.connect, Action.bind_apply, passed, Remote.calling, connected,
        Remote.modifySession, Remote.note, Remote.noting]

/-- A table with room has a lowest free slot. -/
theorem SlotTable.exists_register {α : Type} {table : SlotTable α} (free : table.isFull = false)
    (entry : α) :
    ∃ stream, table.register? entry = some (stream, table.assign stream (some entry)) ∧
      stream.slot < table.capacity := by
  have vacant : (table.slots.findIdx? Option.isNone).isSome = true := by
    rw [List.findIdx?_isSome]
    simpa [isFull] using free
  obtain ⟨slot, lowest⟩ := Option.isSome_iff_exists.mp vacant
  refine ⟨⟨slot⟩, ?_, (List.findIdx?_eq_some_iff_getElem.mp lowest).1⟩
  simp only [register?, lowestFree?, lowest, Option.map_some]

/-- An object can be opened at `location`: there is one that has `content`, or there is none
and an empty one is created. -/
def Remote.Offers (remote : Remote) (location : ObjectPath) (mode : OpenMode)
    (content : Bytes) : Prop :=
  mode ≠ .write ∧ remote.objects.find? location = some content ∨
    mode = .write ∧ remote.objects.find? location = none ∧ content = []

namespace Streams

variable {streams : Streams} {path name mode : String} {kind : OpenMode} {content : Bytes}
  {shown : PlainFile} {stream : Stream} {storage : Storage}

/-- What is done on the remote side leaves the table and the disk alone. -/
theorem onRemote_apply {ε α : Type} (body : Action Remote ε α) (streams : Streams) :
    onRemote body streams =
      ((body streams.remote).1, streams.withRemote (body streams.remote).2) := rfl

/-- A remote object that is there, or that is to be written, opens. -/
theorem openStream_object {location : ObjectPath}
    (named : streams.settings.objectPath? path = some name) (meant : OpenMode.parse mode = kind)
    (spelled : ObjectPath.parse name = .ok location)
    (held : streams.remote.objects.find? location = some content ∨
      kind = .write ∧ streams.remote.objects.find? location = none ∧ content = [])
    (recalls : kind.writable = false → streams.remote.Remembers location)
    (quiet : streams.remote.faults = ∅) (free : streams.table.isFull = false)
    (ordered : streams.settings.sizes.initial ≤ streams.settings.sizes.max)
    (allocatable : streams.settings.sizes.max < Window.allocationBound) :
    ∃ stream opened, openStream path mode streams = (.ok (.cached stream), opened) ∧
      opened.Shows kind ⟨content, 0⟩ (.cached stream) (.object location) := by
  have noted : (streams.remote.noting (.openingStream path mode)).faults = ∅ := quiet
  obtain ⟨linked, connects, connected, still, kept, sizes⟩ := Link.connect_apply noted
  have held' : linked.objects.find? location = some content ∨
      kind = .write ∧ linked.objects.find? location = none ∧ content = [] := by
    rw [kept]
    exact held
  have recalls' : kind.writable = false → linked.Remembers location := by
    intro reads size data remembered present
    rw [sizes] at remembered
    rw [kept] at present
    exact recalls reads size data remembered present
  obtain ⟨object, descriptor, opened, answered, coherent, steady, mode_eq, located, faithful, seen⟩ :=
    CachedStream.openStream_shows connected still spelled held' recalls' ordered allocatable
  obtain ⟨stream, registered, inside⟩ := SlotTable.exists_register free
    (CachedStream.fresh object name streams.settings.sizes)
  refine ⟨stream, streams.withAttached stream
    ⟨CachedStream.fresh object name streams.settings.sizes, opened⟩, ?_,
    .cached (SlotTable.find?_assign_self inside _) coherent steady mode_eq located faithful seen⟩
  simp [openStream, Action.bind_apply, Action.map_apply, note, onRemote_apply, Remote.note,
    withRemote, named, free, ask, Action.mapError, connects, meant, answered, register,
    registered, withTable, withAttached]

/-- A remote object that is offered opens. -/
theorem openStream_cached {location : ObjectPath}
    (named : streams.settings.objectPath? path = some name) (agreed : Agreed mode kind)
    (spelled : ObjectPath.parse name = .ok location)
    (offers : streams.remote.Offers location kind content)
    (remembers : streams.remote.Remembers location) (quiet : streams.remote.faults = ∅)
    (free : streams.table.isFull = false)
    (ordered : streams.settings.sizes.initial ≤ streams.settings.sizes.max)
    (allocatable : streams.settings.sizes.max < Window.allocationBound) :
    ∃ stream opened, openStream path mode streams = (.ok (.cached stream), opened) ∧
      opened.Shows kind ⟨content, 0⟩ (.cached stream) (.object location) :=
  openStream_object named agreed.openMode_eq spelled (offers.imp And.right id) (fun _ => remembers)
    quiet free ordered allocatable

/-- A path without the marker is opened on the disk. -/
theorem openStream_local (unnamed : streams.settings.objectPath? path = none) {file : FileId}
    {after : Disk}
    (opened : Disk.openFile path (FileOptions.parse mode) streams.disk = (.ok file, after)) :
    openStream path mode streams = (.ok (.file file),
      (streams.withRemote (streams.remote.noting (.openingStream path mode))).withDisk after) := by
  simp [openStream, Action.bind_apply, Action.map_apply, note, onRemote_apply, Remote.note,
    withRemote, unnamed, onDisk_apply, opened, withDisk]

/-- A local file that is offered opens. -/
theorem openStream_file {place : Place} (unnamed : streams.settings.objectPath? path = none)
    (agreed : Agreed mode kind) (located : streams.disk.locate path = .ok place)
    (plain : ¬Disk.NamesDirectory path) (offers : streams.disk.Offers place kind content) :
    ∃ file opened, openStream path mode streams = (.ok (.file file), opened) ∧
      opened.Shows kind ⟨content, 0⟩ (.file file) (.file place) := by
  obtain ⟨file, after, opened, shows⟩ := Disk.openFile_apply located plain offers
  exact ⟨file, _, openStream_local unnamed (agreed.options_eq ▸ opened), .file shows⟩

/-- A file that is closed keeps its bytes. -/
theorem close_file {file : FileId} {place : Place} {options : FileOptions}
    (isOpen : streams.disk.OpenAt place options file shown) :
    ∃ after, close (.file file) streams = (.ok (), after) ∧
      after.stored? (.file place) = some shown.content := by
  obtain ⟨after, closed, kept⟩ := isOpen.close_apply
  refine ⟨streams.withDisk after, ?_, ?_⟩
  · simp only [close, onDisk_apply, closed, Outcome.mapError_ok]
  · simp only [stored?, withDisk, kept]

/-- A stream that is closed leaves the bytes of the plain file that it showed. -/
theorem Shows.close (shows : streams.Shows kind shown stream storage)
    (near : shown.position < PlainFile.positionBound) :
    ∃ after, close stream streams = (.ok (), after) ∧
      after.stored? storage = some shown.content := by
  cases shows with
  | @cached stream _ _ _ found coherent steady mode_eq located faithful seen =>
      obtain ⟨content, here⟩ := Attached.file?_eq_some_iff.mp seen
      obtain ⟨closed, finished, stored⟩ := CachedStream.close_apply coherent
        (coherent.reach_lt (here ▸ near)) steady faithful content
      refine ⟨(streams.withTable (streams.table.release stream)).withRemote closed, ?_,
        located ▸ stored⟩
      simp [Streams.close, Action.bind_apply, Action.map_apply, release, found, onRemote_apply,
        withTable, finished]
  | file shows => exact close_file (Disk.shows_iff_openAt.mp shows)

/-- Remote and local streams are interchangeable. With the same bytes to start with and a
mode string that means the same for both, a cached stream and a local file give the same
reports on every sequence of requests, and leave the same bytes when they are closed. -/
theorem cached_eq_local {remotePath localPath : String} {location : ObjectPath} {place : Place}
    {requests : List Request} (agreed : Agreed mode kind)
    (named : streams.settings.objectPath? remotePath = some name)
    (unnamed : streams.settings.objectPath? localPath = none)
    (spelled : ObjectPath.parse name = .ok location)
    (located : streams.disk.locate localPath = .ok place)
    (plain : ¬Disk.NamesDirectory localPath)
    (remoteOffers : streams.remote.Offers location kind content)
    (localOffers : streams.disk.Offers place kind content)
    (remembers : streams.remote.Remembers location) (quiet : streams.remote.faults = ∅)
    (free : streams.table.isFull = false)
    (ordered : streams.settings.sizes.initial ≤ streams.settings.sizes.max)
    (allocatable : streams.settings.sizes.max < Window.allocationBound)
    (permitted : ∀ request ∈ requests, request.Permitted kind)
    (addressable : ∀ request ∈ requests, request.Addressable)
    (inRange : PlainFile.ServesWithin requests ⟨content, 0⟩) :
    ∃ cached file remoteOpened localOpened,
      openStream remotePath mode streams = (.ok (.cached cached), remoteOpened) ∧
      openStream localPath mode streams = (.ok (.file file), localOpened) ∧
      (serveAll (.cached cached) requests remoteOpened).1 =
        (serveAll (.file file) requests localOpened).1 ∧
      ∃ remoteClosed localClosed bytes,
        close (.cached cached) (serveAll (.cached cached) requests remoteOpened).2 =
          (.ok (), remoteClosed) ∧
        close (.file file) (serveAll (.file file) requests localOpened).2 =
          (.ok (), localClosed) ∧
        remoteClosed.stored? (.object location) = some bytes ∧
        localClosed.stored? (.file place) = some bytes := by
  obtain ⟨cached, remoteOpened, remoteOpens, remoteShows⟩ := openStream_cached named agreed spelled
    remoteOffers remembers quiet free ordered allocatable
  obtain ⟨file, localOpened, localOpens, localShows⟩ :=
    openStream_file unnamed agreed located plain localOffers
  obtain ⟨remoteReports, remoteFinal, near⟩ :=
    remoteShows.serveAll requests inRange permitted addressable
  obtain ⟨localReports, localFinal, -⟩ :=
    localShows.serveAll requests inRange permitted addressable
  obtain ⟨remoteClosed, remoteCloses, remoteKept⟩ := remoteFinal.close near
  obtain ⟨localClosed, localCloses, localKept⟩ := localFinal.close near
  exact ⟨cached, file, remoteOpened, localOpened, remoteOpens, localOpens,
    remoteReports.trans localReports.symm, remoteClosed, localClosed, _, remoteCloses, localCloses,
    remoteKept, localKept⟩

/-- One object and one local file with the same bytes, and room for one remote stream. -/
def paired : Streams where
  settings := ⟨"remote:", 1, ⟨2, 4⟩⟩
  table := .create 1
  remote := .create (FiniteMap.empty.insert ⟨"a"⟩ [1, 2, 3]) true
  disk := .create [] (FiniteMap.empty.insert ["a"] (.file [1, 2, 3]))

/-- Two items are written, one is read across the end of the window, and a byte is written
past the end. -/
theorem cached_eq_local_past_end :
    ∃ cached file remoteOpened localOpened,
      openStream "remote:a" "r+" paired = (.ok (.cached cached), remoteOpened) ∧
      openStream "a" "r+" paired = (.ok (.file file), localOpened) ∧
      (serveAll (.cached cached) [.write [7, 8, 9, 10, 11] 2 2, .seek (.current (-3)),
          .read [0, 0, 0] 2 1, .seek (.start 6), .putByte 5] remoteOpened).1 =
        (serveAll (.file file) [.write [7, 8, 9, 10, 11] 2 2, .seek (.current (-3)),
          .read [0, 0, 0] 2 1, .seek (.start 6), .putByte 5] localOpened).1 := by
  have agreed : Agreed "r+" .readWrite := .update rfl
  have named : paired.settings.objectPath? "remote:a" = some "a" := rfl
  have unnamed : paired.settings.objectPath? "a" = none := rfl
  have located : paired.disk.locate "a" = .ok ["a"] := rfl
  have remoteOffers : paired.remote.Offers ⟨"a"⟩ .readWrite [1, 2, 3] := .inl ⟨by decide, rfl⟩
  have localOffers : paired.disk.Offers ["a"] .readWrite [1, 2, 3] := .inl ⟨by decide, rfl⟩
  have remembers : paired.remote.Remembers ⟨"a"⟩ := by
    intro size data remembered
    contradiction
  have inRange : PlainFile.ServesWithin [.write [7, 8, 9, 10, 11] 2 2, .seek (.current (-3)),
      .read [0, 0, 0] 2 1, .seek (.start 6), .putByte 5] ⟨[1, 2, 3], 0⟩ := by
    simp only [PlainFile.ServesWithin]
    decide
  obtain ⟨cached, file, remoteOpened, localOpened, remoteOpens, localOpens, same, -⟩ :=
    cached_eq_local agreed named unnamed rfl located (by decide) remoteOffers localOffers remembers
      rfl rfl (by decide) (by decide) (by decide) (by decide) inRange
  exact ⟨cached, file, remoteOpened, localOpened, remoteOpens, localOpens, same⟩

end Streams

end RemoteStreams
