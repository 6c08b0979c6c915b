import RemoteStreams.Proofs.LocalFiles
import RemoteStreams.Proofs.Runs
import RemoteStreams.Streams.Operations

/-! # Requests

A request is a call on a stream of either kind, in items of some size. A stream
that performs single operations as a plain file does (`RemoteStreams.Streams.Simulates`)
serves every sequence of requests as that file does
(`RemoteStreams.Streams.Simulates.serveAll`). It does so if it shows the file, which
means that this is what its user sees of it (`RemoteStreams.Streams.Shows`), whichever
kind it is.
-/

namespace RemoteStreams

/-- A call on a stream. Transfers count items of a given size. -/
inductive Request where
  | read (buffer : Bytes) (size count : Nat)
  | write (data : Bytes) (size count : Nat)
  | putByte (byte : UInt8)
  | getByte
  | seek (target : SeekTarget)
  | tell
  | flush
deriving DecidableEq, Repr

/-- The answer with its bytes counted in items, and with the rest of the buffer. -/
def Answer.inItems (size : Nat) (rest : Bytes) : Answer → Answer
  | .filled count buffer => .filled (count / size) (buffer ++ rest)
  | .accepted count => .accepted (count / size)
  | answer => answer

namespace Request

/-- The operation that a request comes to. -/
def operation : Request → Operation
  | read buffer size count => .read (buffer.take (size * count))
  | write data size count => .write (data.take (size * count))
  | putByte byte => .putByte byte
  | getByte => .getByte
  | seek target => .seek target
  | tell => .tell
  | flush => .flush

/-- The items of a transfer have a size, and the buffer has room for them. -/
def Ready : Request → Prop
  | read buffer size count => size ≠ 0 ∧ size * count ≤ buffer.length
  | write data size count => size ≠ 0 ∧ size * count ≤ data.length
  | _ => True

/-- The answer to a request, from that of its operation. -/
def convert : Request → Answer → Answer
  | read buffer size count => Answer.inItems size (buffer.drop (size * count))
  | write _ size _ => Answer.inItems size []
  | seek _ => fun _ => .done
  | putByte _ | getByte | tell | flush => id

def Permitted (mode : OpenMode) (request : Request) : Prop := request.operation.Permitted mode

def Addressable : Request → Prop
  | read buffer _ _ => buffer.length < Word.signedBound
  | write data _ _ => data.length < Word.signedBound
  | _ => True

instance (mode : OpenMode) (request : Request) : Decidable (request.Permitted mode) :=
  inferInstanceAs (Decidable (request.operation.Permitted mode))

instance : (request : Request) → Decidable request.Addressable
  | read buffer _ _ => inferInstanceAs (Decidable (buffer.length < Word.signedBound))
  | write data _ _ => inferInstanceAs (Decidable (data.length < Word.signedBound))
  | putByte _ | getByte | seek _ | tell | flush => inferInstanceAs (Decidable True)

/-- The operation of a request is addressable if the request is. -/
theorem Addressable.operation {request : Request} (addressable : request.Addressable) :
    request.operation.Addressable := by
  cases request with
  | read buffer size count => exact Nat.lt_of_le_of_lt (List.length_take_le' _ _) addressable
  | write data size count => exact Nat.lt_of_le_of_lt (List.length_take_le' _ _) addressable
  | _ => trivial

end Request

namespace PlainFile

/-- How a plain file serves a request. Items of no size are no work, and a buffer that
is too small for its items is an error. A buffer keeps what is not read into it. -/
def serve (file : PlainFile) : Request → Outcome Unit Answer × PlainFile
  | .read buffer size count =>
      if size = 0 then (.ok (.filled 0 buffer), file)
      else if size * count ≤ buffer.length then
        let bytes := file.ahead (size * count)
        (.ok (.filled (bytes.length / size) (buffer.overlay 0 bytes)), file.skip bytes.length)
      else (.error (), file)
  | .write data size count =>
      if size = 0 then (.ok (.accepted 0), file)
      else if size * count ≤ data.length then
        (.ok (.accepted count), file.written (data.take (size * count)))
      else (.error (), file)
  | .putByte byte => (.ok (.byte byte), file.written [byte])
  | .getByte => (.ok (.next (file.ahead 1).head?), file.skip (file.ahead 1).length)
  | .seek target =>
      if 0 ≤ file.target target then
        (.ok .done, { file with position := (file.target target).toNat })
      else (.error (), file)
  | .tell => (.ok (.position file.position), file)
  | .flush => (.ok .done, file)

/-- The reports of a sequence of requests, and the file after them. -/
def serveAll : List Request → PlainFile → List Report × PlainFile
  | [], file => ([], file)
  | request :: rest, file =>
      let (answer, after) := file.serve request
      let (reports, final) := serveAll rest after
      ((answer, .ok after.position) :: reports, final)

/-- The file is used at positions in range only. -/
def ServesWithin : List Request → PlainFile → Prop
  | [], file => file.position < positionBound
  | request :: rest, file => file.position < positionBound ∧ ServesWithin rest (file.serve request).2

/-- A file that serves requests within range is in range. -/
theorem ServesWithin.near {requests : List Request} {file : PlainFile}
    (inRange : ServesWithin requests file) : file.position < positionBound := by
  cases requests with
  | nil => exact inRange
  | cons request rest => exact inRange.1

end PlainFile

/-- A request that is ready is served by its operation. -/
theorem PlainFile.serve_eq (file : PlainFile) {request : Request} (ready : request.Ready) :
    file.serve request =
      ((file.perform request.operation).1.map request.convert,
        (file.perform request.operation).2) := by
  cases request with
  | read buffer size count =>
      obtain ⟨sized, fits⟩ := ready
      have room : (buffer.take (size * count)).length = size * count := List.length_take_of_le fits
      have short := length_ahead_le file (size * count)
      simp only [serve, sized, fits, ↓reduceIte, Request.operation, perform, room, Outcome.map_ok,
        Request.convert, Answer.inItems,
        Bytes.overlay_take_append_drop buffer short]
  | write data size count =>
      obtain ⟨sized, fits⟩ := ready
      have room : (data.take (size * count)).length = size * count := List.length_take_of_le fits
      have items : size * count / size = count := Nat.mul_div_cancel_left _ (Nat.pos_of_ne_zero sized)
      simp only [serve, sized, fits, ↓reduceIte, Request.operation, perform, room, Outcome.map_ok,
        Request.convert, Answer.inItems, items]
  | seek target =>
      simp only [serve, Request.operation, perform]
      split <;> rfl
  | _ => rfl

/-- Where the bytes of a stream are kept. -/
inductive Storage where
  | object (location : ObjectPath)
  | file (place : Place)
deriving DecidableEq, Repr

namespace Streams

/-- The bytes that are kept in a storage. -/
def stored? (streams : Streams) : Storage → Option Bytes
  | .object location => streams.remote.objects.find? location
  | .file place =>
      match streams.disk.node? place with
      | some (.file content) => some content
      | some .directory | none => none

/-- One operation of a stream of either kind. -/
def perform (stream : Stream) (operation : Operation) : StreamsAction Answer :=
  match stream with
  | .cached stream => onCached stream (CachedStream.perform operation)
  | .file file => onDisk (Disk.perform file operation)

/-- Serves one request, with the calls that there are for streams of either kind. -/
def serve (stream : Stream) : Request → StreamsAction Answer
  | .read buffer size count =>
      (fun filled => .filled filled.1 filled.2) <$> read stream buffer size count
  | .write data size count => .accepted <$> write stream data size count
  | .putByte byte => .byte <$> putByte stream byte
  | .getByte => .next <$> getByte stream
  | .seek target => (fun _ => .done) <$> seek stream target
  | .tell => .position <$> tell stream
  | .flush => (fun _ => .done) <$> flush stream

/-- The reports of a sequence of requests, and the streams after them. -/
def serveAll (stream : Stream) : List Request → Streams → List Report × Streams
  | [], streams => ([], streams)
  | request :: rest, streams =>
      let (answer, after) := serve stream request streams
      let (reports, final) := serveAll stream rest after
      ((answer.mapError (fun _ => ()), (tell stream after).1.mapError (fun _ => ())) :: reports,
        final)

/-- A stream that was opened in a mode has its bytes in a storage, and its user sees the
plain file `shown`. Nothing stands in its way. -/
inductive Shows (streams : Streams) (mode : OpenMode) (shown : PlainFile) : Stream → Storage → Prop
  | cached {stream : StreamId} {entry : CachedStream} {descriptor : Descriptor}
      {location : ObjectPath} (found : streams.table.find? stream = some entry)
      (coherent : Attached.Coherent ⟨entry, streams.remote⟩ descriptor)
      (steady : Attached.Steady ⟨entry, streams.remote⟩ descriptor)
      (mode_eq : descriptor.mode = mode) (located : descriptor.location = location)
      (faithful : descriptor.Faithful streams.remote.objects)
      (seen : Attached.file? ⟨entry, streams.remote⟩ = some shown) :
      Shows streams mode shown (.cached stream) (.object location)
  | file {file : FileId} {place : Place} (shows : streams.disk.Shows place mode file shown) :
      Shows streams mode shown (.file file) (.file place)

/-- As long as `state` holds of the streams and a plain file, the stream performs the operations
that it is `able` to perform as that file does, and `state` goes on to hold. -/
structure Simulates (stream : Stream) (able : Operation → Prop)
    (state : Streams → PlainFile → Prop) : Prop where
  perform : ∀ {streams shown operation}, state streams shown → able operation →
    operation.Addressable → shown.position < PlainFile.positionBound →
    (shown.perform operation).2.position < PlainFile.positionBound →
    (perform stream operation streams).1.mapError (fun _ => ()) = (shown.perform operation).1 ∧
      state (perform stream operation streams).2 (shown.perform operation).2
  tell : ∀ {streams shown}, state streams shown → shown.position < PlainFile.positionBound →
    (tell stream streams).1.mapError (fun _ => ()) = .ok shown.position

/-- The streams after a step of one cached stream. -/
def withAttached (stream : StreamId) (attached : Attached) (streams : Streams) : Streams :=
  { streams with
    table := streams.table.assign stream (some attached.stream)
    remote := attached.remote }

variable {ε α β : Type} {streams : Streams} {stream : Stream} {mode : OpenMode} {shown : PlainFile}
  {storage : Storage}

/-- What is done on a stream of the table leaves the other streams and the disk alone. -/
theorem onCached_apply {stream : StreamId} {entry : CachedStream}
    (found : streams.table.find? stream = some entry) (body : StreamAction α) :
    onCached stream body streams =
      ((body ⟨entry, streams.remote⟩).1,
        streams.withAttached stream (body ⟨entry, streams.remote⟩).2) := by
  simp only [onCached, found, withAttached]

/-- What is done on the disk leaves the table and the remote side alone. -/
theorem onDisk_apply (body : DiskAction α) (streams : Streams) :
    onDisk body streams =
      ((body streams.disk).1.mapError .io, streams.withDisk (body streams.disk).2) := rfl

/-- It does not matter where something is made of the value, in the stream or outside. -/
theorem map_onCached (convert : α → β) (stream : StreamId) (body : StreamAction α) :
    convert <$> onCached stream body = onCached stream (convert <$> body) := by
  funext streams
  rw [Action.map_apply]
  cases found : streams.table.find? stream with
  | none => simp only [onCached, found, Outcome.map_error]
  | some entry => simp only [onCached_apply found, Action.map_apply]

/-- It does not matter where something is made of the value, on the disk or outside. -/
theorem map_onDisk (convert : α → β) (body : DiskAction α) :
    convert <$> onDisk body = onDisk (convert <$> body) := by
  funext streams
  simp only [Action.map_apply, onDisk_apply]
  cases (body streams.disk).1 <;> rfl

/-- An open file is used as a plain file. -/
theorem simulates_openAt (file : FileId) (place : Place) (options : FileOptions) :
    Simulates (.file file) options.Permit fun streams shown =>
      streams.disk.OpenAt place options file shown where
  perform := fun {streams _ operation} isOpen permitted _ near inRange => by
    obtain ⟨answered, next⟩ := isOpen.perform_apply permitted near inRange
    rw [perform, onDisk_apply]
    refine ⟨?_, next⟩
    rw [← answered]
    cases (Disk.perform _ operation streams.disk).1 <;> rfl
  tell := fun isOpen near => by
    obtain ⟨after, told, -⟩ := isOpen.tell_apply (Nat.lt_trans near (by decide))
    rw [tell, onDisk_apply, told]
    rfl

/-- An operation of a stream is one of the plain file that it shows. -/
theorem Shows.perform (shows : streams.Shows mode shown stream storage) {operation : Operation}
    (permitted : operation.Permitted mode) (addressable : operation.Addressable)
    (near : shown.position < PlainFile.positionBound)
    (inRange : (shown.perform operation).2.position < PlainFile.positionBound) :
    (perform stream operation streams).1.mapError (fun _ => ()) = (shown.perform operation).1 ∧
    (perform stream operation streams).2.Shows mode (shown.perform operation).2 stream storage := by
  cases shows with
  | cached found coherent steady mode_eq located faithful seen =>
      obtain ⟨content, here⟩ := Attached.file?_eq_some_iff.mp seen
      obtain ⟨moved, answers⟩ := CachedStream.perform_answers coherent (here ▸ near) addressable
        (here ▸ Operation.fitsAt_of_inRange inRange)
      rw [← mode_eq] at permitted
      obtain ⟨next, answered⟩ := answers.plain steady permitted shown seen inRange
      have moves := answers.advances.moves
      rw [Streams.perform, onCached_apply found]
      refine ⟨answered, .cached ?_ answers.advances.coherent (answers.steady steady permitted)
        (moves.evolved.mode.trans mode_eq) (moves.evolved.location.trans located)
        (moves.objects ▸ moves.evolved.faithful faithful) next⟩
      exact SlotTable.find?_assign_self (SlotTable.slot_lt_capacity found) _
  | @file file place shows =>
      obtain ⟨answered, next⟩ := (simulates_openAt file place mode.options).perform
        (Disk.shows_iff_openAt.mp shows) permitted.permit addressable near inRange
      exact ⟨answered, .file (Disk.shows_iff_openAt.mpr next)⟩

/-- A stream tells the position of the file that it shows. -/
theorem Shows.tell (shows : streams.Shows mode shown stream storage)
    (near : shown.position < PlainFile.positionBound) :
    (tell stream streams).1.mapError (fun _ => ()) = .ok shown.position := by
  cases shows with
  | cached found coherent steady mode_eq located faithful seen =>
      obtain ⟨content, here⟩ := Attached.file?_eq_some_iff.mp seen
      have fits : shown.position < Word.bound := Nat.lt_trans near (by decide)
      rw [Streams.tell, onCached_apply found, CachedStream.tell_apply (here ▸ fits), ← here]
      rfl
  | @file file place shows =>
      exact (simulates_openAt file place mode.options).tell (Disk.shows_iff_openAt.mp shows) near

/-- A stream is used as the plain file that it shows. -/
theorem simulates_shows (stream : Stream) (mode : OpenMode) (storage : Storage) :
    Simulates stream (·.Permitted mode) fun streams shown =>
      streams.Shows mode shown stream storage where
  perform := fun shows => shows.perform
  tell := fun shows => shows.tell

/-- Reading bytes from a stream of any kind is a read of the stream. -/
theorem map_readBytes (stream : Stream) (buffer : Bytes) :
    (fun filled => .filled filled.1 filled.2) <$> readBytes stream buffer =
      perform stream (.read buffer) := by
  cases stream with
  | cached stream => exact map_onCached _ _ _
  | file file => simp only [readBytes, perform, Disk.perform, bind_pure_comp, Functor.map_map,
      map_onDisk]

/-- Writing bytes to a stream of any kind is a write of the stream. -/
theorem map_writeBytes (stream : Stream) (data : Bytes) :
    .accepted <$> writeBytes stream data = perform stream (.write data) := by
  cases stream with
  | cached stream => exact map_onCached _ _ _
  | file file => simp only [writeBytes, perform, Disk.perform, bind_pure_comp, Functor.map_map,
      map_onDisk]

/-- A request with room for its items is one operation. -/
theorem serve_eq (stream : Stream) {request : Request} (ready : request.Ready) :
    serve stream request = request.convert <$> perform stream request.operation := by
  cases request with
  | read buffer size count =>
      obtain ⟨sized, fits⟩ := ready
      simp only [serve, read, sized, bytesOfItems, fits, ↓reduceIte, Request.operation,
        Request.convert, ← map_readBytes, bind_pure_comp, Functor.map_map, Answer.inItems]
  | write data size count =>
      obtain ⟨sized, fits⟩ := ready
      simp only [serve, write, sized, bytesOfItems, fits, ↓reduceIte, Request.operation,
        Request.convert, ← map_writeBytes, bind_pure_comp, Functor.map_map, Answer.inItems]
  | seek target =>
      cases stream <;> simp only [serve, seek, Request.operation, Request.convert, perform,
        CachedStream.perform, Disk.perform, ← map_onCached, ← map_onDisk, bind_pure_comp,
        Functor.map_map]
  | flush =>
      cases stream with
      | cached stream => simp only [serve, flush, Request.operation, Request.convert, perform,
          CachedStream.perform, ← map_onCached, Functor.map_map, id_eq]
      | file file => rfl
  | _ =>
      cases stream <;> simp only [serve, putByte, getByte, tell, Request.operation,
        Request.convert, perform, CachedStream.perform, Disk.perform, ← map_onCached,
        ← map_onDisk, bind_pure_comp, Functor.map_map, id_eq]

/-- Items of no size or with no room are not transferred, by a plain file or a stream. -/
theorem serve_of_not_ready (stream : Stream) (file : PlainFile) {request : Request}
    (idle : ¬request.Ready) :
    ∃ answer, file.serve request = (answer, file) ∧
      ∃ outcome, serve stream request streams = (outcome, streams) ∧
        outcome.mapError (fun _ => ()) = answer := by
  cases request with
  | read buffer size count =>
      by_cases sized : size = 0
      · simp [PlainFile.serve, serve, read, sized, Action.map_apply]
      · have full : ¬size * count ≤ buffer.length := fun fits => idle ⟨sized, fits⟩
        simp [PlainFile.serve, serve, read, sized, bytesOfItems, full, Action.map_apply]
  | write data size count =>
      by_cases sized : size = 0
      · simp [PlainFile.serve, serve, write, sized, Action.map_apply]
      · have full : ¬size * count ≤ data.length := fun fits => idle ⟨sized, fits⟩
        simp [PlainFile.serve, serve, write, sized, bytesOfItems, full, Action.map_apply]
  | _ => exact (idle trivial).elim

section Simulates

variable {able : Operation → Prop} {state : Streams → PlainFile → Prop}

/-- A stream serves a request as the plain file does. -/
theorem Simulates.serve (simulates : Simulates stream able state) (holds : state streams shown)
    {request : Request} (permitted : able request.operation) (addressable : request.Addressable)
    (near : shown.position < PlainFile.positionBound)
    (inRange : (shown.serve request).2.position < PlainFile.positionBound) :
    (serve stream request streams).1.mapError (fun _ => ()) = (shown.serve request).1 ∧
    state (serve stream request streams).2 (shown.serve request).2 := by
  by_cases ready : request.Ready
  · rw [PlainFile.serve_eq shown ready] at inRange ⊢
    obtain ⟨answered, next⟩ :=
      simulates.perform holds permitted addressable.operation near inRange
    rw [serve_eq stream ready, Action.map_apply]
    refine ⟨?_, next⟩
    rw [← answered]
    cases (Streams.perform stream request.operation streams).1 <;> rfl
  · obtain ⟨answer, kept, outcome, idle, same⟩ := serve_of_not_ready stream shown ready
    rw [kept, idle]
    exact ⟨same, holds⟩

/-- A stream serves every sequence of requests as the plain file does. -/
theorem Simulates.serveAll (simulates : Simulates stream able state) (requests : List Request)
    (holds : state streams shown) (inRange : PlainFile.ServesWithin requests shown)
    (permitted : ∀ request ∈ requests, able request.operation)
    (addressable : ∀ request ∈ requests, request.Addressable) :
    (serveAll stream requests streams).1 = (PlainFile.serveAll requests shown).1 ∧
    state (serveAll stream requests streams).2 (PlainFile.serveAll requests shown).2 ∧
    (PlainFile.serveAll requests shown).2.position < PlainFile.positionBound := by
  induction requests generalizing streams shown with
  | nil => exact ⟨rfl, holds, inRange⟩
  | cons request rest ih =>
      obtain ⟨answered, next⟩ := simulates.serve holds (permitted request List.mem_cons_self)
        (addressable request List.mem_cons_self) inRange.1 inRange.2.near
      obtain ⟨reports, final, last⟩ := ih next inRange.2
        (fun other member => permitted other (List.mem_cons_of_mem _ member))
        (fun other member => addressable other (List.mem_cons_of_mem _ member))
      refine ⟨?_, final, last⟩
      simp only [Streams.serveAll, PlainFile.serveAll, answered,
        simulates.tell next inRange.2.near, reports]

end Simulates

/-- A stream serves every sequence of requests as the plain file that it shows. -/
theorem Shows.serveAll (requests : List Request)
    (shows : streams.Shows mode shown stream storage)
    (inRange : PlainFile.ServesWithin requests shown)
    (permitted : ∀ request ∈ requests, request.Permitted mode)
    (addressable : ∀ request ∈ requests, request.Addressable) :
    (serveAll stream requests streams).1 = (PlainFile.serveAll requests shown).1 ∧
    (serveAll stream requests streams).2.Shows mode (PlainFile.serveAll requests shown).2 stream
      storage ∧
    (PlainFile.serveAll requests shown).2.position < PlainFile.positionBound :=
  (simulates_shows stream mode storage).serveAll requests shows inRange permitted addressable

end Streams

end RemoteStreams
