import RemoteStreams.Proofs.Interchange

/-! # Opening to replace

A mode string that begins with `w` opens a stream to write from the start. A local file is emptied
when it is opened, so that in the end it has what was written, whatever it had before. A remote
object is staged as it is: what is written covers its front, and the rest of what it had stays
behind that. Nothing that the stream reports tells the two apart (`RemoteStreams.Streams.writes_over`).
-/

namespace RemoteStreams

namespace Request

/-- The request moves the stream by the bytes that it writes, and by nothing else. -/
def Sequential : Request → Prop
  | write _ _ _ | putByte _ | tell | flush => True
  | read _ _ _ | getByte | seek _ => False

instance : (request : Request) → Decidable request.Sequential
  | write _ _ _ | putByte _ | tell | flush => inferInstanceAs (Decidable True)
  | read _ _ _ | getByte | seek _ => inferInstanceAs (Decidable False)

/-- The bytes that a request is to write. -/
def payload : Request → Bytes
  | write data size count =>
      if size ≠ 0 ∧ size * count ≤ data.length then data.take (size * count) else []
  | putByte byte => [byte]
  | read _ _ _ | getByte | seek _ | tell | flush => []

/-- A stream for writing may be asked to go on writing. -/
theorem Sequential.permitted {request : Request} (sequential : request.Sequential) {mode : OpenMode}
    (writable : mode.writable = true) : request.Permitted mode := by
  cases request with
  | write data size count | putByte byte => exact writable
  | tell | flush => trivial
  | read buffer size count | getByte | seek target => exact sequential.elim

/-- A file for writing may be asked for that too, unless it appends. -/
theorem Sequential.permit {request : Request} (sequential : request.Sequential)
    {options : FileOptions} (writable : options.writable = true) (placed : options.appends = false) :
    options.Permit request.operation := by
  cases request with
  | write data size count | putByte byte => exact ⟨writable, placed⟩
  | tell | flush => trivial
  | read buffer size count | getByte | seek target => exact sequential.elim

end Request

namespace PlainFile

variable {file other : PlainFile} {request : Request} {requests : List Request}

/-- A sequential request lays its bytes over the file. -/
theorem serve_sequential (file : PlainFile) (sequential : request.Sequential) :
    (file.serve request).2 = file.written request.payload := by
  cases request with
  | write data size count =>
      by_cases sized : size = 0
      · simp [serve, Request.payload, sized]
      · by_cases fits : size * count ≤ data.length
        · simp [serve, Request.payload, sized, fits]
        · simp [serve, Request.payload, sized, fits]
  | putByte byte => rfl
  | tell | flush => exact (written_nil file).symm
  | read buffer size count | getByte | seek target => exact sequential.elim

/-- The answer to a sequential request depends on the position alone. -/
theorem serve_answer_eq (same : file.position = other.position) (sequential : request.Sequential) :
    (file.serve request).1 = (other.serve request).1 := by
  cases request with
  | write data size count =>
      simp only [serve]
      split
      · rfl
      · split <;> rfl
  | tell => simp only [serve, same]
  | putByte byte | flush => rfl
  | read buffer size count | getByte | seek target => exact sequential.elim

/-- Sequential requests lay all of their bytes over the file, one behind the other. -/
theorem serveAll_sequential (file : PlainFile)
    (sequential : ∀ request ∈ requests, request.Sequential) :
    (serveAll requests file).2 = file.written (requests.flatMap Request.payload) := by
  induction requests generalizing file with
  | nil => exact (written_nil file).symm
  | cons request rest ih =>
      have first := file.serve_sequential (sequential request List.mem_cons_self)
      have others := ih (file.serve request).2
        fun other member => sequential other (List.mem_cons_of_mem _ member)
      rw [first, ← written_append] at others
      simp only [serveAll, first, others, List.flatMap_cons]

/-- The reports on sequential requests do not depend on what is in the file. -/
theorem serveAll_reports_eq (same : file.position = other.position)
    (sequential : ∀ request ∈ requests, request.Sequential) :
    (serveAll requests file).1 = (serveAll requests other).1 := by
  induction requests generalizing file other with
  | nil => rfl
  | cons request rest ih =>
      have first := sequential request List.mem_cons_self
      have moved : (file.serve request).2.position = (other.serve request).2.position := by
        simp only [serve_sequential _ first, written, same]
      have others := ih moved fun other member => sequential other (List.mem_cons_of_mem _ member)
      simp only [serveAll, serve_answer_eq same first, moved, others]

/-- A file stays in range if all that is written to it ends in range. -/
theorem servesWithin_sequential (sequential : ∀ request ∈ requests, request.Sequential)
    (inRange : file.position + (requests.flatMap Request.payload).length < positionBound) :
    ServesWithin requests file := by
  induction requests generalizing file with
  | nil => exact inRange
  | cons request rest ih =>
      rw [List.flatMap_cons, List.length_append] at inRange
      refine ⟨by omega, ih (fun other member => sequential other (List.mem_cons_of_mem _ member)) ?_⟩
      rw [file.serve_sequential (sequential request List.mem_cons_self)]
      simp only [written]
      omega

/-- What is written at the start covers the front of a file. -/
theorem written_start (content data : Bytes) :
    (written ⟨content, 0⟩ data).content = data ++ content.drop data.length := by
  by_cases empty : data = []
  · simp [written, empty]
  · simp only [written, empty, ↓reduceIte, Bytes.overlay_zero]

end PlainFile

section Modes

variable {mode : String} {rest : List Char}

/-- A mode string that begins with `w` opens an object for writing. -/
theorem OpenMode.parse_empties (empties : mode.toList = 'w' :: rest) : parse mode = .write := by
  simp only [parse, empties]

/-- A local file is opened to be replaced. -/
theorem FileOptions.parse_empties (empties : mode.toList = 'w' :: rest) :
    (parse mode).writable = true ∧ (parse mode).appends = false ∧ (parse mode).creates = true ∧
      (parse mode).truncates = true := by
  simp only [parse, empties, and_self]

end Modes

namespace Streams

variable {streams : Streams} {path name mode : String} {rest : List Char} {requests : List Request}

/-- The stream that `path` names opens, reports on the requests what an empty plain file reports,
and closes. Then `bytes` are what is stored. -/
def Deposits (streams : Streams) (path mode : String) (requests : List Request) (storage : Storage)
    (bytes : Bytes) : Prop :=
  ∃ stream opened closed, openStream path mode streams = (.ok stream, opened) ∧
    (serveAll stream requests opened).1 = (PlainFile.serveAll requests ⟨[], 0⟩).1 ∧
    close stream (serveAll stream requests opened).2 = (.ok (), closed) ∧
    closed.stored? storage = some bytes

/-- The same requests leave the same bytes. -/
theorem Deposits.unique {storage : Storage} {first second : Bytes}
    (one : streams.Deposits path mode requests storage first)
    (other : streams.Deposits path mode requests storage second) : first = second := by
  obtain ⟨stream, opened, closed, opens, -, closes, stored⟩ := one
  obtain ⟨stream', opened', closed', opens', -, closes', stored'⟩ := other
  obtain ⟨same, rfl⟩ := Prod.mk.inj (opens.symm.trans opens')
  obtain rfl := Outcome.ok.inj same
  obtain ⟨-, rfl⟩ := Prod.mk.inj (closes.symm.trans closes')
  exact Option.some.inj (stored.symm.trans stored')

/-- A local file that is opened to be replaced is empty, whatever it had. -/
theorem openStream_emptied {place : Place} (empties : mode.toList = 'w' :: rest)
    (unnamed : streams.settings.objectPath? path = none)
    (located : streams.disk.locate path = .ok place) (plain : ¬Disk.NamesDirectory path)
    (hosts : streams.disk.Hosts place) :
    ∃ file opened, openStream path mode streams = (.ok (.file file), opened) ∧
      opened.disk.OpenAt place (.parse mode) file ⟨[], 0⟩ := by
  obtain ⟨-, -, creates, truncates⟩ := FileOptions.parse_empties empties
  obtain ⟨file, after, opened, isOpen⟩ :=
    Disk.openFile_emptied located plain hosts creates truncates
  exact ⟨file, _, openStream_local unnamed opened, isOpen⟩

section Sequential

variable (empties : mode.toList = 'w' :: rest)
  (sequential : ∀ request ∈ requests, request.Sequential)
  (addressable : ∀ request ∈ requests, request.Addressable)
  (inRange : (requests.flatMap Request.payload).length < PlainFile.positionBound)

include empties sequential addressable inRange

/-- A remote object keeps the bytes that nothing was written over. -/
theorem deposits_object {location : ObjectPath}
    (named : streams.settings.objectPath? path = some name)
    (spelled : ObjectPath.parse name = .ok location) (quiet : streams.remote.faults = ∅)
    (free : streams.table.isFull = false)
    (ordered : streams.settings.sizes.initial ≤ streams.settings.sizes.max)
    (allocatable : streams.settings.sizes.max < Window.allocationBound) {content : Bytes}
    (had : (streams.remote.objects.find? location).getD [] = content) :
    streams.Deposits path mode requests (.object location)
      (requests.flatMap Request.payload ++
        content.drop (requests.flatMap Request.payload).length) := by
  have held : streams.remote.objects.find? location = some content ∨
      OpenMode.write = .write ∧ streams.remote.objects.find? location = none ∧ content = [] := by
    cases present : streams.remote.objects.find? location with
    | none => exact .inr ⟨rfl, rfl, by simpa [present] using had.symm⟩
    | some found => exact .inl (by simpa [present] using had)
  obtain ⟨stream, opened, opens, shows⟩ := openStream_object named
    (OpenMode.parse_empties empties) spelled held (fun reads => by contradiction) quiet free ordered
    allocatable
  obtain ⟨reports, final, near⟩ := shows.serveAll requests
    (PlainFile.servesWithin_sequential sequential (by simpa using inRange))
    (fun request member => (sequential request member).permitted rfl) addressable
  obtain ⟨closed, closes, stored⟩ := final.close near
  refine ⟨.cached stream, opened, closed, opens, ?_, closes, ?_⟩
  · exact reports.trans (PlainFile.serveAll_reports_eq rfl sequential)
  · rw [stored, PlainFile.serveAll_sequential _ sequential, PlainFile.written_start]

/-- A local file has what was written and nothing else. -/
theorem deposits_file {place : Place} (unnamed : streams.settings.objectPath? path = none)
    (located : streams.disk.locate path = .ok place) (plain : ¬Disk.NamesDirectory path)
    (hosts : streams.disk.Hosts place) :
    streams.Deposits path mode requests (.file place) (requests.flatMap Request.payload) := by
  obtain ⟨writable, placed, -⟩ := FileOptions.parse_empties empties
  obtain ⟨file, opened, opens, isOpen⟩ :=
    openStream_emptied empties unnamed located plain hosts
  obtain ⟨reports, final, -⟩ := (simulates_openAt file place (.parse mode)).serveAll requests isOpen
    (PlainFile.servesWithin_sequential sequential (by simpa using inRange))
    (fun request member => (sequential request member).permit writable placed) addressable
  obtain ⟨closed, closes, stored⟩ := close_file final
  refine ⟨.file file, opened, closed, opens, reports, closes, ?_⟩
  rw [stored, PlainFile.serveAll_sequential _ sequential, PlainFile.written_start, List.drop_nil,
    List.append_nil]

end Sequential

/-- What sequential requests leave in a stream whose mode string begins with `w`. A local file has
what they wrote, whatever it had before. A remote object has that followed by what it had beyond it,
and so it has just what they wrote exactly if this was no less than it had. The reports are the same
for both. -/
theorem writes_over {location : ObjectPath} (empties : mode.toList = 'w' :: rest)
    (sequential : ∀ request ∈ requests, request.Sequential)
    (addressable : ∀ request ∈ requests, request.Addressable)
    (inRange : (requests.flatMap Request.payload).length < PlainFile.positionBound)
    (named : streams.settings.objectPath? path = some name)
    (spelled : ObjectPath.parse name = .ok location) (quiet : streams.remote.faults = ∅)
    (free : streams.table.isFull = false)
    (ordered : streams.settings.sizes.initial ≤ streams.settings.sizes.max)
    (allocatable : streams.settings.sizes.max < Window.allocationBound) {written content : Bytes}
    (total : requests.flatMap Request.payload = written)
    (had : (streams.remote.objects.find? location).getD [] = content) :
    streams.Deposits path mode requests (.object location)
        (written ++ content.drop written.length) ∧
      (streams.Deposits path mode requests (.object location) written ↔
        content.length ≤ written.length) ∧
      ∀ localPath place, streams.settings.objectPath? localPath = none →
        streams.disk.locate localPath = .ok place → ¬Disk.NamesDirectory localPath →
        streams.disk.Hosts place → streams.Deposits localPath mode requests (.file place) written := by
  subst total
  have object := deposits_object empties sequential addressable inRange named spelled quiet free
    ordered allocatable had
  refine ⟨object, ⟨fun replaced => ?_, fun covered => ?_⟩,
    fun localPath place unnamed located plain hosts =>
      deposits_file empties sequential addressable inRange unnamed located plain hosts⟩
  · have kept := object.unique replaced
    exact List.drop_eq_nil_iff.mp (List.append_right_eq_self.mp kept)
  · rwa [List.drop_eq_nil_of_le covered, List.append_nil] at object

/-- Four bytes in items of both sizes, over an object and over a file of three bytes. -/
theorem writes_over_covered :
    paired.Deposits "remote:a" "w+" [.write [7, 8] 1 2, .flush, .write [9, 10] 2 1]
        (.object ⟨"a"⟩) [7, 8, 9, 10] ∧
      paired.Deposits "a" "w+" [.write [7, 8] 1 2, .flush, .write [9, 10] 2 1]
        (.file ["a"]) [7, 8, 9, 10] := by
  have empties : "w+".toList = 'w' :: ['+'] := rfl
  have sequential : ∀ request ∈ [.write [7, 8] 1 2, .flush, .write [9, 10] 2 1],
      Request.Sequential request := by decide
  have named : paired.settings.objectPath? "remote:a" = some "a" := rfl
  have hosts : paired.disk.Hosts ["a"] := .inl ⟨[1, 2, 3], rfl⟩
  obtain ⟨-, object, file⟩ := writes_over empties sequential (by decide) (by decide) named rfl rfl
    rfl (by decide) (by decide) rfl rfl
  exact ⟨object.mpr (by decide), file "a" ["a"] rfl rfl (by decide) hosts⟩

/-- One byte over the same object and over the same file. -/
theorem writes_over_short :
    paired.Deposits "remote:a" "w" [.write [9] 1 1] (.object ⟨"a"⟩) [9, 2, 3] ∧
      ¬paired.Deposits "remote:a" "w" [.write [9] 1 1] (.object ⟨"a"⟩) [9] ∧
      paired.Deposits "a" "w" [.write [9] 1 1] (.file ["a"]) [9] := by
  have object : paired.Deposits "remote:a" "w" [.write [9] 1 1] (.object ⟨"a"⟩) [9, 2, 3] :=
    ⟨_, _, _, rfl, rfl, rfl, rfl⟩
  refine ⟨object, fun replaced => ?_, ⟨_, _, _, rfl, rfl, rfl, rfl⟩⟩
  have kept := object.unique replaced
  contradiction

end Streams

end RemoteStreams
