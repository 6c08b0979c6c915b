import RemoteStreams.Disk
import RemoteStreams.Proofs.Operations

/-! # Local files

An open file on the disk is a plain file (`RemoteStreams.Disk.OpenAt.perform_apply`),
as long as it was opened for what it is asked for and its positions stay in range.
-/

namespace RemoteStreams

/-- The options with which a file is opened for what a remote object is opened for in a mode. -/
def OpenMode.options (mode : OpenMode) : FileOptions where
  readable := mode.readable
  writable := mode.writable
  appends := false
  creates := mode = .write
  truncates := mode = .write

/-- What a file that was opened with these options may be asked for. One that appends does
not write at its position. -/
def FileOptions.Permit (options : FileOptions) : Operation → Prop
  | .read _ | .getByte => options.readable = true
  | .write _ | .putByte _ => options.writable = true ∧ options.appends = false
  | .seek _ | .tell | .flush => True
  | .remotePosition => False

/-- What a mode permits is permitted by its options. -/
theorem Operation.Permitted.permit {mode : OpenMode} {operation : Operation}
    (permitted : operation.Permitted mode) : mode.options.Permit operation := by
  cases operation with
  | write data | putByte byte => exact ⟨permitted, rfl⟩
  | _ => exact permitted

namespace Disk

/-- One operation of an open file, which is its own object and holds nothing back. -/
def perform (file : FileId) : Operation → DiskAction Answer
  | .read buffer =>
      (fun bytes => .filled bytes.length (buffer.overlay 0 bytes)) <$> read file buffer.length
  | .write data => (fun _ => .accepted data.length) <$> write file data
  | .putByte byte => (fun _ => .byte byte) <$> write file [byte]
  | .getByte => (fun bytes => .next bytes.head?) <$> read file 1
  | .seek target => .position <$> seek file target
  | .tell | .remotePosition => .position <$> tell file
  | .flush => pure .done

/-- An open file is at `place`, opened with `options`, and is the plain file `shown`. -/
structure OpenAt (disk : Disk) (place : Place) (options : FileOptions) (file : FileId)
    (shown : PlainFile) : Prop where
  opened : disk.openFiles.find? file = some ⟨place, shown.position, options⟩
  held : disk.node? place = some (.file shown.content)

/-- An open file is at `place`, opened as for `mode`, and is the plain file `shown`. -/
structure Shows (disk : Disk) (place : Place) (mode : OpenMode) (file : FileId)
    (shown : PlainFile) : Prop where
  opened : disk.openFiles.find? file = some ⟨place, shown.position, mode.options⟩
  held : disk.node? place = some (.file shown.content)

/-- The disk with another position of an open file. -/
def moved (disk : Disk) (file : FileId) (openFile : OpenFile) : Disk :=
  { disk with openFiles := disk.openFiles.insert file openFile }

variable {disk : Disk} {place : Place} {mode : OpenMode} {options : FileOptions} {file : FileId}
  {shown : PlainFile}

/-- To show a plain file means to be open at its place with the options of the mode. -/
theorem shows_iff_openAt :
    disk.Shows place mode file shown ↔ disk.OpenAt place mode.options file shown :=
  ⟨fun shows => ⟨shows.opened, shows.held⟩, fun isOpen => ⟨isOpen.opened, isOpen.held⟩⟩

/-- A file is moved without an error. -/
theorem moveTo_apply (disk : Disk) (file : FileId) (openFile : OpenFile) (position : Nat) :
    moveTo file openFile position disk = (.ok (), disk.moved file { openFile with position }) :=
  rfl

/-- What is put at a place is found there, unless this is one of the directories above home. -/
theorem node?_assign (outside : ¬place.isPrefixOf disk.home = true) (node : Node) :
    (disk.assign place node).node? place = some node := by
  simp only [node?, assign, outside, Bool.false_eq_true, ↓reduceIte]
  exact FiniteMap.find?_insert_self _ _ _

/-- No open file is one of these. -/
theorem OpenAt.outside (isOpen : disk.OpenAt place options file shown) :
    ¬place.isPrefixOf disk.home = true := by
  intro within
  have held := isOpen.held
  simp [node?, within] at held

theorem OpenAt.find_apply (isOpen : disk.OpenAt place options file shown) :
    find file disk = (.ok ⟨place, shown.position, options⟩, disk) := by
  simp [find, Action.bind_apply, isOpen.opened]

theorem OpenAt.content_apply (isOpen : disk.OpenAt place options file shown) :
    content place disk = (.ok shown.content, disk) := by
  simp [content, Action.bind_apply, isOpen.held]

/-- It stays open when it is moved. -/
theorem OpenAt.moved (isOpen : disk.OpenAt place options file shown) (position : Nat) :
    (disk.moved file ⟨place, position, options⟩).OpenAt place options file
      { shown with position } :=
  ⟨FiniteMap.find?_insert_self _ _ _, isOpen.held⟩

/-- A read delivers the bytes ahead and moves the position behind them. -/
theorem OpenAt.read_apply (isOpen : disk.OpenAt place options file shown)
    (readable : options.readable = true) (count : Nat) :
    ∃ after, read file count disk = (.ok (shown.ahead count), after) ∧
      after.OpenAt place options file (shown.skip (shown.ahead count).length) := by
  by_cases none : count = 0
  · have empty : shown.ahead 0 = [] := Bytes.slice_self _ _
    refine ⟨disk, ?_, ?_⟩
    · simp [read, Action.bind_apply, isOpen.find_apply, none, empty]
    · rw [none, empty]
      exact isOpen
  · refine ⟨_, ?_, isOpen.moved _⟩
    simp [read, Action.bind_apply, Action.map_apply, isOpen.find_apply, none, readable,
      isOpen.content_apply, moveTo_apply, PlainFile.ahead]

/-- A write takes all of its data, unless the file would grow past what a disk can address. -/
theorem OpenAt.write_apply (isOpen : disk.OpenAt place options file shown)
    (writable : options.writable = true) (placed : options.appends = false) {data : Bytes}
    (inRange : (shown.written data).position < Word.signedBound) :
    ∃ after, write file data disk = (.ok (), after) ∧
      after.OpenAt place options file (shown.written data) := by
  by_cases empty : data = []
  · refine ⟨disk, ?_, ?_⟩
    · simp [write, Action.bind_apply, isOpen.find_apply, empty]
    · rw [empty, PlainFile.written_nil]
      exact isOpen
  · have fits : ¬Word.signedBound ≤ shown.position + data.length := Nat.not_le.mpr inRange
    have stored : ((disk.assign place (.file (shown.content.overlay shown.position data))).moved
        file ⟨place, shown.position + data.length, options⟩).OpenAt place options file
          (shown.written data) := by
      refine ⟨FiniteMap.find?_insert_self _ _ _, ?_⟩
      have held := node?_assign isOpen.outside
        (.file (shown.content.overlay shown.position data))
      simp only [PlainFile.written, empty, ↓reduceIte]
      exact held
    refine ⟨_, ?_, stored⟩
    simp [write, Action.bind_apply, isOpen.find_apply, empty, writable, placed, isOpen.content_apply,
      fits, moveTo_apply]

/-- A seek goes where it was asked to go, unless that is before the start of the file. -/
theorem OpenAt.seek_apply (isOpen : disk.OpenAt place options file shown) (target : SeekTarget)
    (inRange : shown.target target < (Word.signedBound : Int)) :
    seek file target disk =
      if 0 ≤ shown.target target then
        (.ok (shown.target target).toNat,
          disk.moved file ⟨place, (shown.target target).toNat, options⟩)
      else (.error .invalidArgument, disk) := by
  have length : disk.length place = shown.content.length := by
    simp only [length, isOpen.held]
  cases target with
  | _ =>
      simp only [PlainFile.target] at inRange ⊢
      simp only [seek, Action.bind_apply, isOpen.find_apply, Action.get_apply, length, inRange,
        and_true, Action.ite_apply]
      rfl

/-- The position of an open file is that of the plain file. -/
theorem OpenAt.tell_apply (isOpen : disk.OpenAt place options file shown)
    (inRange : shown.position < Word.signedBound) :
    ∃ after, tell file disk = (.ok shown.position, after) ∧
      after.OpenAt place options file shown := by
  have target : shown.target (.current 0) = shown.position := Int.add_zero _
  have sought := isOpen.seek_apply (.current 0) (target ▸ Int.ofNat_lt.mpr inRange)
  rw [target, if_pos (Int.natCast_nonneg _)] at sought
  exact ⟨_, sought, isOpen.moved _⟩

/-- An open file is a plain file. -/
theorem OpenAt.perform_apply (isOpen : disk.OpenAt place options file shown) {operation : Operation}
    (permitted : options.Permit operation) (near : shown.position < PlainFile.positionBound)
    (inRange : (shown.perform operation).2.position < PlainFile.positionBound) :
    (perform file operation disk).1.mapError (fun _ => ()) = (shown.perform operation).1 ∧
    (perform file operation disk).2.OpenAt place options file (shown.perform operation).2 := by
  have within : PlainFile.positionBound < Word.signedBound := by decide
  cases operation with
  | read buffer =>
      obtain ⟨after, answered, next⟩ := isOpen.read_apply permitted buffer.length
      rw [perform, Action.map_apply, answered]
      exact ⟨rfl, next⟩
  | write data =>
      obtain ⟨after, answered, next⟩ := isOpen.write_apply permitted.1 permitted.2
        (Nat.lt_trans inRange within)
      rw [perform, Action.map_apply, answered]
      exact ⟨rfl, next⟩
  | putByte byte =>
      obtain ⟨after, answered, next⟩ := isOpen.write_apply permitted.1 permitted.2
        (Nat.lt_trans inRange within)
      rw [perform, Action.map_apply, answered]
      exact ⟨rfl, next⟩
  | getByte =>
      obtain ⟨after, answered, next⟩ := isOpen.read_apply permitted 1
      rw [perform, Action.map_apply, answered]
      exact ⟨rfl, next⟩
  | seek target =>
      by_cases forward : 0 ≤ shown.target target
      · simp only [PlainFile.perform, forward, ↓reduceIte] at inRange ⊢
        have sought := isOpen.seek_apply target (by omega)
        rw [if_pos forward] at sought
        rw [perform, Action.map_apply, sought]
        exact ⟨rfl, isOpen.moved _⟩
      · simp only [PlainFile.perform, forward, ↓reduceIte]
        have sought := isOpen.seek_apply target (by omega)
        rw [if_neg forward] at sought
        rw [perform, Action.map_apply, sought]
        exact ⟨rfl, isOpen⟩
  | tell =>
      obtain ⟨after, answered, next⟩ := isOpen.tell_apply (Nat.lt_trans near within)
      rw [perform, Action.map_apply, answered]
      exact ⟨rfl, next⟩
  | flush => exact ⟨rfl, isOpen⟩
  | remotePosition => exact permitted.elim

/-- A path can be opened at `place`: there is a file that has `content`, or there is none
and an empty one is created. -/
def Offers (disk : Disk) (place : Place) (mode : OpenMode) (content : Bytes) : Prop :=
  mode ≠ .write ∧ disk.node? place = some (.file content) ∨
    mode = .write ∧ disk.node? place = none ∧ absence place = .noSuchFile ∧ content = []

/-- There is a file at `place`, or there is nothing and a file can be created. -/
def Hosts (disk : Disk) (place : Place) : Prop :=
  (∃ content, disk.node? place = some (.file content)) ∨
    disk.node? place = none ∧ absence place = .noSuchFile

/-- The disk after a file was opened. -/
def opening (disk : Disk) (openFile : OpenFile) : Disk :=
  { disk with
    openFiles := disk.openFiles.insert ⟨disk.lastNumber + 1⟩ openFile
    lastNumber := disk.lastNumber + 1 }

/-- What is not a directory is not above home. -/
theorem outside_of_node? (other : disk.node? place ≠ some .directory) :
    ¬place.isPrefixOf disk.home = true := by
  intro within
  simp [node?, within] at other

/-- A file that was found or created opens at its start. -/
theorem openFile_of_prepare {path : String} {content : Bytes} {ready : Disk}
    (prepared : disk.prepare path options = .ok (place, ready))
    (held : ready.node? place = some (.file content)) :
    ∃ file after, openFile path options disk = (.ok file, after) ∧
      after.OpenAt place options file ⟨content, 0⟩ := by
  refine ⟨⟨ready.lastNumber + 1⟩, ready.opening ⟨place, 0, options⟩, ?_,
    FiniteMap.find?_insert_self _ _ _, held⟩
  simp only [openFile, Action.bind_apply, Action.get_apply, prepared, Action.set_apply,
    Action.pure_apply, opening]

/-- A file that is offered opens. -/
theorem openFile_apply {path : String} {content : Bytes} (located : disk.locate path = .ok place)
    (plain : ¬NamesDirectory path) (offers : disk.Offers place mode content) :
    ∃ file after, openFile path mode.options disk = (.ok file, after) ∧
      after.Shows place mode file ⟨content, 0⟩ := by
  simp only [shows_iff_openAt]
  rcases offers with ⟨keeps, present⟩ | ⟨rfl, absent, creatable, rfl⟩
  · have truncates : mode.options.truncates = false := decide_eq_false keeps
    have creates : mode.options.creates = false := decide_eq_false keeps
    have prepared : disk.prepare path mode.options = .ok (place, disk) := by
      simp [prepare, located, plain, present, truncates, creates, bind, Except.bind, pure,
        Except.pure]
    exact openFile_of_prepare prepared present
  · have creates : (OpenMode.options .write).creates = true := rfl
    have prepared : disk.prepare path (OpenMode.options .write) =
        .ok (place, disk.assign place (.file [])) := by
      simp [prepare, located, plain, absent, creatable, creates, bind, Except.bind, pure,
        Except.pure]
    exact openFile_of_prepare prepared (node?_assign (outside_of_node? (by simp [absent])) _)

/-- A file that is opened to be replaced opens empty, whatever it had. -/
theorem openFile_emptied {path : String} (located : disk.locate path = .ok place)
    (plain : ¬NamesDirectory path) (hosts : disk.Hosts place) (creates : options.creates = true)
    (truncates : options.truncates = true) :
    ∃ file after, openFile path options disk = (.ok file, after) ∧
      after.OpenAt place options file ⟨[], 0⟩ := by
  have emptied : disk.prepare path options = .ok (place, disk.assign place (.file [])) ∧
      disk.node? place ≠ some .directory := by
    rcases hosts with ⟨content, present⟩ | ⟨absent, creatable⟩
    · simp [prepare, located, plain, present, truncates, bind, Except.bind, pure, Except.pure]
    · simp [prepare, located, plain, absent, creatable, creates, bind, Except.bind, pure,
        Except.pure]
  exact openFile_of_prepare emptied.1 (node?_assign (outside_of_node? emptied.2) _)

/-- A file that is closed keeps its bytes. -/
theorem OpenAt.close_apply (isOpen : disk.OpenAt place options file shown) :
    ∃ after, close file disk = (.ok (), after) ∧
      after.node? place = some (.file shown.content) :=
  ⟨_, rfl, isOpen.held⟩

end Disk

end RemoteStreams
