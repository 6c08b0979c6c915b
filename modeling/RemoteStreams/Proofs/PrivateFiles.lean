import RemoteStreams.Proofs.Staging

/-! # Private files

An object that is opened for writing is staged as a whole. From then on whoever opened it works
on a plain file of its own, that starts out as the object was at that time: it answers every use
(`RemoteStreams.Remote.Stages.use`), and nothing that is done through other objects or to the
store reaches it (`RemoteStreams.Remote.Stages.spares`), until it is closed or the session ends
(`RemoteStreams.Remote.acts_as_own_file`).
-/

namespace RemoteStreams

namespace SessionRequest

/-- A buffer that is read into fits into memory. -/
def Addressable : SessionRequest → Prop
  | readObject _ buffer => buffer.length < Word.signedBound
  | _ => True

instance : (request : SessionRequest) → Decidable request.Addressable
  | readObject _ buffer => inferInstanceAs (Decidable (buffer.length < Word.signedBound))
  | writeObject _ _ | connect | openObject _ _ | createObject _ | seekObject _ _ | position _
  | closeObject _ | disconnect => inferInstanceAs (Decidable True)

/-- Besides, content can reach as far as what is written to the file. -/
def Fits (request : SessionRequest) (file : PlainFile) : Prop :=
  request.Addressable ∧ ∀ object data, request = .writeObject object data →
    file.position + data.length < Word.signedBound

end SessionRequest

/-- A request in it, if any, is addressable. -/
def Turn.Addressable : Turn → Prop
  | .ask request => request.Addressable
  | .forget _ | .arm _ | .replace _ => True

instance : (turn : Turn) → Decidable turn.Addressable
  | .ask request => inferInstanceAs (Decidable request.Addressable)
  | .forget _ | .arm _ | .replace _ => inferInstanceAs (Decidable True)

/-- What happens is neither a use of `object` nor the end of the session. -/
def Turn.Foreign (turn : Turn) (object : ObjectId) : Prop :=
  ∀ request, turn = .ask request → request.object? ≠ some object ∧ request ≠ .disconnect

/-- If it succeeds, `object` is no longer open. -/
def Turn.ends (turn : Turn) (object : ObjectId) : Bool :=
  match turn with
  | .ask (.closeObject other) => other = object
  | .ask .disconnect => true
  | _ => false

namespace PlainFile

/-- What a plain file does that was opened for writing, when it is used in the way of an open
object. It can be read only if it was opened for that as well. -/
def use? (file : PlainFile) (mode : OpenMode) :
    SessionRequest → Option (Outcome Unit SessionReply × PlainFile)
  | .readObject _ buffer =>
      if mode.readable then
        some (.ok (.filled (file.ahead buffer.length).length
          (buffer.overlay 0 (file.ahead buffer.length))),
            file.skip (file.ahead buffer.length).length)
      else some (.error (), file)
  | .writeObject _ data => some (.ok (.accepted data.length), file.written data)
  | .seekObject _ target =>
      match Word.ofInt? (file.target target) with
      | some position => some (.ok (.position position), { file with position })
      | none => some (.error (), file)
  | .position _ => some (.ok (.position file.position), file)
  | .connect | .openObject _ _ | .createObject _ | .closeObject _ | .disconnect => none

/-- The file after one turn, which matters only if it is a use of `object`. -/
def turned (file : PlainFile) (mode : OpenMode) (object : ObjectId) : Turn → PlainFile
  | .ask request =>
      if request.object? = some object then ((file.use? mode request).map Prod.snd).getD file
      else file
  | .forget _ | .arm _ | .replace _ => file

/-- The file after a sequence of turns, which are given latest first. -/
def after (file : PlainFile) (mode : OpenMode) (object : ObjectId) : List Turn → PlainFile
  | [] => file
  | turn :: earlier => (file.after mode object earlier).turned mode object turn

/-- The file is at positions in range all the time. -/
def StaysNear (file : PlainFile) (mode : OpenMode) (object : ObjectId) : List Turn → Prop
  | [] => file.position < positionBound
  | turn :: earlier => (file.after mode object (turn :: earlier)).position < positionBound ∧
      file.StaysNear mode object earlier

/-- A file that stays near ends near. -/
theorem StaysNear.near {file : PlainFile} {mode : OpenMode} {object : ObjectId}
    {turns : List Turn} (stays : file.StaysNear mode object turns) :
    (file.after mode object turns).position < positionBound := by
  cases turns with
  | nil => exact stays
  | cons turn earlier => exact stays.1

/-- Every request about an open object is a use of it, but for its close. -/
theorem exists_use (file : PlainFile) (mode : OpenMode) {request : SessionRequest}
    {object : ObjectId} (own : request.object? = some object)
    (lasts : (Turn.ask request).ends object = false) :
    ∃ answer next, file.use? mode request = some (answer, next) := by
  cases request with
  | readObject same buffer =>
      rw [use?]
      split <;> exact ⟨_, _, rfl⟩
  | seekObject same target =>
      rw [use?]
      split <;> exact ⟨_, _, rfl⟩
  | writeObject | position => exact ⟨_, _, rfl⟩
  | closeObject same =>
      obtain rfl := Option.some.inj own
      simp [Turn.ends] at lasts
  | connect | openObject | createObject | disconnect => contradiction

/-- The end is no use of a file. -/
theorem turned_of_ends {file : PlainFile} {mode : OpenMode} {object : ObjectId} {turn : Turn}
    (ends : turn.ends object = true) : file.turned mode object turn = file := by
  cases turn with
  | ask request =>
      cases request with
      | closeObject other =>
          rw [turned]
          split <;> rfl
      | disconnect => rfl
      | _ => contradiction
  | forget | arm | replace => rfl

/-- A write changes no byte but its own, and those of the gap that it leaves. -/
theorem getElem?_written {file : PlainFile} {data : Bytes} {place : Nat}
    (outside : place < file.position ∨ file.position + data.length ≤ place) :
    (file.written data).content[place]? = file.content[place]? ∨
      file.content.length ≤ place ∧ place < file.position ∧
        (file.written data).content[place]? = some 0 := by
  by_cases empty : data = []
  · simp [written, empty]
  · simp only [written, empty, ↓reduceIte, Bytes.getElem?_overlay]
    grind

end PlainFile

namespace Remote

/-- `object` is open, with `file` staged for it. -/
structure Stages (remote : Remote) (object : ObjectId) (location : ObjectPath) (mode : OpenMode)
    (file : PlainFile) : Prop where
  connected : remote.session.connected = true
  numbered : object.number ≤ remote.session.lastNumber
  found : ∃ modified, remote.session.descriptors.find? object =
    some ⟨location, mode, file.position, .staged file.content modified⟩

variable {before after remote : Remote} {object : ObjectId} {request : SessionRequest}
  {outcome : Outcome RemoteError SessionReply}

variable {location : ObjectPath} {mode : OpenMode} {file : PlainFile} {modified : Bool}

/-- An object that holds a file stages it. -/
theorem Holds.stages (holds : remote.Holds object location mode file modified) :
    remote.Stages object location mode file :=
  ⟨holds.connected, holds.numbered, modified, holds.found⟩

/-- An object that stages a file holds it, modified or not. -/
theorem Stages.holds (stages : remote.Stages object location mode file) :
    ∃ modified, remote.Holds object location mode file modified := by
  obtain ⟨modified, found⟩ := stages.found
  exact ⟨modified, stages.connected, stages.numbered, found⟩

/-- What is foreign to an open object spares it. -/
theorem Stages.spares (stages : remote.Stages object location mode file) {turn : Turn}
    (foreign : turn.Foreign object) : remote.Spares object (turn.perform remote).2 := by
  cases turn with
  | ask request =>
      obtain ⟨elsewhere, lasting⟩ := foreign request rfl
      exact (request.perform_effect remote).spares stages.numbered elsewhere lasting
  | forget location => exact ⟨id, Nat.le_refl _, rfl⟩
  | arm faults => exact ⟨id, Nat.le_refl _, rfl⟩
  | replace objects => exact ⟨id, Nat.le_refl _, rfl⟩

/-- An object that is spared stages what it staged before. -/
theorem Stages.spared (stages : before.Stages object location mode file)
    (spares : before.Spares object after) : after.Stages object location mode file := by
  obtain ⟨modified, holds⟩ := stages.holds
  exact (holds.spared spares).stages

theorem Stages.same (stages : remote.Stages object location mode file)
    (session : after.session = remote.session) : after.Stages object location mode file :=
  stages.spared (.same session)

/-- A read delivers what is ahead in the file. -/
theorem Stages.read (stages : remote.Stages object location mode file)
    (near : file.position < PlainFile.positionBound) (readable : mode.readable = true)
    {buffer : Bytes} (addressable : buffer.length < Word.signedBound) :
    ∃ after, Session.readObject object buffer remote =
        (.ok ((file.ahead buffer.length).length, buffer.overlay 0 (file.ahead buffer.length)),
          after) ∧
      after.Stages object location mode (file.skip (file.ahead buffer.length).length) := by
  have fits : file.position + buffer.length < Word.bound := by
    have half := Word.signedBound_add_signedBound
    have small : PlainFile.positionBound < Word.signedBound := by decide
    omega
  obtain ⟨modified, holds⟩ := stages.holds
  obtain ⟨after, answered, moved⟩ := holds.read_apply readable fun _ _ => fits
  exact ⟨after, answered, moved.stages⟩

/-- A write is laid over the file. -/
theorem Stages.write (stages : remote.Stages object location mode file)
    (writable : mode.writable = true) {data : Bytes}
    (fits : file.position + data.length < Word.signedBound) :
    ∃ after, Session.writeObject object data remote = (.ok data.length, after) ∧
      after.Stages object location mode (file.written data) := by
  obtain ⟨modified, holds⟩ := stages.holds
  have answered := holds.answered
  by_cases empty : data = []
  · refine ⟨remote, ?_, ?_⟩
    · simp [Session.writeObject, Action.bind_apply, answered, writable, empty]
    · rw [empty]
      exact stages
  · have start : file.position < Word.signedBound := by omega
    have content : (file.written data).content = file.content.overlay file.position data := by
      simp [PlainFile.written, empty]
    have session : (remote.updating object (Descriptor.write ⟨location, mode, file.position,
        .staged file.content modified⟩ file.content data)).session = remote.session.update object
          ⟨location, mode, (file.written data).position, .staged (file.written data).content true⟩ := by
      rw [content]
      rfl
    refine ⟨(remote.updating object (Descriptor.write ⟨location, mode, file.position,
        .staged file.content modified⟩ file.content data)).noting
          (.objectWritten object data.length file.position), ?_, (holds.update session).stages.same rfl⟩
    simp [Session.writeObject, Action.bind_apply, Action.map_apply, answered, writable, empty,
      Action.ensure, start, fits, modifySession, note, updating]

/-- A seek resolves its target in the file. -/
theorem Stages.seek (stages : remote.Stages object location mode file) (target : SeekTarget) :
    (∃ position after, Session.seekObject object target remote = (.ok position, after) ∧
      Word.ofInt? (file.target target) = some position ∧
      after.Stages object location mode { file with position }) ∨
    ∃ cause, Session.seekObject object target remote = (.error cause, remote) ∧
      Word.ofInt? (file.target target) = none := by
  obtain ⟨modified, holds⟩ := stages.holds
  rcases holds.seek_cases target with ⟨position, after, answered, reached, moved⟩ | refused
  · exact .inl ⟨position, after, answered, reached, moved.stages⟩
  · exact .inr refused

/-- Every use is answered as the file answers it, which moves on accordingly. -/
theorem Stages.use (stages : remote.Stages object location mode file)
    (near : file.position < PlainFile.positionBound) (writable : mode.writable = true)
    (own : request.object? = some object) (fits : request.Fits file)
    {answer : Outcome Unit SessionReply} {next : PlainFile}
    (uses : file.use? mode request = some (answer, next)) :
    (request.perform remote).1.mapError (fun _ => ()) = answer ∧
      (request.perform remote).2.Stages object location mode next := by
  cases request with
  | readObject same buffer =>
      obtain rfl := Option.some.inj own
      by_cases readable : mode.readable = true
      · obtain ⟨after, answered, moved⟩ := stages.read near readable fits.1
        rw [PlainFile.use?, if_pos readable] at uses
        cases uses
        rw [SessionRequest.perform, Action.map_apply, answered]
        exact ⟨rfl, moved⟩
      · obtain ⟨modified, holds⟩ := stages.holds
        have refused : Session.readObject same buffer remote =
            (.error (.generic (.notReadable same)), remote) := by
          simp [Session.readObject, Action.bind_apply, holds.answered, readable]
        rw [PlainFile.use?, if_neg readable] at uses
        cases uses
        rw [SessionRequest.perform, Action.map_apply, refused]
        exact ⟨rfl, stages⟩
  | writeObject same data =>
      obtain rfl := Option.some.inj own
      obtain ⟨after, answered, moved⟩ := stages.write writable (fits.2 _ _ rfl)
      cases uses
      rw [SessionRequest.perform, Action.map_apply, answered]
      exact ⟨rfl, moved⟩
  | seekObject same target =>
      obtain rfl := Option.some.inj own
      rw [SessionRequest.perform, Action.map_apply]
      rcases stages.seek target with
        ⟨position, after, answered, reached, moved⟩ | ⟨cause, failed, outside⟩
      · rw [PlainFile.use?, reached] at uses
        cases uses
        rw [answered]
        exact ⟨rfl, moved⟩
      · rw [PlainFile.use?, outside] at uses
        cases uses
        rw [failed]
        exact ⟨rfl, stages⟩
  | position same =>
      obtain rfl := Option.some.inj own
      have here : Word.ofInt? (file.target (.current 0)) = some file.position := by
        have bounded : file.position < Word.bound := Nat.lt_trans near (by decide)
        have current : file.target (.current 0) = (file.position : Int) := Int.add_zero _
        rw [current, Word.ofInt?_natCast bounded]
      rw [SessionRequest.perform, Action.map_apply]
      cases uses
      rcases stages.seek (.current 0) with
        ⟨position, after, answered, reached, moved⟩ | ⟨cause, failed, outside⟩
      · obtain rfl := Option.some.inj (here.symm.trans reached)
        rw [Session.position, answered]
        exact ⟨rfl, moved⟩
      · rw [here] at outside
        exact (Option.some_ne_none _ outside).elim
  | connect | openObject | createObject | closeObject | disconnect => contradiction

/-- A request after which the file is still at a position in range fits it. -/
theorem SessionRequest.Addressable.fits (addressable : request.Addressable)
    (own : request.object? = some object)
    (near : (file.turned mode object (.ask request)).position < PlainFile.positionBound) :
    request.Fits file := by
  refine ⟨addressable, fun other data same => ?_⟩
  subst same
  rw [PlainFile.turned, if_pos own] at near
  exact Nat.lt_trans near (by decide)

/-- One turn: the file moves on with it. -/
theorem Stages.turn (stages : remote.Stages object location mode file)
    (near : file.position < PlainFile.positionBound) (writable : mode.writable = true)
    {turn : Turn} (addressable : turn.Addressable)
    (still : (file.turned mode object turn).position < PlainFile.positionBound)
    (lasts : ((turn.perform remote).1.isOk && turn.ends object) = false) :
    (turn.perform remote).2.Stages object location mode (file.turned mode object turn) := by
  cases turn with
  | ask request =>
      have effect := request.perform_effect remote
      cases ends : (Turn.ask request).ends object with
      | true =>
          rw [PlainFile.turned_of_ends ends]
          rw [ends, Bool.and_true] at lasts
          refine stages.same (effect.session_of_failed lasts fun other data breach same => ?_)
          rw [same] at ends
          contradiction
      | false =>
          by_cases own : request.object? = some object
          · obtain ⟨answer, next, used⟩ := file.exists_use mode own ends
            have fits := SessionRequest.Addressable.fits addressable own still
            obtain ⟨-, moved⟩ := stages.use near writable own fits used
            rw [PlainFile.turned, if_pos own, used]
            exact moved
          · have lasting : request ≠ .disconnect := by
              rintro rfl
              contradiction
            rw [PlainFile.turned, if_neg own]
            exact stages.spared (effect.spares stages.numbered own lasting)
  | forget location => exact stages.spared ⟨id, Nat.le_refl _, rfl⟩
  | arm faults => exact stages.spared ⟨id, Nat.le_refl _, rfl⟩
  | replace objects => exact stages.spared ⟨id, Nat.le_refl _, rfl⟩

/-- A whole history, until the object is closed or the session ends. -/
theorem Stages.history (stages : remote.Stages object location mode file)
    (writable : mode.writable = true) {turns : List Turn}
    (addressable : ∀ turn ∈ turns, turn.Addressable) (near : file.StaysNear mode object turns)
    (lasts : ∀ entry ∈ (History.after remote turns).past,
      (entry.outcome.isOk && entry.turn.ends object) = false) :
    (History.after remote turns).now.Stages object location mode
      (file.after mode object turns) := by
  induction turns with
  | nil => exact stages
  | cons turn earlier ih =>
      obtain ⟨last, before⟩ := List.forall_mem_cons.mp lasts
      obtain ⟨small, smaller⟩ := List.forall_mem_cons.mp addressable
      exact (ih smaller near.2 before).turn near.2.near writable small near.1 last

/-- What is opened for writing starts as a copy of the object, and what is created is empty. -/
theorem stages_opened {opened : Remote}
    (opens : request.perform before = (.ok (.object object), opened))
    (kind : request.mode? = some mode) (writable : mode.writable = true) :
    ∃ content location, request.snapshot? before = some content ∧
      opened.Stages object location mode ⟨content, 0⟩ := by
  obtain ⟨content, location, snapshot, -, holds⟩ := holds_opened opens kind writable
  exact ⟨content, location, snapshot, holds.stages⟩

/-- Through `object`, the remote side acts as the plain file `file`. -/
structure ActsAs (remote : Remote) (object : ObjectId) (mode : OpenMode) (file : PlainFile) :
    Prop where
  /-- The file is staged for the object. -/
  stages : ∃ location, remote.Stages object location mode file
  /-- Every use is answered as the file answers it, which moves on. -/
  answers : ∀ request answer next, request.object? = some object → request.Fits file →
    file.use? mode request = some (answer, next) →
      (request.perform remote).1.mapError (fun _ => ()) = answer ∧
        ∃ location, (request.perform remote).2.Stages object location mode next
  /-- Nothing else reaches the object. -/
  apart : ∀ turn : Turn, turn.Foreign object →
    (turn.perform remote).2.session.descriptors.find? object =
      remote.session.descriptors.find? object
  /-- A write changes nothing before and behind its data, but for the gap that it leaves. -/
  confined : ∀ data staged modified descriptor,
    file.position + data.length < Word.signedBound →
    (Session.writeObject object data remote).2.session.descriptors.find? object =
      some descriptor → descriptor.content = .staged staged modified →
    ∀ place, place < file.position ∨ file.position + data.length ≤ place →
      staged[place]? = file.content[place]? ∨
        file.content.length ≤ place ∧ place < file.position ∧ staged[place]? = some 0

/-- An object for writing that stages a file acts as that file. -/
theorem Stages.actsAs (stages : remote.Stages object location mode file)
    (near : file.position < PlainFile.positionBound) (writable : mode.writable = true) :
    remote.ActsAs object mode file where
  stages := ⟨location, stages⟩
  answers := fun request answer next own fits uses => by
    obtain ⟨answered, moved⟩ := stages.use near writable own fits uses
    exact ⟨answered, location, moved⟩
  apart := fun turn foreign => (stages.spares foreign).found
  confined := fun data staged modified descriptor fits present content place outside => by
    obtain ⟨after, answered, moved⟩ := stages.write writable fits
    obtain ⟨was, found⟩ := moved.found
    rw [answered, found] at present
    obtain rfl := Option.some.inj present
    obtain ⟨rfl, -⟩ := Content.staged.inj content
    exact PlainFile.getElem?_written outside

/-- Whoever opens an object for writing, or creates one, has a plain file of its own. It starts
as the object was then, and it goes through what is done with it and nothing else, until it is
closed or the session ends. -/
theorem acts_as_own_file {opened : Remote}
    (opens : request.perform before = (.ok (.object object), opened))
    (kind : request.mode? = some mode) (writable : mode.writable = true) :
    ∃ content, request.snapshot? before = some content ∧ ∀ turns : List Turn,
      (∀ turn ∈ turns, turn.Addressable) → PlainFile.StaysNear ⟨content, 0⟩ mode object turns →
      (∀ entry ∈ (History.after opened turns).past,
        (entry.outcome.isOk && entry.turn.ends object) = false) →
      (History.after opened turns).now.ActsAs object mode
        (PlainFile.after ⟨content, 0⟩ mode object turns) := by
  obtain ⟨content, location, snapshot, stages⟩ := stages_opened opens kind writable
  refine ⟨content, snapshot, fun turns addressable near lasts => ?_⟩
  exact (stages.history writable addressable near lasts).actsAs near.near writable

/-- A connected session on a store with one object. -/
def joined : Remote :=
  (History.after (.create (FiniteMap.empty.insert ⟨"a"⟩ [1, 2, 3]) true) [.ask .connect]).now

/-- An object that is open at number 1 is written to and moved past its end. Meanwhile it is
opened a second time, written to and closed, and then its store loses it. -/
def contended : List Turn :=
  [.ask (.seekObject ⟨1⟩ (.start 5)), .replace ∅, .ask (.closeObject ⟨2⟩),
    .ask (.writeObject ⟨2⟩ [8, 8, 8, 8]), .ask (.writeObject ⟨1⟩ [7]),
    .ask (.openObject "/a" .readWrite)]

/-- The next byte leaves a gap in what the first one who opened the object had then. -/
theorem acts_as_own_file_contended :
    (SessionRequest.openObject "a" .readWrite).perform joined = (.ok (.object ⟨1⟩),
      ((SessionRequest.openObject "a" .readWrite).perform joined).2) ∧
    ((SessionRequest.writeObject ⟨1⟩ [6]).perform (History.after
      ((SessionRequest.openObject "a" .readWrite).perform joined).2 contended).now).1.mapError
        (fun _ => ()) = .ok (.accepted 1) ∧
    ∃ location, ((SessionRequest.writeObject ⟨1⟩ [6]).perform (History.after
      ((SessionRequest.openObject "a" .readWrite).perform joined).2 contended).now).2.Stages
        ⟨1⟩ location .readWrite ⟨[7, 2, 3, 0, 0, 6], 6⟩ := by
  have opens : (SessionRequest.openObject "a" .readWrite).perform joined = (.ok (.object ⟨1⟩),
      ((SessionRequest.openObject "a" .readWrite).perform joined).2) := rfl
  obtain ⟨content, snapshot, acts⟩ := acts_as_own_file opens rfl rfl
  have held : some [1, 2, 3] = some content := snapshot
  obtain rfl := Option.some.inj held
  have addressable : ∀ turn ∈ contended, turn.Addressable := by decide
  have near : PlainFile.StaysNear ⟨[1, 2, 3], 0⟩ .readWrite ⟨1⟩ contended := by
    simp only [contended, PlainFile.StaysNear]
    decide
  have lasts : ∀ entry ∈ (History.after
      ((SessionRequest.openObject "a" .readWrite).perform joined).2 contended).past,
      (entry.outcome.isOk && entry.turn.ends ⟨1⟩) = false := by decide
  have actsAs := acts contended addressable near lasts
  have fits : (SessionRequest.writeObject ⟨1⟩ [6]).Fits
      (PlainFile.after ⟨[1, 2, 3], 0⟩ .readWrite ⟨1⟩ contended) := by
    refine ⟨trivial, fun object data same => ?_⟩
    cases same
    decide
  exact ⟨opens, actsAs.answers (.writeObject ⟨1⟩ [6]) _ _ rfl fits rfl⟩

end Remote

end RemoteStreams
