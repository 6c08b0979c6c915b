import RemoteStreams.Proofs.PlainFile
import RemoteStreams.Proofs.SessionHistory

/-! # Staged objects

An object that is opened for writing, or created, is staged as a whole
(`RemoteStreams.Remote.holds_opened`). What is staged for it is a plain file
(`RemoteStreams.Remote.Holds`): reads and seeks answer and move as they would in that file, and
nothing that is done to other objects reaches it (`RemoteStreams.Remote.Spares`).
-/

namespace RemoteStreams

namespace SessionRequest

/-- What an object is open for, if the request opens one. -/
def mode? : SessionRequest → Option OpenMode
  | openObject _ mode => some mode
  | createObject _ => some .write
  | _ => none

/-- A request that moves an object opens none. -/
theorem mode?_of_moves? {request : SessionRequest} {object : ObjectId}
    (moves : request.moves? = some object) : request.mode? = none := by
  cases request with
  | openObject | createObject => contradiction
  | _ => rfl

/-- The bytes at that time of an object that is opened. One that is created is empty. -/
def snapshot? (before : Remote) : SessionRequest → Option Bytes
  | openObject path _ =>
      match ObjectPath.parse path with
      | .ok location => before.objects.find? location
      | .error _ => none
  | createObject _ => some []
  | _ => none

/-- The location of the object that a request opens, if it opens one. -/
def location? : SessionRequest → Option ObjectPath
  | openObject path _ | createObject path => (ObjectPath.parse path).toOption
  | _ => none

end SessionRequest

namespace Remote

/-- `object` is open, `file` is staged for it, and it has to be uploaded if it is `modified`. -/
structure Holds (remote : Remote) (object : ObjectId) (location : ObjectPath) (mode : OpenMode)
    (file : PlainFile) (modified : Bool) : Prop where
  connected : remote.session.connected = true
  numbered : object.number ≤ remote.session.lastNumber
  found : remote.session.descriptors.find? object =
    some ⟨location, mode, file.position, .staged file.content modified⟩

/-- Nothing happened to `object`. -/
structure Spares (before : Remote) (object : ObjectId) (after : Remote) : Prop where
  connected : before.session.connected = true → after.session.connected = true
  numbers : before.session.lastNumber ≤ after.session.lastNumber
  found : after.session.descriptors.find? object = before.session.descriptors.find? object

variable {remote before after : Remote} {object : ObjectId} {location : ObjectPath}
  {mode : OpenMode} {file : PlainFile} {modified : Bool} {request : SessionRequest}
  {outcome : Outcome RemoteError SessionReply}

theorem Spares.same (session : after.session = before.session) : before.Spares object after :=
  ⟨fun connected => session ▸ connected, Nat.le_of_eq (by rw [session]), by rw [session]⟩

/-- A request that is not about `object` does nothing to it, unless it ends the session. -/
theorem Effect.spares (effect : before.Effect request (outcome, after))
    (numbered : object.number ≤ before.session.lastNumber)
    (foreign : request.object? ≠ some object) (lasting : request ≠ .disconnect) :
    before.Spares object after :=
  ⟨effect.stays_connected lasting, effect.lastNumber_le, effect.find?_eq numbered foreign lasting⟩

/-- An open object can be used while the session is connected. -/
theorem descriptor_of_found (connected : remote.session.connected = true) {descriptor : Descriptor}
    (found : remote.session.descriptors.find? object = some descriptor) :
    Session.descriptor object remote = (.ok descriptor, remote) := by
  simp [Session.descriptor, Session.requireConnection, Action.bind_apply, connected, found]

namespace Holds

/-- An object that is spared holds what it held. -/
theorem spared (holds : before.Holds object location mode file modified)
    (spares : before.Spares object after) : after.Holds object location mode file modified where
  connected := spares.connected holds.connected
  numbered := Nat.le_trans holds.numbered spares.numbers
  found := spares.found.trans holds.found

/-- So does one whose session stays as it is. -/
theorem same (holds : before.Holds object location mode file modified)
    (session : after.session = before.session) :
    after.Holds object location mode file modified :=
  holds.spared (.same session)

/-- The object moved on, and the file that is staged for it with it. -/
theorem update (holds : before.Holds object location mode file modified) {next : PlainFile}
    {changed : Bool} (session : after.session = before.session.update object
      ⟨location, mode, next.position, .staged next.content changed⟩) :
    after.Holds object location mode next changed where
  connected := session ▸ holds.connected
  numbered := session ▸ holds.numbered
  found := by
    rw [session]
    exact FiniteMap.find?_insert_self _ _ _

/-- An object that holds a file is found with what is staged. -/
theorem answered (holds : remote.Holds object location mode file modified) :
    Session.descriptor object remote =
      (.ok ⟨location, mode, file.position, .staged file.content modified⟩, remote) :=
  descriptor_of_found holds.connected holds.found

/-- A read delivers what is ahead in the file, unless its end is no machine word. -/
theorem read_apply (holds : remote.Holds object location mode file modified)
    (readable : mode.readable = true) {buffer : Bytes}
    (fits : file.position < file.content.length → buffer ≠ [] →
      file.position + buffer.length < Word.bound) :
    ∃ after, Session.readObject object buffer remote =
        (.ok ((file.ahead buffer.length).length, buffer.overlay 0 (file.ahead buffer.length)),
          after) ∧
      after.Holds object location mode (file.skip (file.ahead buffer.length).length) modified := by
  have answered := holds.answered
  by_cases idle : file.content.length ≤ file.position ∨ buffer = []
  · have nothing : file.ahead buffer.length = [] := by
      rw [← List.length_eq_zero_iff, PlainFile.length_ahead]
      rcases idle with past | empty
      · omega
      · simp [empty]
    rw [nothing]
    refine ⟨remote, ?_, holds⟩
    simp [Session.readObject, Action.bind_apply, answered, readable, Content.length, idle]
  · obtain ⟨inside, present⟩ := not_or.mp idle
    have fits := fits (Nat.not_le.mp inside) present
    have taken : (file.content.slice file.position
        (min (file.position + buffer.length) file.content.length)).take buffer.length =
          file.ahead buffer.length := by
      apply List.ext_getElem?
      intro place
      simp only [List.getElem?_take, Bytes.getElem?_slice, PlainFile.ahead]
      grind
    refine ⟨(remote.updating object ⟨location, mode,
        file.position + (file.ahead buffer.length).length, .staged file.content modified⟩).noting
          (.objectRead object (file.ahead buffer.length).length file.position), ?_,
      holds.update rfl⟩
    simp [Session.readObject, Action.bind_apply, Action.map_apply, answered, readable,
      Content.length, idle, Word.add, fits, Session.bytesOf, taken, modifySession, note, updating,
      -List.length_take]

/-- A seek resolves its target in the file. -/
theorem seek_cases (holds : remote.Holds object location mode file modified)
    (target : SeekTarget) :
    (∃ position after, Session.seekObject object target remote = (.ok position, after) ∧
      Word.ofInt? (file.target target) = some position ∧
      after.Holds object location mode { file with position } modified) ∨
    ∃ cause, Session.seekObject object target remote = (.error cause, remote) ∧
      Word.ofInt? (file.target target) = none := by
  have same : Descriptor.target ⟨location, mode, file.position, .staged file.content modified⟩
      target = file.target target := by
    cases target <;> rfl
  cases reached : Word.ofInt? (file.target target) with
  | some position =>
      refine .inl ⟨position, remote.updating object
        ⟨location, mode, position, .staged file.content modified⟩, ?_, rfl, holds.update rfl⟩
      simp [Session.seekObject, Action.bind_apply, Action.map_apply, holds.answered, same, reached,
        modifySession, updating]
  | none =>
      refine .inr ⟨.generic (.seekOutOfRange object (file.target target)), ?_, rfl⟩
      simp [Session.seekObject, Action.bind_apply, holds.answered, same, reached]

end Holds

/-- An object that was just opened holds what was staged for it. -/
theorem Holds.add {learned : Session} {content : Bytes} {opened : Remote}
    (connected : learned.connected = true)
    (session : opened.session = learned.add ⟨location, mode, 0, .staged content false⟩) :
    opened.Holds learned.nextObject location mode ⟨content, 0⟩ false where
  connected := session ▸ connected
  numbered := by
    rw [session]
    exact Nat.le_refl _
  found := by
    rw [session]
    exact FiniteMap.find?_insert_self _ _ _

/-- What is opened for writing is staged as the object was then, and what is created is empty. -/
theorem holds_opened {opened : Remote}
    (opens : request.perform before = (.ok (.object object), opened))
    (kind : request.mode? = some mode) (writable : mode.writable = true) :
    ∃ content location, request.snapshot? before = some content ∧
      request.location? = some location ∧
      opened.Holds object location mode ⟨content, 0⟩ false := by
  have effect := request.perform_effect before
  rw [opens] at effect
  cases effect with
  | failed unanswered session objects => exact (unanswered _ rfl).elim
  | moved moves found session objects =>
      rw [SessionRequest.mode?_of_moves? moves] at kind
      contradiction
  | @opened path asked location content learned _ spelled online provides session objects =>
      obtain rfl := Option.some.inj kind
      have place : (SessionRequest.openObject path asked).location? = some location := by
        simp [SessionRequest.location?, spelled, Except.toOption]
      cases provides with
      | @staged data _ held =>
          refine ⟨data, location, ?_, place, ?_⟩
          · simp only [SessionRequest.snapshot?, spelled, held]
          · exact .add online session
      | remembered readOnly remembered => simp [readOnly] at writable
      | measured readOnly held => simp [readOnly] at writable
  | @created path location _ spelled online session objects =>
      obtain rfl := Option.some.inj kind
      have place : (SessionRequest.createObject path).location? = some location := by
        simp [SessionRequest.location?, spelled, Except.toOption]
      have connected : (before.session.forget location).connected = true := online
      have holds := Holds.add connected session
      exact ⟨[], location, rfl, place, holds⟩

end Remote

end RemoteStreams
