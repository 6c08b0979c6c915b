import RemoteStreams.Proofs.Lifetime

/-! # Histories of a session

A session is asked for one thing after another, and meanwhile things happen around it:
remembered sizes get lost, other faults come into store, others change the objects. A
history lists what happened and how it ended, latest first (`RemoteStreams.History`).

What a request comes to is stated once, whatever faults are in store: it fails and changes
nothing, or it has one of a few effects on the session and on the objects
(`RemoteStreams.SessionRequest.perform_effect`). What lasts through a history is shown from
these effects.
-/

namespace RemoteStreams

/-- A call on a session. -/
inductive SessionRequest where
  | connect
  | openObject (path : String) (mode : OpenMode)
  | createObject (path : String)
  | readObject (object : ObjectId) (buffer : Bytes)
  | writeObject (object : ObjectId) (data : Bytes)
  | seekObject (object : ObjectId) (target : SeekTarget)
  | position (object : ObjectId)
  | closeObject (object : ObjectId)
  | disconnect
deriving DecidableEq, Repr

/-- What a session answers. -/
inductive SessionReply where
  | done
  | object (object : ObjectId)
  /-- The number of bytes read, and the buffer with them at its front. -/
  | filled (count : Nat) (buffer : Bytes)
  /-- The number of bytes written. -/
  | accepted (count : Nat)
  | position (position : Nat)
deriving DecidableEq, Repr

namespace SessionRequest

/-- Asks the session. -/
def perform : SessionRequest → RemoteAction SessionReply
  | connect => (fun _ => .done) <$> Session.connect
  | openObject path mode => .object <$> Session.openObject path mode
  | createObject path => .object <$> Session.createObject path
  | readObject object buffer =>
      (fun filled => .filled filled.1 filled.2) <$> Session.readObject object buffer
  | writeObject object data => .accepted <$> Session.writeObject object data
  | seekObject object target => .position <$> Session.seekObject object target
  | position object => .position <$> Session.position object
  | closeObject object => (fun _ => .done) <$> Session.closeObject object
  | disconnect => (fun _ => .done) <$> Session.disconnect

/-- The open object that a request is about. -/
def object? : SessionRequest → Option ObjectId
  | readObject object _ | writeObject object _ | seekObject object _ | position object
  | closeObject object => some object
  | connect | openObject _ _ | createObject _ | disconnect => none

/-- The open object of which a request moves at most the position. -/
def moves? : SessionRequest → Option ObjectId
  | readObject object _ | seekObject object _ | position object => some object
  | writeObject object data => if data = [] then some object else none
  | connect | openObject _ _ | createObject _ | closeObject _ | disconnect => none

/-- A request that moves an object is one for that object. -/
theorem object?_of_moves? {request : SessionRequest} {object : ObjectId}
    (moves : request.moves? = some object) : request.object? = some object := by
  cases request with
  | writeObject other data =>
      simp only [moves?] at moves
      split at moves
      · exact moves
      · contradiction
  | readObject | seekObject | position => exact moves
  | _ => contradiction

end SessionRequest

/-- What happens to a session next: it is asked for something, or its surroundings change. -/
inductive Turn where
  | ask (request : SessionRequest)
  /-- A remembered size gets lost. -/
  | forget (location : ObjectPath)
  /-- From now on these faults are in store. -/
  | arm (faults : FaultPlan)
  /-- Someone else changes the objects. -/
  | replace (objects : FiniteMap ObjectPath Bytes)

namespace Turn

/-- Carries out what happens. The surroundings change without an answer that matters. -/
def perform : Turn → RemoteAction SessionReply
  | ask request => request.perform
  | forget location => fun remote =>
      (.ok .done, { remote with session := remote.session.forget location })
  | arm faults => fun remote => (.ok .done, { remote with faults })
  | replace objects => fun remote => (.ok .done, { remote with objects })

/-- Only the session changes the objects. -/
def Own : Turn → Prop
  | ask _ | forget _ | arm _ => True
  | replace _ => False

instance : (turn : Turn) → Decidable turn.Own
  | ask _ | forget _ | arm _ => inferInstanceAs (Decidable True)
  | replace _ => inferInstanceAs (Decidable False)

end Turn

/-- Whether an operation delivered a value. -/
def Outcome.isOk {ε α : Type} : Outcome ε α → Bool
  | .ok _ => true
  | .error _ | .broken _ => false

/-- What delivers no value is not a success. -/
theorem Outcome.isOk_eq_false {ε α : Type} {outcome : Outcome ε α}
    (unanswered : ∀ value, outcome ≠ .ok value) : outcome.isOk = false := by
  cases outcome with
  | ok value => exact (unanswered value rfl).elim
  | error cause => rfl
  | broken breach => rfl

/-- Success does not depend on what is made of the value. -/
@[simp] theorem Outcome.isOk_map {ε α β : Type} (convert : α → β) (outcome : Outcome ε α) :
    (outcome.map convert).isOk = outcome.isOk := by
  cases outcome <;> rfl

/-- Something that happened to a session, when that was, and how it ended. -/
structure Entry where
  before : Remote
  turn : Turn
  outcome : Outcome RemoteError SessionReply

/-- What happened to a session so far, latest first, and what came of it. -/
structure History where
  past : List Entry
  now : Remote

namespace History

/-- The history after one more turn. -/
def next (history : History) (turn : Turn) : History where
  past := ⟨history.now, turn, (turn.perform history.now).1⟩ :: history.past
  now := (turn.perform history.now).2

/-- The history of a sequence of turns, which are given latest first. -/
def after (start : Remote) : (turns : List Turn) → History
  | [] => ⟨[], start⟩
  | turn :: earlier => (after start earlier).next turn

end History

/-- The session with a connection. -/
def Session.joined (session : Session) : Session := { session with connected := true }

namespace Remote

/-- What the object at `location` is opened with: the object itself if it is to be written
to, else its size. A size that is remembered need not be asked for. -/
inductive Provides (before : Remote) (location : ObjectPath) :
    OpenMode → Content → Session → Prop
  | staged {mode : OpenMode} {data : Bytes} (writable : mode.writable = true)
      (held : before.objects.find? location = some data) :
      Provides before location mode (.staged data false) before.session
  | remembered {mode : OpenMode} {size : Nat} (readOnly : mode.writable = false)
      (remembered : before.session.sizes.find? location = some size) :
      Provides before location mode (.recorded size) before.session
  | measured {mode : OpenMode} {data : Bytes} (readOnly : mode.writable = false)
      (held : before.objects.find? location = some data) :
      Provides before location mode (.recorded data.length)
        (before.session.remember location data.length)

/-- What a request does to the session and the objects. Of the rest of the remote side only
the uploads of a close are followed. -/
inductive Effect (before : Remote) :
    SessionRequest → Outcome RemoteError SessionReply × Remote → Prop
  | failed {request : SessionRequest} {outcome : Outcome RemoteError SessionReply}
      {after : Remote} (unanswered : ∀ reply, outcome ≠ .ok reply)
      (session : after.session = before.session) (objects : after.objects = before.objects) :
      Effect before request (outcome, after)
  | connected {after : Remote} (session : after.session = before.session.joined)
      (objects : after.objects = before.objects) : Effect before .connect (.ok .done, after)
  | opened {path : String} {mode : OpenMode} {location : ObjectPath} {content : Content}
      {learned : Session} {after : Remote} (spelled : ObjectPath.parse path = .ok location)
      (online : before.session.connected = true)
      (provides : before.Provides location mode content learned)
      (session : after.session = learned.add ⟨location, mode, 0, content⟩)
      (objects : after.objects = before.objects) :
      Effect before (.openObject path mode) (.ok (.object learned.nextObject), after)
  | created {path : String} {location : ObjectPath} {after : Remote}
      (spelled : ObjectPath.parse path = .ok location)
      (online : before.session.connected = true)
      (session : after.session =
        (before.session.forget location).add ⟨location, .write, 0, .staged [] false⟩)
      (objects : after.objects = before.objects.insert location []) :
      Effect before (.createObject path) (.ok (.object before.session.nextObject), after)
  | moved {request : SessionRequest} {object : ObjectId} {descriptor : Descriptor}
      {position : Nat} {reply : SessionReply} {after : Remote}
      (moves : request.moves? = some object)
      (found : before.session.descriptors.find? object = some descriptor)
      (session : after.session = before.session.update object { descriptor with position })
      (objects : after.objects = before.objects) : Effect before request (.ok reply, after)
  | written {object : ObjectId} {data staged : Bytes} {modified : Bool}
      {descriptor : Descriptor} {after : Remote} (present : data ≠ [])
      (found : before.session.descriptors.find? object = some descriptor)
      (content : descriptor.content = .staged staged modified)
      (session : after.session = before.session.update object (descriptor.write staged data))
      (objects : after.objects = before.objects)
      (within : descriptor.position + data.length < Word.signedBound) :
      Effect before (.writeObject object data) (.ok (.accepted data.length), after)
  /-- A write as far as no content reaches was given up, after it had touched what is staged. -/
  | spilled {object : ObjectId} {data staged : Bytes} {modified : Bool} {descriptor : Descriptor}
      {breach : Breach} {after : Remote}
      (found : before.session.descriptors.find? object = some descriptor)
      (content : descriptor.content = .staged staged modified)
      (within : descriptor.position < Word.signedBound)
      (session : after.session =
        before.session.update object (descriptor.spilled staged modified data))
      (objects : after.objects = before.objects) :
      Effect before (.writeObject object data) (.broken breach, after)
  | closed {object : ObjectId} {descriptor : Descriptor} {after : Remote}
      (found : before.session.descriptors.find? object = some descriptor)
      (kept : descriptor.upload? = none) (session : after.session = before.session.remove object)
      (objects : after.objects = before.objects) (calls : after.calls = before.calls) :
      Effect before (.closeObject object) (.ok .done, after)
  | uploaded {object : ObjectId} {descriptor : Descriptor} {data : Bytes} {after : Remote}
      (found : before.session.descriptors.find? object = some descriptor)
      (uploads : descriptor.upload? = some data)
      (session : after.session = (before.session.forget descriptor.location).remove object)
      (objects : after.objects = before.objects.insert descriptor.location data)
      (calls : after.calls = before.calls ++ [.storePut descriptor.location data]) :
      Effect before (.closeObject object) (.ok .done, after)
  | disconnected {after : Remote} (session : after.session = before.session.disconnected)
      (objects : after.objects = before.objects) : Effect before .disconnect (.ok .done, after)

namespace Provides

variable {before : Remote} {location : ObjectPath} {mode : OpenMode} {content : Content}
  {learned : Session}

/-- What the store provides can be open for the mode. -/
theorem sound (provides : before.Provides location mode content learned) :
    Descriptor.Sound ⟨location, mode, 0, content⟩ := by
  cases provides with
  | staged writable held => exact writable
  | remembered readOnly remembered => exact readOnly
  | measured readOnly held => exact readOnly

theorem descriptors_eq (provides : before.Provides location mode content learned) :
    learned.descriptors = before.session.descriptors := by
  cases provides with
  | staged writable held => rfl
  | remembered readOnly remembered => rfl
  | measured readOnly held =>
      unfold Session.remember
      split <;> rfl

theorem lastNumber_eq (provides : before.Provides location mode content learned) :
    learned.lastNumber = before.session.lastNumber := by
  cases provides with
  | staged writable held => rfl
  | remembered readOnly remembered => rfl
  | measured readOnly held =>
      unfold Session.remember
      split <;> rfl

theorem connected_eq (provides : before.Provides location mode content learned) :
    learned.connected = before.session.connected := by
  cases provides with
  | staged writable held => rfl
  | remembered readOnly remembered => rfl
  | measured readOnly held => exact Session.remember_connected _ _ _

end Provides

variable {before after : Remote}

/-- An announced call is refused or goes through; either way it leaves nothing but its trace. -/
theorem announce_ends (call : Call) (before : Remote) :
    (∃ cause, announce call before = (.error cause, before.calling call)) ∨
      ∃ fault, announce call before = (.ok fault, before.calling call) := by
  cases refused : (before.faults.next call.primitive).bind (Fault.refusal? call) with
  | some cause => exact .inl ⟨cause, by simp [announce, Action.bind_apply, refused]⟩
  | none =>
      refine .inr ⟨before.faults.next call.primitive, ?_⟩
      simp [announce, Action.bind_apply, refused]

end Remote

open Remote

variable {before : Remote}

namespace Session

/-- The content of an object that is opened, or an error without effect. -/
theorem contentFor_ends (location : ObjectPath) (mode : OpenMode) (before : Remote) :
    (∃ content learned after, contentFor location mode before = (.ok content, after) ∧
      before.Provides location mode content learned ∧ after.session = learned ∧
      after.objects = before.objects) ∨
    ∃ cause after, contentFor location mode before = (.error cause, after) ∧
      after.session = before.session ∧ after.objects = before.objects := by
  cases writable : mode.writable with
  | true =>
      rcases announce_ends (.storeGet location) before with ⟨cause, refused⟩ | ⟨fault, passed⟩
      · refine .inr ⟨cause, before.calling (.storeGet location), ?_, rfl, rfl⟩
        simp [contentFor, writable, fetch, Action.bind_apply, refused]
      · cases held : before.objects.find? location with
        | none =>
            refine .inr ⟨.missing location, before.calling (.storeGet location), ?_, rfl, rfl⟩
            simp [contentFor, writable, fetch, Remote.object, Action.bind_apply, passed, calling,
              held]
        | some data =>
            refine .inl ⟨_, _, before.calling (.storeGet location), ?_, .staged writable held, rfl,
              rfl⟩
            simp [contentFor, writable, fetch, Remote.object, Action.bind_apply, passed, calling,
              held]
  | false =>
      cases remembered : before.session.sizes.find? location with
      | some size =>
          refine .inl ⟨_, _, before, ?_, .remembered writable remembered, rfl, rfl⟩
          simp [contentFor, writable, sizeOf, Action.bind_apply, remembered]
      | none =>
          rcases announce_ends (.storeHead location) before with ⟨cause, refused⟩ | ⟨fault, passed⟩
          · refine .inr ⟨cause, before.calling (.storeHead location), ?_, rfl, rfl⟩
            simp [contentFor, writable, sizeOf, Remote.size, Action.bind_apply, remembered, refused]
          · cases held : before.objects.find? location with
            | none =>
                refine .inr ⟨.missing location, before.calling (.storeHead location), ?_, rfl, rfl⟩
                simp [contentFor, writable, sizeOf, Remote.size, Remote.object, Action.bind_apply,
                  remembered, passed, calling, held]
            | some data =>
                refine .inl ⟨_, _, { before.calling (.storeHead location) with
                  session := before.session.remember location data.length }, ?_,
                  .measured writable held, rfl, rfl⟩
                simp [contentFor, writable, sizeOf, Remote.size, Remote.object, Action.bind_apply,
                  remembered, passed, calling, held, modifySession, Action.map_apply]

/-- A session that is told to disconnect does, and drops what is still open. -/
theorem disconnect_ends (before : Remote) :
    (disconnect before).1 = .ok () ∧
      (disconnect before).2.session = before.session.disconnected ∧
      (disconnect before).2.objects = before.objects ∧
      (disconnect before).2.calls = before.calls := by
  by_cases idle : before.session.openObjects = 0 <;>
    by_cases online : before.session.connected = true <;>
      simp [disconnect, Action.bind_apply, idle, online, modifySession, note, noting]

/-- An upload stores the whole object, or it is refused and stores nothing. -/
theorem upload_ends (location : ObjectPath) (data : Bytes) (before : Remote) :
    (∃ cause, upload location data before =
      (.error cause, before.calling (.storePut location data))) ∨
    upload location data before =
      (.ok (), (before.calling (.storePut location data)).storing location data) := by
  rcases announce_ends (.storePut location data) before with ⟨cause, refused⟩ | ⟨fault, passed⟩
  · refine .inl ⟨cause, ?_⟩
    simp [upload, put, Action.bind_apply, refused]
  · refine .inr ?_
    simp [upload, put, Action.bind_apply, passed, modifySession, storing]

/-- A request for an open object needs a connection, and the object must be open. -/
theorem descriptor_ends (object : ObjectId) (before : Remote) :
    (∃ cause, Session.descriptor object before = (.error cause, before)) ∨
    ∃ descriptor, Session.descriptor object before = (.ok descriptor, before) ∧
      before.session.descriptors.find? object = some descriptor := by
  by_cases online : before.session.connected = true
  · cases found : before.session.descriptors.find? object with
    | none =>
        refine .inl ⟨.generic (.notOpen object), ?_⟩
        simp [Session.descriptor, requireConnection, Action.bind_apply, online, found]
    | some descriptor =>
        refine .inr ⟨descriptor, ?_, rfl⟩
        simp [Session.descriptor, requireConnection, Action.bind_apply, online, found]
  · refine .inl ⟨.generic .notConnected, ?_⟩
    simp [Session.descriptor, requireConnection, Action.bind_apply, online]

/-- The bytes of an open object, or an error; nothing changes but the trace of calls. -/
theorem bytesOf_ends (descriptor : Descriptor) (start stop : Nat) (before : Remote) :
    ∃ after, after.session = before.session ∧ after.objects = before.objects ∧
      ((∃ answer, bytesOf descriptor start stop before = (.ok answer, after)) ∨
        ∃ cause, bytesOf descriptor start stop before = (.error cause, after)) := by
  cases kind : descriptor.content with
  | staged data modified =>
      refine ⟨before, rfl, rfl, .inl ⟨data.slice start stop, ?_⟩⟩
      simp [bytesOf, kind]
  | recorded size =>
      refine ⟨before.calling (.storeGetRange descriptor.location start stop), rfl, rfl, ?_⟩
      rcases announce_ends (.storeGetRange descriptor.location start stop) before with
        ⟨cause, refused⟩ | ⟨fault, passed⟩
      · refine .inr ⟨cause, ?_⟩
        simp [bytesOf, kind, fetchRange, Action.bind_apply, refused]
      · cases held : before.objects.find? descriptor.location with
        | none =>
            refine .inr ⟨.missing descriptor.location, ?_⟩
            simp [bytesOf, kind, fetchRange, Remote.object, Action.bind_apply, passed, calling, held]
        | some data =>
            by_cases past : data.length ≤ start
            · refine .inr ⟨.generic (.rangePastEnd start data.length), ?_⟩
              simp [bytesOf, kind, fetchRange, Remote.object, Action.bind_apply, passed, calling,
                held, past]
            · refine .inl ⟨Fault.delivered fault (data.slice start stop), ?_⟩
              simp [bytesOf, kind, fetchRange, Remote.object, Action.bind_apply, passed, calling,
                held, past]

/-- An open object that is put in its own place changes nothing. -/
theorem update_self {session : Session} {object : ObjectId} {descriptor : Descriptor}
    (found : session.descriptors.find? object = some descriptor) :
    session.update object descriptor = session := by
  simp only [update, FiniteMap.insert_eq_self found]

/-- Steps that leave the session alone may come before a change of an open object. -/
theorem session_updating {between : Remote} (same : between.session = before.session)
    (object : ObjectId) (descriptor : Descriptor) :
    (between.updating object descriptor).session = before.session.update object descriptor := by
  rw [updating, same]

end Session

namespace Remote.Effect

variable {outcome : Outcome RemoteError SessionReply} {request : SessionRequest} {cause : RemoteError}
  {breach : Breach} {after : Remote}

theorem of_error (session : after.session = before.session)
    (objects : after.objects = before.objects) : before.Effect request (.error cause, after)  := by
  exact .failed (by simp) session objects

theorem of_broken (session : after.session = before.session)
    (objects : after.objects = before.objects) : before.Effect request (.broken breach, after)  := by
  exact .failed (by simp) session objects

/-- A request that leaves an open object where it is. -/
theorem stays {object : ObjectId} {descriptor : Descriptor} {reply : SessionReply}
    (moves : request.moves? = some object)
    (found : before.session.descriptors.find? object = some descriptor)
    (session : after.session = before.session) (objects : after.objects = before.objects) :
    before.Effect request (.ok reply, after) :=
  .moved moves found (session.trans (Session.update_self found).symm) objects

end Remote.Effect

namespace SessionRequest

open Session

variable (before : Remote)

theorem connect_effect : before.Effect .connect (connect.perform before) := by
  rw [perform, Action.map_apply]
  by_cases online : before.session.connected = true
  · have ended : Session.connect before = (.ok (), before) := by
      simp [Session.connect, Action.bind_apply, online]
    rw [ended]
    refine .connected ?_ rfl
    rw [Session.joined, ← online]
  · have ended : Session.connect before = (.ok (), { before with
        session := { before.session with connected := true }
        log := before.log ++ [.connected] }) := by
      simp [Session.connect, Action.bind_apply, online, modifySession, note, noting]
    rw [ended]
    exact .connected rfl rfl

theorem openObject_effect (path : String) (mode : OpenMode) :
    before.Effect (.openObject path mode) ((openObject path mode).perform before) := by
  rw [perform, Action.map_apply]
  cases spelled : ObjectPath.parse path with
  | error fault =>
      have ended : Session.openObject path mode before =
          (.error (.invalidPath fault), before.noting (.openingObject path mode)) := by
        simp [Session.openObject, Action.bind_apply, note, locate, spelled]
      rw [ended]
      exact .of_error rfl rfl
  | ok location =>
      by_cases online : before.session.connected = true
      · have noted : (before.noting (.openingObject path mode)).session.connected = true := online
        rcases contentFor_ends location mode (before.noting (.openingObject path mode)) with
          ⟨content, learned, after, answered, provides, session, objects⟩ |
            ⟨cause, after, failed, session, objects⟩
        · have ended : Session.openObject path mode before =
              (.ok learned.nextObject, after.adding ⟨location, mode, 0, content⟩) := by
            simp [Session.openObject, Action.bind_apply, note, locate, spelled, requireConnection,
              noted, answered, register_apply, session]
          have provided : before.Provides location mode content learned := by
            cases provides with
            | staged writable held => exact .staged writable held
            | remembered readOnly remembered => exact .remembered readOnly remembered
            | measured readOnly held => exact .measured readOnly held
          rw [ended]
          refine .opened spelled online provided ?_ objects
          rw [adding, session]
        · have ended : Session.openObject path mode before = (.error cause, after) := by
            simp [Session.openObject, Action.bind_apply, note, locate, spelled, requireConnection,
              noted, failed]
          rw [ended]
          exact .of_error session objects
      · have ended : Session.openObject path mode before =
            (.error (.generic .notConnected), before.noting (.openingObject path mode)) := by
          simp [Session.openObject, Action.bind_apply, note, locate, spelled, requireConnection,
            noting, online]
        rw [ended]
        exact .of_error rfl rfl

theorem createObject_effect (path : String) :
    before.Effect (.createObject path) ((createObject path).perform before) := by
  rw [perform, Action.map_apply]
  cases spelled : ObjectPath.parse path with
  | error fault =>
      have ended : Session.createObject path before =
          (.error (.invalidPath fault), before.noting (.creatingObject path)) := by
        simp [Session.createObject, Action.bind_apply, note, locate, spelled]
      rw [ended]
      exact .of_error rfl rfl
  | ok location =>
      by_cases online : before.session.connected = true
      · have noted : (before.noting (.creatingObject path)).session.connected = true := online
        rcases upload_ends location [] (before.noting (.creatingObject path)) with
          ⟨cause, failed⟩ | stored
        · have ended : Session.createObject path before = (.error cause,
              (before.noting (.creatingObject path)).calling (.storePut location [])) := by
            simp [Session.createObject, Action.bind_apply, note, locate, spelled, requireConnection,
              noted, failed]
          rw [ended]
          exact .of_error rfl rfl
        · have ended : Session.createObject path before = (.ok before.session.nextObject,
              (((before.noting (.creatingObject path)).calling
                (.storePut location [])).storing location []).adding
                  ⟨location, .write, 0, .staged [] false⟩) := by
            simp [Session.createObject, Action.bind_apply, note, locate, spelled, requireConnection,
              noted, stored, register_apply]
            rfl
          rw [ended]
          exact .created spelled online rfl rfl
      · have ended : Session.createObject path before =
            (.error (.generic .notConnected), before.noting (.creatingObject path)) := by
          simp [Session.createObject, Action.bind_apply, note, locate, spelled, requireConnection,
            noting, online]
        rw [ended]
        exact .of_error rfl rfl

theorem readObject_effect (object : ObjectId) (buffer : Bytes) :
    before.Effect (.readObject object buffer) ((readObject object buffer).perform before) := by
  rw [perform, Action.map_apply]
  rcases descriptor_ends object before with ⟨cause, failed⟩ | ⟨descriptor, answered, found⟩
  · have ended : Session.readObject object buffer before = (.error cause, before) := by
      simp [Session.readObject, Action.bind_apply, failed]
    rw [ended]
    exact .of_error rfl rfl
  · by_cases readable : descriptor.mode.readable = true
    · by_cases idle : descriptor.content.length ≤ descriptor.position ∨ buffer = []
      · have ended : Session.readObject object buffer before = (.ok (0, buffer), before) := by
          simp [Session.readObject, Action.bind_apply, answered, readable, idle]
        rw [ended]
        exact .stays rfl found rfl rfl
      · by_cases fits : descriptor.position + buffer.length < Word.bound
        · obtain ⟨after, session, objects, ⟨answer, got⟩ | ⟨cause, failed⟩⟩ := bytesOf_ends descriptor
            descriptor.position (min (descriptor.position + buffer.length)
              descriptor.content.length) before
          · have ended : Session.readObject object buffer before =
                (.ok ((answer.take buffer.length).length,
                    buffer.overlay 0 (answer.take buffer.length)),
                  (after.updating object { descriptor with
                    position := descriptor.position + (answer.take buffer.length).length }).noting
                      (.objectRead object (answer.take buffer.length).length
                        descriptor.position)) := by
              simp [Session.readObject, Action.bind_apply, Action.map_apply, answered, readable, idle,
                Word.add, fits, got, modifySession, note, updating]
            rw [ended]
            exact .moved rfl found (session_updating session object _) objects
          · have ended : Session.readObject object buffer before = (.error cause, after) := by
              simp [Session.readObject, Action.bind_apply, answered, readable, idle, Word.add, fits,
                failed]
            rw [ended]
            exact .of_error session objects
        · have ended : Session.readObject object buffer before =
              (.broken .additionOverflow, before) := by
            simp [Session.readObject, Action.bind_apply, answered, readable, idle, Word.add, fits]
          rw [ended]
          exact .of_broken rfl rfl
    · have ended : Session.readObject object buffer before =
          (.error (.generic (.notReadable object)), before) := by
        simp [Session.readObject, Action.bind_apply, answered, readable]
      rw [ended]
      exact .of_error rfl rfl

/-- This is the effect of a write, be it that it is given up. -/
theorem writeObject_effect (object : ObjectId) (data : Bytes) :
    before.Effect (.writeObject object data) ((writeObject object data).perform before) := by
  rw [perform, Action.map_apply]
  rcases descriptor_ends object before with ⟨cause, failed⟩ | ⟨descriptor, answered, found⟩
  · have ended : Session.writeObject object data before = (.error cause, before) := by
      simp [Session.writeObject, Action.bind_apply, failed]
    rw [ended]
    exact .of_error rfl rfl
  · by_cases writable : descriptor.mode.writable = true
    · cases content : descriptor.content with
      | recorded size =>
          have ended : Session.writeObject object data before =
              (.error (.generic (.nothingStaged object)), before) := by
            simp [Session.writeObject, Action.bind_apply, answered, writable, content]
          rw [ended]
          exact .of_error rfl rfl
      | staged staged modified =>
          by_cases empty : data = []
          · have ended : Session.writeObject object data before = (.ok 0, before) := by
              simp [Session.writeObject, Action.bind_apply, answered, writable, content, empty]
            have moves : (writeObject object data).moves? = some object := by
              simp only [moves?, empty, ↓reduceIte]
            rw [ended]
            exact .stays moves found rfl rfl
          · by_cases addressable : descriptor.position < Word.signedBound
            · by_cases fits : descriptor.position + data.length < Word.signedBound
              · have ended : Session.writeObject object data before = (.ok data.length,
                    (before.updating object (descriptor.write staged data)).noting
                      (.objectWritten object data.length descriptor.position)) := by
                  simp [Session.writeObject, Action.bind_apply, Action.map_apply, answered, writable,
                    content, empty, Action.ensure, addressable, fits, modifySession, note, updating]
                rw [ended]
                exact .written empty found content rfl rfl fits
              · have ended : Session.writeObject object data before = (.broken .contentTooLarge,
                    before.updating object (descriptor.spilled staged modified data)) := by
                  simp [Session.writeObject, Action.bind_apply, answered, writable, content, empty,
                    Action.ensure, addressable, fits, modifySession, updating]
                rw [ended]
                exact .spilled found content addressable rfl rfl
            · have ended : Session.writeObject object data before =
                  (.broken .contentTooLarge, before) := by
                simp [Session.writeObject, Action.bind_apply, answered, writable, content, empty,
                  Action.ensure, addressable]
              rw [ended]
              exact .of_broken rfl rfl
    · have ended : Session.writeObject object data before =
          (.error (.generic (.notWritable object)), before) := by
        simp [Session.writeObject, Action.bind_apply, answered, writable]
      rw [ended]
      exact .of_error rfl rfl

/-- A seek moves the position of the object, or fails; asking for the position is such a seek. -/
theorem seek_effect {request : SessionRequest} {object : ObjectId}
    (moves : request.moves? = some object) (target : SeekTarget) :
    before.Effect request ((SessionReply.position <$> Session.seekObject object target) before) := by
  rw [Action.map_apply]
  rcases descriptor_ends object before with ⟨cause, failed⟩ | ⟨descriptor, answered, found⟩
  · have ended : Session.seekObject object target before = (.error cause, before) := by
      simp [Session.seekObject, Action.bind_apply, failed]
    rw [ended]
    exact .of_error rfl rfl
  · cases reached : Word.ofInt? (descriptor.target target) with
    | none =>
        have ended : Session.seekObject object target before =
            (.error (.generic (.seekOutOfRange object (descriptor.target target))), before) := by
          simp [Session.seekObject, Action.bind_apply, answered, reached]
        rw [ended]
        exact .of_error rfl rfl
    | some position =>
        have ended : Session.seekObject object target before =
            (.ok position, before.updating object { descriptor with position }) := by
          simp [Session.seekObject, Action.bind_apply, Action.map_apply, answered, reached,
            modifySession, updating]
        rw [ended]
        exact .moved moves found rfl rfl

theorem closeObject_effect (object : ObjectId) :
    before.Effect (.closeObject object) ((closeObject object).perform before) := by
  rw [perform, Action.map_apply]
  rcases descriptor_ends object (before.noting (.closingObject object)) with
    ⟨cause, failed⟩ | ⟨descriptor, answered, found⟩
  · have ended : Session.closeObject object before =
        (.error cause, before.noting (.closingObject object)) := by
      simp [Session.closeObject, Action.bind_apply, note, failed]
    rw [ended]
    exact .of_error rfl rfl
  · cases uploads : descriptor.upload? with
    | none =>
        have ended : Session.closeObject object before =
            (.ok (), (before.noting (.closingObject object)).removing object) := by
          simp [Session.closeObject, Action.bind_apply, note, answered, uploads, modifySession,
            removing]
        rw [ended]
        exact .closed found uploads rfl rfl rfl
    | some data =>
        rcases upload_ends descriptor.location data (before.noting (.closingObject object)) with
          ⟨cause, failed⟩ | stored
        · have ended : Session.closeObject object before =
              (.error cause, (before.noting (.closingObject object)).calling
                (.storePut descriptor.location data)) := by
            simp [Session.closeObject, Action.bind_apply, note, answered, uploads, failed]
          rw [ended]
          exact .of_error rfl rfl
        · have ended : Session.closeObject object before =
              (.ok (), (((before.noting (.closingObject object)).calling
                (.storePut descriptor.location data)).storing descriptor.location data).removing
                  object) := by
            simp [Session.closeObject, Action.bind_apply, note, answered, uploads, stored,
              modifySession, removing]
          rw [ended]
          exact .uploaded found uploads rfl rfl rfl

theorem disconnect_effect : before.Effect .disconnect (disconnect.perform before) := by
  obtain ⟨answered, session, objects, -⟩ := Session.disconnect_ends before
  rw [perform, Action.map_apply, answered]
  exact .disconnected session objects

/-- Whatever faults are in store, a request has one of the effects that are listed. -/
theorem perform_effect (request : SessionRequest) :
    before.Effect request (request.perform before) := by
  cases request with
  | connect => exact connect_effect before
  | openObject path mode => exact openObject_effect before path mode
  | createObject path => exact createObject_effect before path
  | readObject object buffer => exact readObject_effect before object buffer
  | writeObject object data => exact writeObject_effect before object data
  | seekObject object target =>
      have moves : (seekObject object target).moves? = some object := rfl
      exact seek_effect before moves target
  | position object =>
      have moves : (SessionRequest.position object).moves? = some object := rfl
      exact seek_effect before moves (.current 0)
  | closeObject object => exact closeObject_effect before object
  | disconnect => exact disconnect_effect before

end SessionRequest

namespace Session

variable {path : String} {object : ObjectId} {after : Remote}

/-- What an object was opened with. -/
theorem openObject_ok {mode : OpenMode}
    (opens : openObject path mode before = (.ok object, after)) :
    ∃ location content learned, ObjectPath.parse path = .ok location ∧
      before.session.connected = true ∧ before.Provides location mode content learned ∧
      object = learned.nextObject ∧ after.session = learned.add ⟨location, mode, 0, content⟩ ∧
      after.objects = before.objects := by
  have effect := SessionRequest.openObject_effect before path mode
  rw [SessionRequest.perform, Action.map_apply, opens] at effect
  generalize answered : Outcome.map SessionReply.object (Outcome.ok object) = outcome at effect
  cases effect with
  | failed unanswered session objects => exact (unanswered _ answered.symm).elim
  | opened spelled online provides session objects =>
      cases answered
      exact ⟨_, _, _, spelled, online, provides, rfl, session, objects⟩
  | moved moves found session objects => simp [SessionRequest.moves?] at moves

/-- What creating an object stored and opened. -/
theorem createObject_ok (creates : createObject path before = (.ok object, after)) :
    ∃ location, ObjectPath.parse path = .ok location ∧ before.session.connected = true ∧
      object = before.session.nextObject ∧
      after.session =
        (before.session.forget location).add ⟨location, .write, 0, .staged [] false⟩ ∧
      after.objects = before.objects.insert location [] := by
  have effect := SessionRequest.createObject_effect before path
  rw [SessionRequest.perform, Action.map_apply, creates] at effect
  generalize answered : Outcome.map SessionReply.object (Outcome.ok object) = outcome at effect
  cases effect with
  | failed unanswered session objects => exact (unanswered _ answered.symm).elim
  | created spelled online session objects =>
      cases answered
      exact ⟨_, spelled, online, rfl, session, objects⟩
  | moved moves found session objects => simp [SessionRequest.moves?] at moves

end Session

namespace Remote.Effect

variable {request : SessionRequest} {outcome : Outcome RemoteError SessionReply} {after : Remote}

/-- A request that does not deliver a value leaves the session as it is, unless it is a write that
is given up. -/
theorem session_of_failed (effect : before.Effect request (outcome, after))
    (failed : outcome.isOk = false)
    (kept : ∀ object data breach, request = .writeObject object data → outcome ≠ .broken breach) :
    after.session = before.session := by
  cases effect with
  | failed unanswered session objects => exact session
  | spilled found content within session objects => exact (kept _ _ _ rfl rfl).elim
  | connected | opened | created | moved | written | closed | uploaded | disconnected =>
      contradiction

/-- A request that ends with an error leaves the session as it is. -/
theorem session_of_error {cause : RemoteError}
    (effect : before.Effect request (.error cause, after)) : after.session = before.session :=
  effect.session_of_failed rfl fun _ _ _ _ => by simp

/-- Numbers are given out in order. -/
theorem lastNumber_le (effect : before.Effect request (outcome, after)) :
    before.session.lastNumber ≤ after.session.lastNumber := by
  cases effect with
  | failed unanswered session objects => exact Nat.le_of_eq (by rw [session])
  | connected session objects => exact Nat.le_of_eq (by rw [session]; rfl)
  | opened spelled online provides session objects =>
      rw [session, ← provides.lastNumber_eq]
      exact Nat.le_succ _
  | created spelled online session objects =>
      rw [session]
      exact Nat.le_succ _
  | moved moves found session objects => exact Nat.le_of_eq (by rw [session]; rfl)
  | written present found content session objects => exact Nat.le_of_eq (by rw [session]; rfl)
  | spilled found content within session objects => exact Nat.le_of_eq (by rw [session]; rfl)
  | closed found kept session objects calls => exact Nat.le_of_eq (by rw [session]; rfl)
  | uploaded found uploads session objects calls => exact Nat.le_of_eq (by rw [session]; rfl)
  | disconnected session objects => exact Nat.le_of_eq (by rw [session]; rfl)

/-- Only a request to disconnect ends a connection. -/
theorem stays_connected (effect : before.Effect request (outcome, after))
    (lasting : request ≠ .disconnect) (online : before.session.connected = true) :
    after.session.connected = true := by
  cases effect with
  | failed unanswered session objects => rwa [session]
  | connected session objects => rw [session]; rfl
  | opened spelled connected provides session objects =>
      rw [session]
      exact provides.connected_eq.trans online
  | created spelled connected session objects => rw [session]; exact online
  | moved moves found session objects => rw [session]; exact online
  | written present found content session objects => rw [session]; exact online
  | spilled found content within session objects => rw [session]; exact online
  | closed found kept session objects calls => rw [session]; exact online
  | uploaded found uploads session objects calls => rw [session]; exact online
  | disconnected session objects => exact (lasting rfl).elim

/-- A request that is not about an open object does nothing to it, unless it ends the session. -/
theorem find?_eq (effect : before.Effect request (outcome, after)) {object : ObjectId}
    (numbered : object.number ≤ before.session.lastNumber)
    (foreign : request.object? ≠ some object) (lasting : request ≠ .disconnect) :
    after.session.descriptors.find? object = before.session.descriptors.find? object := by
  cases effect with
  | failed unanswered session objects => rw [session]
  | connected session objects => rw [session]; rfl
  | @opened _ _ _ _ learned _ spelled online provides session objects =>
      have differs : object ≠ learned.nextObject := by
        rintro rfl
        simp only [Session.nextObject, provides.lastNumber_eq] at numbered
        omega
      rw [session, Session.add, ← provides.descriptors_eq]
      exact FiniteMap.find?_insert_of_ne _ _ differs
  | created spelled online session objects =>
      have differs : object ≠ before.session.nextObject := by
        rintro rfl
        simp only [Session.nextObject] at numbered
        omega
      rw [session]
      exact FiniteMap.find?_insert_of_ne _ _ differs
  | moved moves found session objects =>
      rw [SessionRequest.object?_of_moves? moves] at foreign
      rw [session]
      exact FiniteMap.find?_insert_of_ne _ _ fun same => foreign (congrArg some same.symm)
  | written present found content session objects =>
      rw [session]
      exact FiniteMap.find?_insert_of_ne _ _ fun same => foreign (congrArg some same.symm)
  | spilled found content within session objects =>
      rw [session]
      exact FiniteMap.find?_insert_of_ne _ _ fun same => foreign (congrArg some same.symm)
  | closed found kept session objects calls =>
      rw [session]
      exact FiniteMap.find?_erase_of_ne _ fun same => foreign (congrArg some same.symm)
  | uploaded found uploads session objects calls =>
      rw [session]
      exact FiniteMap.find?_erase_of_ne _ fun same => foreign (congrArg some same.symm)
  | disconnected session objects => exact (lasting rfl).elim

end Remote.Effect

end RemoteStreams
