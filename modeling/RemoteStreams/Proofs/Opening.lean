import RemoteStreams.Proofs.Closing

/-! # Opening under faults

Whatever fails, opening an object delivers the next one or none (`RemoteStreams.Remote.Obtains`). A
stream that cannot be opened leaves no object behind, unless the object that got no window could not
be closed again (`RemoteStreams.CachedStream.openStream_opening`).
-/

namespace RemoteStreams

open Remote

namespace Remote

variable {before middle : Remote}

/-- A request for a new object delivers the next one, or none. -/
inductive Obtains (before : Remote) : Outcome RemoteError ObjectId × Remote → Prop
  | nothing {outcome : Outcome RemoteError ObjectId} {after : Remote}
      (unanswered : ∀ object, outcome ≠ .ok object) (session : after.session = before.session) :
      Obtains before (outcome, after)
  | object {descriptor : Descriptor} {after : Remote}
      (opened : after.session.descriptors =
        before.session.descriptors.insert before.session.nextObject descriptor)
      (number : after.session.lastNumber = before.session.lastNumber + 1)
      (online : before.session.connected = true) (connected : after.session.connected = true)
      (sound : descriptor.Sound) (start : descriptor.position = 0)
      (unmodified : descriptor.upload? = none) :
      Obtains before (.ok before.session.nextObject, after)

/-- What was obtained after steps that left the session alone was obtained from before them. -/
theorem Obtains.later {ended : Outcome RemoteError ObjectId × Remote}
    (same : middle.session = before.session) (obtains : middle.Obtains ended) :
    before.Obtains ended := by
  cases obtains with
  | nothing unanswered session => exact .nothing unanswered (session.trans same)
  | object opened number online connected sound start unmodified =>
      rw [same] at opened number online ⊢
      exact .object opened number online connected sound start unmodified

/-- A call over the link is announced first. -/
theorem Obtains.linked {call : Call} {next : Option Fault → RemoteAction ObjectId}
    (obtains : ∀ fault (remote : Remote), remote.Obtains (next fault remote)) :
    before.Obtains ((announce call >>= next) before) := by
  rw [Action.bind_apply]
  rcases announce_ends call before with ⟨cause, refused⟩ | ⟨fault, passed⟩
  · rw [refused]
    exact .nothing (by simp) rfl
  · rw [passed]
    have called : (before.calling call).session = before.session := rfl
    exact .later called (obtains fault (before.calling call))

end Remote

/-- An object that is opened is the next one, or nothing is opened. -/
theorem Session.openObject_obtains (path : String) (mode : OpenMode) (before : Remote) :
    before.Obtains (openObject path mode before) := by
  have effect := SessionRequest.openObject_effect before path mode
  rw [SessionRequest.perform, Action.map_apply] at effect
  generalize opens : openObject path mode before = ended at effect
  obtain ⟨outcome, after⟩ := ended
  cases outcome with
  | ok object =>
      obtain ⟨location, content, learned, -, online, provides, rfl, session, -⟩ :=
        openObject_ok opens
      have next : learned.nextObject = before.session.nextObject := by
        simp only [nextObject, provides.lastNumber_eq]
      have unmodified : Descriptor.upload? ⟨location, mode, 0, content⟩ = none := by
        cases provides <;> rfl
      rw [next]
      refine .object ?_ ?_ online ?_ provides.sound rfl unmodified
      · rw [session, Session.add, next, provides.descriptors_eq]
      · rw [session, Session.add, provides.lastNumber_eq]
      · rw [session]
        exact provides.connected_eq.trans online
  | error cause => exact .nothing (by simp) effect.session_of_error
  | broken breach => exact .nothing (by simp) (effect.session_of_failed rfl (by simp))

/-- An object that is created is the next one, or nothing is opened. -/
theorem Session.createObject_obtains (path : String) (before : Remote) :
    before.Obtains (createObject path before) := by
  have effect := SessionRequest.createObject_effect before path
  rw [SessionRequest.perform, Action.map_apply] at effect
  generalize creates : createObject path before = ended at effect
  obtain ⟨outcome, after⟩ := ended
  cases outcome with
  | ok object =>
      obtain ⟨location, -, online, rfl, session, -⟩ := createObject_ok creates
      have sound : Descriptor.Sound ⟨location, .write, 0, .staged [] false⟩ := rfl
      exact .object (by rw [session]; rfl) (by rw [session]; rfl) online
        (by rw [session]; exact online) sound rfl rfl
  | error cause => exact .nothing (by simp) effect.session_of_error
  | broken breach => exact .nothing (by simp) (effect.session_of_failed rfl (by simp))

/-- Opening an object through the link obtains the next one or nothing. -/
theorem Link.openObject_obtains (path : String) (mode : OpenMode) (before : Remote) :
    before.Obtains (openObject path mode before) :=
  .linked fun _ => Session.openObject_obtains path mode

/-- Creating an object through the link obtains the next one or nothing. -/
theorem Link.createObject_obtains (path : String) (before : Remote) :
    before.Obtains (createObject path before) :=
  .linked fun _ => Session.createObject_obtains path

namespace CachedStream

/-- An object that is opened or else created is the next one, or nothing is opened. -/
theorem openOrCreate_obtains (path : String) (mode : OpenMode) (before : Remote) :
    before.Obtains (openOrCreate path mode before) := by
  have obtains := Link.openObject_obtains path mode before
  simp only [openOrCreate, Action.bind_apply, Action.attempt]
  generalize Link.openObject path mode before = ended at obtains
  obtain ⟨outcome, after⟩ := ended
  cases obtains with
  | object opened number online connected sound start unmodified =>
      exact .object opened number online connected sound start unmodified
  | nothing unanswered session =>
      cases outcome with
      | ok object => exact (unanswered object rfl).elim
      | broken breach => exact .nothing (by simp) session
      | error cause =>
          cases cause with
          | notFound missing reason =>
              dsimp only
              rw [Action.ite_apply]
              split
              · exact .later session (Link.createObject_obtains path after)
              · exact .nothing (by simp) session
          | _ => exact .nothing (by simp) session

section Maintains

open Action.Maintains

variable {holds : Remote → Prop} (lasting : Remote.Lasting (fun _ => True) holds)

include lasting

/-- What lasts is maintained while an object is opened or created. -/
theorem maintains_openOrCreate (path : String) (mode : OpenMode) :
    Action.Maintains holds (openOrCreate path mode) := by
  refine bind (.attempt (Link.maintains_openObject lasting trivial trivial trivial path mode))
    fun answer => ?_
  split
  · exact .pure _
  · exact .ite (Link.maintains_createObject lasting trivial trivial path) (.fail _)
  · exact .fail _

/-- What lasts is maintained while a stream is closed. -/
theorem maintains_close (stream : CachedStream) : Action.Maintains holds stream.close := by
  intro remote held
  have transfers := lasting_of_remote lasting stream.object fun _ _ => trivial
  have settles : Action.Maintains (On stream.object holds) settle := by
    refine Lasting.current_bind fun current same => bind (transfers.note _) fun _ =>
      bind (.attempt transfers.flush) fun flushed => ?_
    have closes : Action.Maintains (On stream.object holds)
        (ask (Link.closeObject current.object)) := fun attached on =>
      ⟨on.1, Link.maintains_closeObject lasting trivial trivial _ _ on.2⟩
    refine bind (.attempt closes) fun closed => ?_
    split
    · exact .fail _
    · exact .fail _
    · exact .pure _
  have settled := settles ⟨stream, remote⟩ ⟨rfl, held⟩
  unfold close
  generalize settle ⟨stream, remote⟩ = ended at settled
  simp only [dropped]
  split
  · exact lasting.noting _ _ settled.2
  · exact settled.2

end Maintains

/-- What opening a stream comes to. Other objects stay as they are, and so does the next one, unless
it is the object of the stream or could not be given up. -/
structure Opening (before : Remote) (path : String) (sizes : BufferSizes)
    (ended : Outcome StreamError CachedStream × Remote) : Prop where
  frames : Frames (· = before.session.nextObject) before ended.2
  delivers : ∀ stream, ended.1 = .ok stream →
    stream = fresh before.session.nextObject path sizes ∧
    sizes.initial < Window.allocationBound ∧
    before.session.nextObject.number ≤ ended.2.session.lastNumber ∧
    ∃ descriptor, ended.2.Serves before.session.nextObject descriptor ∧
      descriptor.position = 0 ∧ descriptor.Faithful ended.2.objects
  retracts : (∀ stream, ended.1 ≠ .ok stream) → before.faults.Spares .closeObject →
    ended.2.session.descriptors.find? before.session.nextObject = none ∨
    ended.2.session.descriptors.find? before.session.nextObject =
      before.session.descriptors.find? before.session.nextObject
  room : ∀ slots, ended.1 ≠ .error (.tableFull slots)

variable {before : Remote} {path : String} {mode : OpenMode} {sizes : BufferSizes}

/-- An attempt that leaves the session alone has opened nothing. -/
theorem Opening.nothing {outcome : Outcome StreamError CachedStream} {after : Remote}
    (unanswered : ∀ stream, outcome ≠ .ok stream)
    (room : ∀ slots, outcome ≠ .error (.tableFull slots))
    (honest : after.faults.Honest) (session : after.session = before.session) :
    Opening before path sizes (outcome, after) where
  frames := .same (fun _ => honest) session
  delivers := fun stream answered => (unanswered stream answered).elim
  retracts := fun _ _ => .inr (by rw [session])
  room := room

/-- What was asked of the link before does not matter. -/
theorem Opening.later {middle : Remote} {ended : Outcome StreamError CachedStream × Remote}
    (descriptors : middle.session.descriptors = before.session.descriptors)
    (number : middle.session.lastNumber = before.session.lastNumber)
    (connected : before.session.connected = true → middle.session.connected = true)
    (honest : before.faults.Honest → middle.faults.Honest)
    (spares : before.faults.Spares .closeObject → middle.faults.Spares .closeObject)
    (opening : Opening middle path sizes ended) : Opening before path sizes ended := by
  obtain ⟨frames, delivers, retracts, room⟩ := opening
  have next : middle.session.nextObject = before.session.nextObject := by
    simp only [Session.nextObject, number]
  rw [next] at frames delivers retracts
  rw [descriptors] at retracts
  have linked : Frames (· = before.session.nextObject) before middle :=
    ⟨honest, connected, Nat.le_of_eq number.symm, fun _ _ => by rw [descriptors]⟩
  exact ⟨linked.trans frames, delivers,
    fun unanswered spared => retracts unanswered (spares spared), room⟩

/-- An object that is of no use is closed, if it can be, and nobody is told otherwise. -/
theorem abandonObject_ends {object : ObjectId} {descriptor : Descriptor} (path : String)
    (serves : before.Serves object descriptor) :
    ∃ after, abandonObject path object before = (.ok (), after) ∧
      ∃ ended, before.Closes object descriptor ended ∧ after.session = ended.2.session ∧
        after.faults = ended.2.faults := by
  have closes := Link.closeObject_closes serves
  have lasts := closes.lasts
  simp only [abandonObject, Action.bind_apply, Action.attempt]
  generalize Link.closeObject object before = ended at closes lasts
  obtain ⟨outcome, after⟩ := ended
  cases outcome with
  | ok done => exact ⟨after, rfl, _, closes, rfl, rfl⟩
  | error cause => exact ⟨after.noting (.orphaned path cause), rfl, _, closes, rfl, rfl⟩
  | broken breach => exact (lasts breach rfl).elim

/-- An object that was opened but got no window is closed. -/
theorem Opening.abandoned {middle after : Remote} {descriptor : Descriptor}
    {ended : Outcome RemoteError Unit × Remote} {cause : StreamError}
    (frames : Frames (· = before.session.nextObject) before middle)
    (spares : before.faults.Spares .closeObject → middle.faults.Spares .closeObject)
    (closes : middle.Closes before.session.nextObject descriptor ended)
    (unmodified : descriptor.upload? = none) (session : after.session = ended.2.session)
    (faults : after.faults = ended.2.faults)
    (room : ∀ slots, cause ≠ .tableFull slots) :
    Opening before path sizes (.error cause, after) where
  frames := frames.trans (closes.frames.trans (.same (faults ▸ id) session))
  delivers := by simp
  retracts := fun _ spared => by
    rw [session]
    exact .inl (closes.of_ok (closes.of_unmodified (spares spared) unmodified)).1
  room := fun slots same => room slots (Outcome.error.inj same)

/-- A stream starts with a window exactly if the memory for it is granted. -/
theorem create_eq (ordered : sizes.initial ≤ sizes.max) (granted : Bool) :
    Window.create sizes.initial sizes.max granted =
      if granted then .ok ⟨Bytes.zeros sizes.initial, 0, 0, sizes.max⟩
      else .error (.allocation sizes.initial) :=
  if_neg (Nat.not_lt.mpr ordered)

/-- A stream is opened on what the store holds. -/
theorem openStream_faithful (honest : before.faults.Honest) (path : String) (mode : OpenMode)
    (ordered : sizes.initial ≤ sizes.max) (stream : CachedStream)
    (opens : (openStream path mode sizes before).1 = .ok stream) :
    ∃ descriptor, (openStream path mode sizes before).2.Serves stream.object descriptor ∧
      descriptor.Faithful (openStream path mode sizes before).2.objects := by
  rcases openStream_cases honest path mode ordered with
    ⟨object, descriptor, after, answered, opened, -⟩ | ⟨unanswered, -⟩
  · rw [answered] at opens ⊢
    obtain rfl := Outcome.ok.inj opens
    exact ⟨descriptor, opened.serves, opened.faithful⟩
  · exact (unanswered stream _ (Prod.ext opens rfl)).elim

/-- This is how every attempt to open a cached stream ends. -/
theorem openStream_opening (honest : before.faults.Honest) (path : String) (mode : OpenMode)
    (ordered : sizes.initial ≤ sizes.max) :
    Opening before path sizes (openStream path mode sizes before) := by
  have faithful := openStream_faithful honest path mode ordered
  have noted : (before.noting (.openingCached path mode)).faults.Honest := honest
  have obtains := openOrCreate_obtains path mode (before.noting (.openingCached path mode))
  have trusted := maintains_openOrCreate lasting_honest path mode _ noted
  have sparing := maintains_openOrCreate (lasting_spares .closeObject) path mode
    (before.noting (.openingCached path mode))
  simp only [openStream, Action.bind_apply, Remote.note, Action.modify_apply, Action.mapError]
    at faithful ⊢
  generalize openOrCreate path mode (before.noting (.openingCached path mode)) = ended
    at faithful obtains trusted sparing
  obtain ⟨outcome, middle⟩ := ended
  cases obtains with
  | nothing unanswered session =>
      cases outcome with
      | ok object => exact (unanswered object rfl).elim
      | error cause => exact .nothing (by simp) (by simp) trusted session
      | broken breach => exact .nothing (by simp) (by simp) trusted session
  | @object descriptor _ opened number online connected sound start unmodified =>
      have serves : middle.Serves before.session.nextObject descriptor :=
        ⟨connected, by rw [opened]; exact FiniteMap.find?_insert_self _ _ _, trusted, sound⟩
      have frames : Frames (· = before.session.nextObject) before middle := {
        honest := fun _ => trusted
        connected := fun _ => connected
        numbers := by
          rw [number]
          exact Nat.le_succ _
        others := fun other differs => by
          rw [opened]
          exact FiniteMap.find?_insert_of_ne _ _ differs }
      have asked := serves.requesting.serves
      have between : Frames (· = before.session.nextObject) before middle.requesting :=
        frames.trans (.same (fun _ => asked.honest) rfl)
      simp only [Outcome.mapError_ok, Remote.request_apply, create_eq ordered] at faithful ⊢
      cases granted : middle.affords sizes.initial with
      | true =>
          simp only [granted, ↓reduceIte, Action.pure_apply] at faithful ⊢
          exact {
            frames := between
            delivers := fun stream answered => by
              obtain ⟨_, served, faithful⟩ := faithful stream answered
              obtain rfl := Outcome.ok.inj answered
              obtain rfl := Option.some.inj (asked.found.symm.trans served.found)
              exact ⟨rfl, Remote.lt_of_affords granted, Nat.le_of_eq number.symm, descriptor, asked,
                start, faithful⟩
            retracts := fun unanswered => (unanswered _ rfl).elim
            room := by simp }
      | false =>
          obtain ⟨after, abandons, ended, closes, session, faults⟩ := abandonObject_ends path asked
          have abandoned : abandonObject path
              (before.noting (.openingCached path mode)).session.nextObject middle.requesting =
                (.ok (), after) := abandons
          simp only [Bool.false_eq_true, ↓reduceIte, Action.bind_apply, abandoned,
            Action.fail_apply]
          exact .abandoned between
            (fun spared => (lasting_spares .closeObject).requesting trivial _ (sparing spared))
            closes unmodified session faults (by simp)

end CachedStream

end RemoteStreams
