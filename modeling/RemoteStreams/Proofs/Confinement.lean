import RemoteStreams.Proofs.StoreHistory
import RemoteStreams.Proofs.Twins

/-! # Confinement

What is done through one open object stays with that object and with what is stored where it is
(`RemoteStreams.Remote.Confined`). Opening and closing are no exceptions. Without faults, what they
come to depends on nothing but what they are confined to
(`RemoteStreams.CachedStream.openStream_opens`, `RemoteStreams.CachedStream.openStream_refuses`,
`RemoteStreams.Twins.close`).
-/

namespace RemoteStreams

namespace Remote

/-- At most `object` changed, and what is stored at `location`. -/
structure Confined (object : ObjectId) (location : ObjectPath) (before after : Remote) : Prop where
  connected : before.session.connected = true → after.session.connected = true
  quiet : before.faults = ∅ → after.faults = ∅
  truthful : before.Truthful → after.Truthful
  numbers : before.session.lastNumber ≤ after.session.lastNumber
  others : ∀ other : ObjectId, other.number ≤ before.session.lastNumber → other ≠ object →
    after.session.descriptors.find? other = before.session.descriptors.find? other
  elsewhere : ∀ place, place ≠ location → after.objects.find? place = before.objects.find? place

variable {object : ObjectId} {location : ObjectPath} {before middle after : Remote}

/-- What changes neither session nor store is confined to any object and any place. -/
theorem Confined.same (session : after.session = before.session)
    (objects : after.objects = before.objects) (quiet : before.faults = ∅ → after.faults = ∅) :
    Confined object location before after where
  connected := fun online => session ▸ online
  quiet := quiet
  truthful := fun truthful => truthful.same (by rw [session]) objects
  numbers := Nat.le_of_eq (by rw [session])
  others := fun other _ _ => by rw [session]
  elsewhere := fun place _ => by rw [objects]

/-- Steps that are confined to one object and one place are so together. -/
theorem Confined.trans (first : Confined object location before middle)
    (second : Confined object location middle after) : Confined object location before after where
  connected := fun online => second.connected (first.connected online)
  quiet := fun quiet => second.quiet (first.quiet quiet)
  truthful := fun truthful => second.truthful (first.truthful truthful)
  numbers := Nat.le_trans first.numbers second.numbers
  others := fun other numbered differs =>
    (second.others other (Nat.le_trans numbered first.numbers) differs).trans
      (first.others other numbered differs)
  elsewhere := fun place differs =>
    (second.elsewhere place differs).trans (first.elsewhere place differs)

theorem confined_noting (before : Remote) (event : Event) :
    Confined object location before (before.noting event) := .same rfl rfl id

theorem confined_requesting (before : Remote) :
    Confined object location before before.requesting := .same rfl rfl quiet_requesting

theorem confined_calling (before : Remote) (call : Call) :
    Confined object location before (before.calling call) :=
  .same rfl rfl fun quiet => quiet_calling quiet call

/-- What lets an object drift is confined to it. -/
theorem Drifts.confined {descriptor moved : Descriptor}
    (drifts : Drifts object before descriptor after moved) :
    Confined object location before after where
  connected := fun _ => drifts.serves.connected
  quiet := drifts.quiet
  truthful := fun truthful => truthful.same (by rw [drifts.session]; rfl) drifts.objects
  numbers := Nat.le_of_eq (by rw [drifts.session]; rfl)
  others := fun other _ differs => by
    rw [drifts.session]
    exact FiniteMap.find?_insert_of_ne _ _ differs
  elsewhere := fun place _ => by rw [drifts.objects]

/-- A request is confined to its object and to where it stores anything. -/
theorem Effect.confined {request : SessionRequest} {outcome : Outcome RemoteError SessionReply}
    (effect : before.Effect request (outcome, after)) (lasting : request ≠ .disconnect)
    (about : ∀ other, other ≠ object → request.object? ≠ some other)
    (elsewhere : ∀ place, place ≠ location →
      after.objects.find? place = before.objects.find? place)
    (quiet : before.faults = ∅ → after.faults = ∅) : Confined object location before after where
  connected := effect.stays_connected lasting
  quiet := quiet
  truthful := effect.truthful
  numbers := effect.lastNumber_le
  others := fun other numbered differs => effect.find?_eq numbered (about other differs) lasting
  elsewhere := elsewhere

/-- The next object was opened at `location`. -/
structure Gains (location : ObjectPath) (before after : Remote) (descriptor : Descriptor) :
    Prop where
  serves : after.Serves before.session.nextObject descriptor
  located : descriptor.location = location
  numbered : before.session.nextObject.number ≤ after.session.lastNumber
  confined : Confined before.session.nextObject location before after

/-- What came before did not take the number of the object. -/
theorem Gains.later {descriptor : Descriptor}
    (between : Confined before.session.nextObject location before middle)
    (same : middle.session.nextObject = before.session.nextObject)
    (gains : Gains location middle after descriptor) : Gains location before after descriptor where
  serves := same ▸ gains.serves
  located := gains.located
  numbered := same ▸ gains.numbered
  confined := between.trans (same ▸ gains.confined)

/-- A request for memory does not touch the object that was opened. -/
theorem Gains.requesting {descriptor : Descriptor}
    (gains : Gains location before after descriptor) :
    Gains location before after.requesting descriptor where
  serves := gains.serves.requesting.serves
  located := gains.located
  numbered := gains.numbered
  confined := gains.confined.trans (confined_requesting after)

end Remote

open Remote

/-- An object as it is opened, with the bytes that it has then. -/
def Descriptor.opened (location : ObjectPath) (mode : OpenMode) (data : Bytes) : Descriptor :=
  ⟨location, mode, 0, if mode.writable then .staged data false else .recorded data.length⟩

theorem Descriptor.upload?_opened (location : ObjectPath) (mode : OpenMode) (data : Bytes) :
    (opened location mode data).upload? = none := by
  cases mode <;> rfl

/-- The bytes that an object is opened with. One that is to be written is created if it is not
there. -/
def Remote.offers? (remote : Remote) (location : ObjectPath) (mode : OpenMode) : Option Bytes :=
  (remote.objects.find? location).or (if mode = .write then some [] else none)

/-- What comes of opening an object with a window: it needs an object, and room for the window. -/
def Remote.opening (remote : Remote) (location : ObjectPath) (mode : OpenMode)
    (sizes : BufferSizes) : Except StreamError Descriptor :=
  match remote.offers? location mode with
  | none => .error (.remote (.missing location))
  | some data =>
      if sizes.initial < Window.allocationBound then .ok (.opened location mode data)
      else .error (.allocation sizes.initial)

/-- How an object is opened depends on what the store has in its place, and on nothing else. -/
theorem Remote.opening_congr {first second : Remote} {location : ObjectPath}
    (same : first.objects.find? location = second.objects.find? location) (mode : OpenMode)
    (sizes : BufferSizes) :
    first.opening location mode sizes = second.opening location mode sizes := by
  simp only [opening, offers?, same]

variable {before : Remote} {path : String} {location : ObjectPath} {mode : OpenMode}
  {object : ObjectId} {descriptor : Descriptor} {data : Bytes}

namespace Session

/-- An object that is there is opened. -/
theorem openObject_present (quiet : before.faults = ∅) (online : before.session.connected = true)
    (truthful : before.Truthful) (spelled : ObjectPath.parse path = .ok location)
    (held : before.objects.find? location = some data) :
    ∃ after, openObject path mode before = (.ok before.session.nextObject, after) ∧
      Gains location before after (.opened location mode data) ∧
      after.objects = before.objects := by
  rcases openObject_cases (quiet ▸ FaultPlan.honest_empty) path mode with
    ⟨object, _, after, answered, opened, same⟩ | ⟨cause, after, failed, asked, excuse⟩
  · obtain ⟨place, content, learned, parsed, -, provides, rfl, session, objects⟩ :=
      openObject_ok answered
    obtain rfl : location = place := Except.ok.inj (spelled.symm.trans parsed)
    obtain ⟨bytes, present, rfl⟩ := provides.content_eq truthful
    obtain rfl : data = bytes := Option.some.inj (held.symm.trans present)
    have next : learned.nextObject = before.session.nextObject := by
      rw [nextObject, provides.lastNumber_eq, nextObject]
    have effect := SessionRequest.openObject_effect before path mode
    rw [SessionRequest.perform, Action.map_apply, answered] at effect
    rw [next] at answered
    refine ⟨after, answered, ⟨⟨opened.serves.connected, ?_, opened.serves.honest, provides.sound⟩,
      rfl, ?_, effect.confined (by simp) (by simp [SessionRequest.object?]) ?_ opened.quiet⟩,
      objects⟩
    · rw [session, add, next]
      exact FiniteMap.find?_insert_self _ _ _
    · rw [session, ← next]
      exact Nat.le_refl _
    · exact fun place _ => by rw [objects]
  · rcases excuse quiet location spelled with ⟨absent, -⟩ | ⟨offline, -⟩
    · rw [held] at absent
      contradiction
    · rw [online] at offline
      contradiction

/-- An object that is not there is not opened. -/
theorem openObject_absent (mode : OpenMode) (quiet : before.faults = ∅)
    (online : before.session.connected = true) (truthful : before.Truthful)
    (spelled : ObjectPath.parse path = .ok location)
    (absent : before.objects.find? location = none) :
    ∃ after, openObject path mode before = (.error (.missing location), after) ∧
      after.session = before.session ∧ after.objects = before.objects ∧ after.faults = ∅ := by
  rcases openObject_cases (quiet ▸ FaultPlan.honest_empty) path mode with
    ⟨object, _, after, answered, opened, same⟩ | ⟨cause, after, failed, asked, excuse⟩
  · obtain ⟨place, content, learned, parsed, -, provides, -⟩ := openObject_ok answered
    obtain rfl : location = place := Except.ok.inj (spelled.symm.trans parsed)
    obtain ⟨bytes, present, -⟩ := provides.content_eq truthful
    rw [absent] at present
    contradiction
  · rcases excuse quiet location spelled with ⟨-, rfl⟩ | ⟨offline, -⟩
    · have effect := SessionRequest.openObject_effect before path mode
      rw [SessionRequest.perform, Action.map_apply, failed] at effect
      exact ⟨after, failed, effect.session_of_error, asked.objects, asked.quiet quiet⟩
    · rw [online] at offline
      contradiction

/-- Without faults, a new object is empty, and it is in the store at once. -/
theorem createObject_quiet (quiet : before.faults = ∅) (online : before.session.connected = true)
    (spelled : ObjectPath.parse path = .ok location) :
    ∃ after, createObject path before = (.ok before.session.nextObject, after) ∧
      Gains location before after (.opened location .write []) ∧
      after.objects.find? location = some [] := by
  rcases createObject_cases (quiet ▸ FaultPlan.honest_empty) path with
    ⟨object, place, after, answered, parsed, serves, objects, calm⟩ | ⟨cause, after, failed, excuse⟩
  · obtain rfl : location = place := Except.ok.inj (spelled.symm.trans parsed)
    obtain ⟨_, -, -, rfl, session, -⟩ := createObject_ok answered
    have effect := SessionRequest.createObject_effect before path
    rw [SessionRequest.perform, Action.map_apply, answered] at effect
    refine ⟨after, answered, ⟨serves, rfl, ?_, effect.confined (by simp)
      (by simp [SessionRequest.object?]) (fun place differs => ?_) calm⟩, ?_⟩
    · rw [session]
      exact Nat.le_refl _
    · rw [objects, FiniteMap.find?_insert_of_ne _ _ differs]
    · rw [objects, FiniteMap.find?_insert_self]
  · exact (excuse quiet online location spelled).elim

/-- An object is closed, and stored if it is to be. -/
theorem closeObject_quiet (serves : before.Serves object descriptor) (quiet : before.faults = ∅) :
    ∃ after, closeObject object before = (.ok (), after) ∧
      after.objects.find? descriptor.location =
        descriptor.upload?.or (before.objects.find? descriptor.location) ∧
      Confined object descriptor.location before after := by
  have noted := serves.noting (.closingObject object)
  have found := descriptor_apply noted.serves
  have effect := SessionRequest.closeObject_effect before object
  rw [SessionRequest.perform, Action.map_apply] at effect
  have about : ∀ other, other ≠ object →
      (SessionRequest.closeObject object).object? ≠ some other := by
    intro other differs same
    exact differs (Option.some.inj same).symm
  cases uploads : descriptor.upload? with
  | none =>
      have closed : closeObject object before =
          (.ok (), (before.noting (.closingObject object)).removing object) := by
        simp [closeObject, Action.bind_apply, Remote.note, found, uploads, modifySession, removing]
      rw [closed] at effect
      exact ⟨_, closed, rfl, effect.confined (by simp) about (fun _ _ => rfl) id⟩
  | some data =>
      rcases upload_cases noted.serves.honest descriptor.location data with
        stored | ⟨cause, failed, armed⟩
      · have closed : closeObject object before =
            (.ok (), (((before.noting (.closingObject object)).calling
              (.storePut descriptor.location data)).storing descriptor.location data).removing
                object) := by
          simp [closeObject, Action.bind_apply, Remote.note, found, uploads, stored, modifySession,
            removing]
        rw [closed] at effect
        refine ⟨_, closed, FiniteMap.find?_insert_self _ _ _, effect.confined (by simp) about
          (fun place differs => FiniteMap.find?_insert_of_ne _ _ differs) fun quiet => ?_⟩
        exact (noted.serves.calling (.storePut descriptor.location data)).quiet quiet
      · exact (armed quiet).elim

end Session

namespace Link

/-- Without faults, an object that is there is opened with what the store has of it. -/
theorem openObject_present (quiet : before.faults = ∅) (online : before.session.connected = true)
    (truthful : before.Truthful) (spelled : ObjectPath.parse path = .ok location)
    (held : before.objects.find? location = some data) :
    ∃ after, openObject path mode before = (.ok before.session.nextObject, after) ∧
      Gains location before after (.opened location mode data) ∧
      after.objects = before.objects := by
  have called : Confined before.session.nextObject location before
      (before.calling (.openObject path mode)) := confined_calling before _
  obtain ⟨after, answered, gains, objects⟩ :=
    Session.openObject_present (called.quiet quiet) online (called.truthful truthful) spelled held
  refine ⟨after, ?_, .later called rfl gains, objects⟩
  simp only [openObject, Action.bind_apply, announce_quiet quiet, answered]
  rfl

/-- Without faults, an object that is not there is not opened, and nothing changes. -/
theorem openObject_absent (mode : OpenMode) (quiet : before.faults = ∅)
    (online : before.session.connected = true) (truthful : before.Truthful)
    (spelled : ObjectPath.parse path = .ok location)
    (absent : before.objects.find? location = none) :
    ∃ after, openObject path mode before = (.error (.missing location), after) ∧
      after.session = before.session ∧ after.objects = before.objects ∧ after.faults = ∅ := by
  have called : Confined before.session.nextObject location before
      (before.calling (.openObject path mode)) := confined_calling before _
  obtain ⟨after, failed, session, objects, still⟩ :=
    Session.openObject_absent mode (called.quiet quiet) online (called.truthful truthful) spelled
      absent
  refine ⟨after, ?_, session, objects, still⟩
  simp only [openObject, Action.bind_apply, announce_quiet quiet, failed]

/-- The same through the link. -/
theorem createObject_quiet (quiet : before.faults = ∅) (online : before.session.connected = true)
    (spelled : ObjectPath.parse path = .ok location) :
    ∃ after, createObject path before = (.ok before.session.nextObject, after) ∧
      Gains location before after (.opened location .write []) ∧
      after.objects.find? location = some [] := by
  have called : Confined before.session.nextObject location before
      (before.calling (.createObject path)) := confined_calling before _
  obtain ⟨after, answered, gains, stored⟩ :=
    Session.createObject_quiet (called.quiet quiet) online spelled
  refine ⟨after, ?_, .later called rfl gains, stored⟩
  simp only [createObject, Action.bind_apply, announce_quiet quiet, answered]
  rfl

/-- Without faults, an object is closed, and what was written to it is in the store. -/
theorem closeObject_quiet (serves : before.Serves object descriptor) (quiet : before.faults = ∅) :
    ∃ after, closeObject object before = (.ok (), after) ∧
      after.objects.find? descriptor.location =
        descriptor.upload?.or (before.objects.find? descriptor.location) ∧
      Confined object descriptor.location before after := by
  have called := serves.calling (.closeObject object)
  obtain ⟨after, closed, stored, confined⟩ :=
    Session.closeObject_quiet called.serves (called.quiet quiet)
  refine ⟨after, ?_, stored, called.drifts.confined.trans confined⟩
  simp only [closeObject, Action.bind_apply, announce_quiet quiet, closed]

end Link

namespace CachedStream

/-- What is offered is opened, or created. -/
theorem openOrCreate_offered (quiet : before.faults = ∅)
    (online : before.session.connected = true) (truthful : before.Truthful)
    (spelled : ObjectPath.parse path = .ok location)
    (offered : before.offers? location mode = some data) :
    ∃ after, openOrCreate path mode before = (.ok before.session.nextObject, after) ∧
      Gains location before after (.opened location mode data) ∧
      after.objects.find? location = some data := by
  cases held : before.objects.find? location with
  | some bytes =>
      obtain rfl : bytes = data := by simpa [offers?, held] using offered
      obtain ⟨after, answered, gains, objects⟩ :=
        Link.openObject_present quiet online truthful spelled held
      refine ⟨after, ?_, gains, objects ▸ held⟩
      simp only [openOrCreate, Action.bind_apply, Action.attempt, answered, Action.pure_apply]
  | none =>
      obtain ⟨rfl, rfl⟩ : mode = .write ∧ [] = data := by simpa [offers?, held] using offered
      obtain ⟨middle, failed, session, objects, still⟩ :=
        Link.openObject_absent .write quiet online truthful spelled held
      have between : Confined before.session.nextObject location before middle :=
        .same session objects fun _ => still
      obtain ⟨after, answered, gains, stored⟩ :=
        Link.createObject_quiet still (between.connected online) spelled
      have next : middle.session.nextObject = before.session.nextObject := by rw [session]
      rw [next] at answered
      refine ⟨after, ?_, .later between next gains, stored⟩
      simp only [openOrCreate, Action.bind_apply, Action.attempt, failed, RemoteError.missing,
        ↓reduceIte, answered]

/-- What is not offered is an error. -/
theorem openOrCreate_missing (quiet : before.faults = ∅)
    (online : before.session.connected = true) (truthful : before.Truthful)
    (spelled : ObjectPath.parse path = .ok location)
    (missing : before.offers? location mode = none) :
    ∃ after, openOrCreate path mode before = (.error (.missing location), after) ∧
      after.session = before.session ∧ after.objects = before.objects ∧ after.faults = ∅ := by
  obtain ⟨absent, reads⟩ : before.objects.find? location = none ∧ mode ≠ .write := by
    simpa [offers?, Option.or_eq_none_iff] using missing
  obtain ⟨after, failed, session, objects, still⟩ :=
    Link.openObject_absent mode quiet online truthful spelled absent
  refine ⟨after, ?_, session, objects, still⟩
  simp only [openOrCreate, Action.bind_apply, Action.attempt, failed, RemoteError.missing, reads,
    ↓reduceIte, Action.fail_apply]

variable {sizes : BufferSizes}

/-- A stream that can be opened gets a new object and an empty window. -/
theorem openStream_opens (quiet : before.faults = ∅) (online : before.session.connected = true)
    (truthful : before.Truthful) (ordered : sizes.initial ≤ sizes.max)
    (spelled : ObjectPath.parse path = .ok location)
    (opens : before.opening location mode sizes = .ok descriptor) :
    ∃ after, openStream path mode sizes before =
        (.ok (fresh before.session.nextObject path sizes), after) ∧
      Gains location before after descriptor ∧
      after.objects.find? location = before.offers? location mode := by
  cases offered : before.offers? location mode with
  | none => simp [opening, offered] at opens
  | some data =>
      obtain ⟨allocatable, rfl⟩ : sizes.initial < Window.allocationBound ∧
          Descriptor.opened location mode data = descriptor := by
        simp only [opening, offered] at opens
        split at opens
        · next room => exact ⟨room, Except.ok.inj opens⟩
        · contradiction
      have noted : Confined before.session.nextObject location before
          (before.noting (.openingCached path mode)) := confined_noting before _
      obtain ⟨after, answered, gains, stored⟩ :=
        openOrCreate_offered (noted.quiet quiet) (noted.connected online) (noted.truthful truthful)
          spelled offered
      have granted := Remote.affords_of_quiet (gains.confined.quiet (noted.quiet quiet)) allocatable
      refine ⟨after.requesting, ?_, .later noted rfl gains.requesting, stored⟩
      simp only [openStream, Action.bind_apply, Remote.note, Action.modify_apply, Action.mapError,
        answered, Outcome.mapError_ok, Remote.request_apply, granted, Window.create,
        Nat.not_lt.mpr ordered, ↓reduceIte]
      rfl

/-- A stream that cannot be opened leaves no object open. One that was created stays. -/
theorem openStream_refuses (quiet : before.faults = ∅) (online : before.session.connected = true)
    (truthful : before.Truthful) (ordered : sizes.initial ≤ sizes.max)
    (spelled : ObjectPath.parse path = .ok location) {cause : StreamError}
    (refuses : before.opening location mode sizes = .error cause) :
    ∃ after, openStream path mode sizes before = (.error cause, after) ∧
      after.objects.find? location = before.offers? location mode ∧
      Confined before.session.nextObject location before after := by
  have noted : Confined before.session.nextObject location before
      (before.noting (.openingCached path mode)) := confined_noting before _
  cases offered : before.offers? location mode with
  | none =>
      obtain rfl : StreamError.remote (.missing location) = cause := by
        simpa [opening, offered] using refuses
      obtain ⟨after, failed, session, objects, still⟩ :=
        openOrCreate_missing (noted.quiet quiet) (noted.connected online) (noted.truthful truthful)
          spelled offered
      have absent : before.objects.find? location = none := (Option.or_eq_none_iff.mp offered).1
      refine ⟨after, ?_, ?_, noted.trans (.same session objects fun _ => still)⟩
      · simp only [openStream, Action.bind_apply, Remote.note, Action.modify_apply,
          Action.mapError, failed, Outcome.mapError_error]
      · rw [objects]
        exact absent
  | some data =>
      obtain ⟨large, rfl⟩ : Window.allocationBound ≤ sizes.initial ∧
          StreamError.allocation sizes.initial = cause := by
        simp only [opening, offered] at refuses
        split at refuses
        · contradiction
        · next large => exact ⟨Nat.not_lt.mp large, Except.error.inj refuses⟩
      obtain ⟨middle, answered, gains, stored⟩ :=
        openOrCreate_offered (noted.quiet quiet) (noted.connected online) (noted.truthful truthful)
          spelled offered
      have asked := gains.requesting
      have between := noted.trans asked.confined
      obtain ⟨after, closed, kept, ending⟩ :=
        Link.closeObject_quiet asked.serves (between.quiet quiet)
      refine ⟨after, ?_, ?_, between.trans ending⟩
      · simp only [openStream, Action.bind_apply, Remote.note, Action.modify_apply,
          Action.mapError, answered, Outcome.mapError_ok, Remote.request_apply,
          Remote.not_affords large, Window.create, Nat.not_lt.mpr ordered, Bool.false_eq_true,
          ↓reduceIte, abandonObject, Action.attempt, closed, Action.pure_apply, Action.fail_apply]
      · rw [Descriptor.upload?_opened] at kept
        exact kept.trans stored

/-- If the window was written back or not, the object is closed. -/
theorem settle_of_flush {stream : CachedStream} {kept : Attached} {after : Remote}
    {outcome : Outcome StreamError Unit} (lasts : ∀ breach, outcome ≠ .broken breach)
    (flushed : flush ⟨stream, before.noting (.closingCached stream.path)⟩ = (outcome, kept))
    (closed : Link.closeObject stream.object kept.remote = (.ok (), after)) :
    settle ⟨stream, before⟩ = (outcome, ⟨kept.stream, after⟩) := by
  cases outcome with
  | ok done =>
      simp only [settle, Action.bind_apply, current_apply, note_apply, Action.attempt, flushed,
        ask_apply, closed, Outcome.mapError_ok, Action.pure_apply]
  | error cause =>
      simp only [settle, Action.bind_apply, current_apply, note_apply, Action.attempt, flushed,
        ask_apply, closed, Outcome.mapError_ok, Action.fail_apply]
  | broken breach => exact (lasts breach rfl).elim

/-- A breach leaves the object open. -/
theorem settle_of_broken {stream : CachedStream} {kept : Attached} {breach : Breach}
    (broken : flush ⟨stream, before.noting (.closingCached stream.path)⟩ = (.broken breach, kept)) :
    settle ⟨stream, before⟩ = (.broken breach, kept) := by
  simp only [settle, Action.bind_apply, current_apply, note_apply, Action.attempt, broken]

end CachedStream

namespace Twins

variable {twins : Twins}

/-- What is left of the two objects is confined to them, and the same is stored for both. -/
structure Settled (twins : Twins) (first second : Remote) : Prop where
  left : Confined twins.left twins.descriptor.location twins.leftSide first
  right : Confined twins.right twins.descriptor.location twins.rightSide second
  stored : first.objects.find? twins.descriptor.location =
    second.objects.find? twins.descriptor.location

/-- Remote sides that are alike for the two streams are settled for them. -/
theorem AtRemote.settled {first second : Remote} (remotes : twins.AtRemote first second) :
    twins.Settled first second := by
  obtain ⟨moved, left, right⟩ := remotes
  refine ⟨left.confined, right.confined, ?_⟩
  rw [left.objects, right.objects, twins.stored]

/-- Both objects are closed, and both are stored or neither is. -/
theorem closeObject {first second : Remote} (remotes : twins.AtRemote first second) :
    ∃ after after', Link.closeObject twins.left first = (.ok (), after) ∧
      Link.closeObject twins.right second = (.ok (), after') ∧ twins.Settled after after' := by
  have settled := remotes.settled
  obtain ⟨moved, left, right⟩ := remotes
  obtain ⟨after, closed, stored, confined⟩ :=
    Link.closeObject_quiet left.serves (left.quiet twins.leftQuiet)
  obtain ⟨after', closed', stored', confined'⟩ :=
    Link.closeObject_quiet right.serves (right.quiet twins.rightQuiet)
  rw [left.drifted.location] at stored confined
  rw [right.drifted.location] at stored' confined'
  refine ⟨after, after', closed, closed', settled.left.trans confined,
    settled.right.trans confined', ?_⟩
  rw [stored, stored', settled.stored]

/-- It does not matter to the remote sides that the streams go away. -/
theorem Settled.dropped {first second : Remote} (settled : twins.Settled first second)
    (stream stream' : CachedStream) :
    twins.Settled (stream.dropped first) (stream'.dropped second) := by
  have drops : ∀ {object : ObjectId} {location : ObjectPath} (stream : CachedStream)
      (remote : Remote), Confined object location remote (stream.dropped remote) ∧
        (stream.dropped remote).objects = remote.objects := by
    intro object location stream remote
    unfold CachedStream.dropped
    split
    · exact ⟨confined_noting remote _, rfl⟩
    · exact ⟨.same rfl rfl id, rfl⟩
  obtain ⟨confined, objects⟩ := drops stream first
  obtain ⟨confined', objects'⟩ := drops stream' second
  refine ⟨settled.left.trans confined, settled.right.trans confined', ?_⟩
  rw [objects, objects', settled.stored]

/-- Settling the two streams ends alike. -/
theorem settle {first second : Attached} (streams : twins.AtStream first second) :
    (CachedStream.settle first).1.Matches StreamError.Same Eq (CachedStream.settle second).1 ∧
      twins.Settled (CachedStream.settle first).2.remote (CachedStream.settle second).2.remote := by
  obtain ⟨leftStream, before⟩ := first
  obtain ⟨rightStream, other⟩ := second
  obtain ⟨stream, rfl, rfl, remotes⟩ := streams
  have noted : twins.AtStream
      ⟨stream.named twins.left, before.noting (.closingCached stream.path)⟩
      ⟨stream.named twins.right, other.noting (.closingCached stream.path)⟩ := by
    obtain ⟨moved, left, right⟩ := remotes
    exact ⟨stream, rfl, rfl, moved, left.trans (left.serves.noting _).drifts,
      right.trans (right.serves.noting _).drifts⟩
  obtain ⟨ended, after⟩ := flush _ _ noted
  generalize flushed : CachedStream.flush
    ⟨stream.named twins.left, before.noting (.closingCached stream.path)⟩ = result at ended after
  generalize flushed' : CachedStream.flush
    ⟨stream.named twins.right, other.noting (.closingCached stream.path)⟩ = result' at ended after
  obtain ⟨outcome, kept⟩ := result
  obtain ⟨outcome', kept'⟩ := result'
  obtain ⟨window, same, same', between⟩ := after
  obtain ⟨closed, closed', closes, closes', settled⟩ := closeObject between
  cases ended with
  | ok values =>
      rw [CachedStream.settle_of_flush (by simp) flushed closes,
        CachedStream.settle_of_flush (by simp) flushed' closes']
      exact ⟨.ok values, settled⟩
  | error causes =>
      rw [CachedStream.settle_of_flush (by simp) flushed closes,
        CachedStream.settle_of_flush (by simp) flushed' closes']
      exact ⟨.error causes, settled⟩
  | broken breach =>
      rw [CachedStream.settle_of_broken flushed, CachedStream.settle_of_broken flushed']
      exact ⟨.broken breach, between.settled⟩

/-- Closing the two streams ends alike. -/
theorem close {first second : Attached} (streams : twins.AtStream first second) :
    (first.stream.close first.remote).1.Matches StreamError.Same Eq
        (second.stream.close second.remote).1 ∧
      twins.Settled (first.stream.close first.remote).2 (second.stream.close second.remote).2 := by
  obtain ⟨ended, settled⟩ := settle streams
  exact ⟨ended, settled.dropped _ _⟩

end Twins

end RemoteStreams
