import RemoteStreams.CachedStream.Lifetime
import RemoteStreams.Proofs.Coherence
import RemoteStreams.Proofs.WriteBack

/-! # Opening and closing

A stream that opens is coherent and stands at the start of its object, which is
as it was in the store, or empty if it was created
(`RemoteStreams.CachedStream.openStream_cases`). Closing a stream that nothing
stands in the way of leaves in the store the file that its user saw last
(`RemoteStreams.CachedStream.close_apply`).
-/

namespace RemoteStreams

/-- Staged content that was not modified is the one in the store. -/
def Descriptor.Faithful (descriptor : Descriptor) (objects : FiniteMap ObjectPath Bytes) : Prop :=
  ∀ data, descriptor.content = .staged data false → objects.find? descriptor.location = some data

/-- What is staged stays faithful while the object is used, since changes mark it as modified. -/
theorem Descriptor.Evolves.faithful {earlier later : Descriptor}
    {objects : FiniteMap ObjectPath Bytes} (evolved : earlier.Evolves later)
    (faithful : earlier.Faithful objects) : later.Faithful objects := by
  intro data unmodified
  rw [evolved.location]
  rcases evolved.content with same | ⟨old, kept, new, -, modified⟩
  · exact faithful data (same ▸ unmodified)
  · rw [modified] at unmodified
    simp at unmodified

namespace Remote

/-- Calls that open nothing and store nothing. A size may have been learned. -/
structure Asks (before after : Remote) : Prop where
  connected : after.session.connected = before.session.connected
  objects : after.objects = before.objects
  honest : before.faults.Honest → after.faults.Honest
  quiet : before.faults = ∅ → after.faults = ∅

/-- No size that is remembered for `location` is wrong. -/
def Remembers (remote : Remote) (location : ObjectPath) : Prop :=
  ∀ size data, remote.session.sizes.find? location = some size →
    remote.objects.find? location = some data → data.length = size

/-- An object was opened, and it was created if it is to be written and was not there. -/
structure Opened (before : Remote) (path : String) (mode : OpenMode) (object : ObjectId)
    (descriptor : Descriptor) (after : Remote) : Prop where
  serves : after.Serves object descriptor
  quiet : before.faults = ∅ → after.faults = ∅
  mode_eq : descriptor.mode = mode
  position : descriptor.position = 0
  staged : descriptor.mode.writable = true → ∃ data,
    descriptor.content = .staged data false ∧
      after.objects.find? descriptor.location = some data
  spelled : ObjectPath.parse path = .ok descriptor.location
  stored : after.objects = before.objects ∨
    mode = .write ∧ after.objects = before.objects.insert descriptor.location [] ∧
      (before.faults = ∅ → before.objects.find? descriptor.location = none)
  backed : before.Remembers descriptor.location →
    ∀ data, after.objects.find? descriptor.location = some data →
      descriptor.backing? after.objects = some data

/-- The remote side after a descriptor was given an id. -/
def adding (remote : Remote) (descriptor : Descriptor) : Remote :=
  { remote with session := remote.session.add descriptor }

/-- The remote side after an open object was closed. -/
def removing (remote : Remote) (object : ObjectId) : Remote :=
  { remote with session := remote.session.remove object }

/-- The remote side after an object was stored. -/
def storing (remote : Remote) (location : ObjectPath) (data : Bytes) : Remote :=
  { remote with
    objects := remote.objects.insert location data
    session := remote.session.forget location }

variable {before middle after : Remote}

/-- An object that is added is open under the next id. -/
theorem serves_adding (descriptor : Descriptor) (connected : before.session.connected = true)
    (honest : before.faults.Honest) (sound : descriptor.Sound) :
    (before.adding descriptor).Serves before.session.nextObject descriptor :=
  ⟨connected, FiniteMap.find?_insert_self _ _ _, honest, sound⟩

/-- An object that was just opened is faithful. -/
theorem Opened.faithful {path : String} {mode : OpenMode} {object : ObjectId}
    {descriptor : Descriptor} (opened : Opened before path mode object descriptor after) :
    descriptor.Faithful after.objects := by
  intro data unmodified
  have writable : descriptor.mode.writable = true := by
    have sound := opened.serves.sound
    rwa [Descriptor.Sound, unmodified] at sound
  obtain ⟨same, content, stored⟩ := opened.staged writable
  rw [unmodified] at content
  obtain rfl : data = same := by simpa using content
  exact stored

/-- Without faults the store has what it had at the location, or the empty object that was
created. -/
theorem Opened.stored_of_held {path : String} {mode : OpenMode} {object : ObjectId}
    {descriptor : Descriptor} {content : Bytes}
    (opened : Opened before path mode object descriptor after) (quiet : before.faults = ∅)
    (held : before.objects.find? descriptor.location = some content ∨
      mode = .write ∧ before.objects.find? descriptor.location = none ∧ content = []) :
    after.objects.find? descriptor.location = some content := by
  rcases opened.stored with kept | ⟨-, created, absent⟩
  · rcases held with present | ⟨writes, absent, -⟩
    · rw [kept, present]
    · have writable : descriptor.mode.writable = true := by
        rw [opened.mode_eq, writes]
        rfl
      obtain ⟨data, -, present⟩ := opened.staged writable
      rw [kept, absent] at present
      contradiction
  · rcases held with present | ⟨-, -, rfl⟩
    · rw [absent quiet] at present
      contradiction
    · rw [created, FiniteMap.find?_insert_self]

/-- The open object has what the store has. Only one that is just read depends on the size that is
remembered. -/
theorem Opened.backing?_eq {path : String} {mode : OpenMode} {object : ObjectId}
    {descriptor : Descriptor} {content : Bytes}
    (opened : Opened before path mode object descriptor after)
    (recalls : mode.writable = false → before.Remembers descriptor.location)
    (stored : after.objects.find? descriptor.location = some content) :
    descriptor.backing? after.objects = some content := by
  by_cases writable : mode.writable = true
  · obtain ⟨data, staged, present⟩ := opened.staged (opened.mode_eq ▸ writable)
    rw [Descriptor.backing?, staged]
    exact present.symm.trans stored
  · exact opened.backed (recalls (Bool.not_eq_true _ ▸ writable)) content stored

/-- An object is as open as before after memory was asked for. -/
theorem Opened.requesting {path : String} {mode : OpenMode} {object : ObjectId}
    {descriptor : Descriptor} (opened : before.Opened path mode object descriptor after) :
    before.Opened path mode object descriptor after.requesting :=
  { opened with
    serves := opened.serves.requesting.serves
    quiet := fun quiet => quiet_requesting (opened.quiet quiet) }

theorem Asks.refl : Asks before before := ⟨rfl, rfl, id, id⟩

/-- Calls that open and store nothing go on one after another. -/
theorem Asks.trans (first : Asks before middle) (second : Asks middle after) :
    Asks before after where
  connected := second.connected.trans first.connected
  objects := second.objects.trans first.objects
  honest := fun honest => second.honest (first.honest honest)
  quiet := fun quiet => second.quiet (first.quiet quiet)

theorem asks_calling (before : Remote) (call : Call) : Asks before (before.calling call) :=
  ⟨rfl, rfl, fun honest => honest.advance _, fun quiet => quiet_calling quiet call⟩

theorem asks_noting (before : Remote) (event : Event) : Asks before (before.noting event) :=
  ⟨rfl, rfl, id, id⟩

end Remote

open Remote

variable {before : Remote}

namespace Session

/-- The size that is remembered does not matter to the connection. -/
theorem remember_connected (session : Session) (location : ObjectPath) (size : Nat) :
    (session.remember location size).connected = session.connected := by
  unfold remember
  split <;> rfl

/-- The size of an object, remembered or asked for. -/
theorem sizeOf_cases (honest : before.faults.Honest) (location : ObjectPath) :
    (∃ size after, sizeOf location before = (.ok size, after) ∧ before.Asks after ∧
      (before.Remembers location →
        ∀ data, before.objects.find? location = some data → data.length = size)) ∨
    ∃ cause after, sizeOf location before = (.error cause, after) ∧ before.Asks after ∧
      (before.faults = ∅ →
        before.objects.find? location = none ∧ cause = .missing location) := by
  cases remembered : before.session.sizes.find? location with
  | some size =>
      refine .inl ⟨size, before, ?_, .refl, fun remembers data held =>
        remembers size data remembered held⟩
      simp [sizeOf, Action.bind_apply, remembered]
  | none =>
      have called := asks_calling before (.storeHead location)
      rcases announce_cases honest (.storeHead location) with
        ⟨cause, refused, armed⟩ | ⟨fault, passed, allows⟩
      · refine .inr ⟨cause, _, ?_, called, fun quiet => (armed quiet).elim⟩
        simp [sizeOf, Remote.size, Action.bind_apply, remembered, refused]
      · cases held : before.objects.find? location with
        | none =>
            refine .inr ⟨.missing location, _, ?_, called, fun _ => ⟨rfl, rfl⟩⟩
            simp [sizeOf, Remote.size, Remote.object, Action.bind_apply, remembered, passed,
              calling, held]
        | some data =>
            refine .inl ⟨data.length, { before.calling (.storeHead location) with
              session := before.session.remember location data.length }, ?_,
              ⟨remember_connected _ _ _, called.objects, called.honest, called.quiet⟩,
              fun _ other same => ?_⟩
            · simp [sizeOf, Remote.size, Remote.object, Action.bind_apply, remembered, passed,
                calling, held, modifySession, Action.map_apply]
            · rw [Option.some.inj same]

/-- The content that an object starts with is the one that the store has. -/
theorem contentFor_cases (honest : before.faults.Honest) (location : ObjectPath)
    (mode : OpenMode) :
    (∃ content after, contentFor location mode before = (.ok content, after) ∧
      before.Asks after ∧ Descriptor.Sound ⟨location, mode, 0, content⟩ ∧
      (mode.writable = true → ∃ data, content = .staged data false ∧
        before.objects.find? location = some data) ∧
      (before.Remembers location → ∀ data, before.objects.find? location = some data →
        Descriptor.backing? ⟨location, mode, 0, content⟩ before.objects = some data)) ∨
    ∃ cause after, contentFor location mode before = (.error cause, after) ∧ before.Asks after ∧
      (before.faults = ∅ →
        before.objects.find? location = none ∧ cause = .missing location) := by
  by_cases writable : mode.writable = true
  · have called := asks_calling before (.storeGet location)
    rcases announce_cases honest (.storeGet location) with
      ⟨cause, refused, armed⟩ | ⟨fault, passed, allows⟩
    · refine .inr ⟨cause, _, ?_, called, fun quiet => (armed quiet).elim⟩
      simp [contentFor, writable, fetch, Action.bind_apply, refused]
    · cases held : before.objects.find? location with
      | none =>
          refine .inr ⟨.missing location, _, ?_, called, fun _ => ⟨rfl, rfl⟩⟩
          simp [contentFor, writable, fetch, Remote.object, Action.bind_apply, passed, calling,
            held]
      | some data =>
          refine .inl ⟨.staged data false, _, ?_, called, writable,
            fun _ => ⟨data, rfl, rfl⟩, fun _ other same => same⟩
          · simp [contentFor, writable, fetch, Remote.object, Action.bind_apply, passed, calling,
              held]
  · rcases sizeOf_cases honest location with
      ⟨size, after, answered, asked, right⟩ | ⟨cause, after, failed, asked, excuse⟩
    · refine .inl ⟨.recorded size, after, ?_, asked, by simpa [Descriptor.Sound] using writable,
        fun writes => (writable writes).elim, fun remembers data held => ?_⟩
      · simp [contentFor, writable, Action.bind_apply, answered]
      · simp [Descriptor.backing?, held, right remembers data held]
    · refine .inr ⟨cause, after, ?_, asked, excuse⟩
      simp [contentFor, writable, Action.bind_apply, failed]

/-- An object is registered under the next id. -/
theorem register_apply (descriptor : Descriptor) :
    register descriptor before = (.ok before.session.nextObject, before.adding descriptor) := rfl

/-- An object that is opened must be there. -/
theorem openObject_cases (honest : before.faults.Honest) (path : String) (mode : OpenMode) :
    (∃ object descriptor after, openObject path mode before = (.ok object, after) ∧
      before.Opened path mode object descriptor after ∧ after.objects = before.objects) ∨
    ∃ cause after, openObject path mode before = (.error cause, after) ∧ before.Asks after ∧
      (before.faults = ∅ → ∀ location, ObjectPath.parse path = .ok location →
        before.objects.find? location = none ∧ cause = .missing location ∨
          before.session.connected = false ∧ cause = .generic .notConnected) := by
  have noted := asks_noting before (.openingObject path mode)
  cases spelled : ObjectPath.parse path with
  | error fault =>
      refine .inr ⟨.invalidPath fault, _, ?_, noted, fun _ location same => by simp at same⟩
      simp [openObject, Action.bind_apply, Remote.note, locate, spelled]
  | ok location =>
      by_cases connected : before.session.connected = true
      · have noticed : (before.noting (.openingObject path mode)).session.connected = true :=
          connected
        rcases contentFor_cases (noted.honest honest) location mode with
          ⟨content, after, found, asked, sound, staged, backed⟩ |
            ⟨cause, after, failed, asked, excuse⟩
        · have served := serves_adding ⟨location, mode, 0, content⟩ (asked.connected.trans noticed)
            (asked.honest (noted.honest honest)) sound
          refine .inl ⟨_, _, _, ?_, ⟨served, fun quiet => asked.quiet quiet, rfl, rfl, ?_,
            spelled, .inl asked.objects, fun remembers data held => ?_⟩, asked.objects⟩
          · simp [openObject, Action.bind_apply, Remote.note, locate, spelled, requireConnection,
              noticed, found, register_apply]
          · have same : (after.adding ⟨location, mode, 0, content⟩).objects = before.objects :=
              asked.objects
            exact same ▸ staged
          · have same : (after.adding ⟨location, mode, 0, content⟩).objects = before.objects :=
              asked.objects
            rw [same] at held ⊢
            exact backed remembers data held
        · refine .inr ⟨cause, after, ?_, noted.trans asked, fun quiet other same => ?_⟩
          · simp [openObject, Action.bind_apply, Remote.note, locate, spelled, requireConnection,
              noticed, failed]
          · obtain rfl : location = other := by simpa using same
            exact .inl (excuse quiet)
      · have offline : (before.noting (.openingObject path mode)).session.connected = false :=
          Bool.eq_false_iff.mpr connected
        refine .inr ⟨.generic .notConnected, _, ?_, noted, fun _ _ _ => .inr ⟨offline, rfl⟩⟩
        simp [openObject, Action.bind_apply, Remote.note, locate, spelled, requireConnection,
          offline]

/-- An upload stores the whole object, or nothing. -/
theorem upload_cases (honest : before.faults.Honest) (location : ObjectPath) (data : Bytes) :
    upload location data before =
        (.ok (), (before.calling (.storePut location data)).storing location data) ∨
    ∃ cause, upload location data before =
        (.error cause, before.calling (.storePut location data)) ∧ before.faults ≠ ∅ := by
  rcases announce_cases honest (.storePut location data) with
    ⟨cause, refused, armed⟩ | ⟨fault, passed, allows⟩
  · refine .inr ⟨cause, ?_, armed⟩
    simp [upload, put, Action.bind_apply, refused]
  · refine .inl ?_
    simp [upload, put, Action.bind_apply, passed, modifySession, storing]

/-- An object that is created is stored as an empty one first. -/
theorem createObject_cases (honest : before.faults.Honest) (path : String) :
    (∃ object location after, createObject path before = (.ok object, after) ∧
      ObjectPath.parse path = .ok location ∧
      after.Serves object ⟨location, .write, 0, .staged [] false⟩ ∧
      after.objects = before.objects.insert location [] ∧
      (before.faults = ∅ → after.faults = ∅)) ∨
    ∃ cause after, createObject path before = (.error cause, after) ∧
      (before.faults = ∅ → before.session.connected = true →
        ∀ location, ObjectPath.parse path ≠ .ok location) := by
  have noted := asks_noting before (.creatingObject path)
  cases spelled : ObjectPath.parse path with
  | error fault =>
      refine .inr ⟨.invalidPath fault, before.noting (.creatingObject path), ?_,
        fun _ _ location same => by simp at same⟩
      simp [createObject, Action.bind_apply, Remote.note, locate, spelled]
  | ok location =>
      by_cases connected : before.session.connected = true
      · have noticed : (before.noting (.creatingObject path)).session.connected = true := connected
        have called := noted.trans (asks_calling _ (.storePut location []))
        rcases upload_cases (noted.honest honest) location [] with stored | ⟨cause, failed, armed⟩
        · have stocked : (((before.noting (.creatingObject path)).calling
              (.storePut location [])).storing location []).session.connected = true := connected
          have served := serves_adding ⟨location, .write, 0, .staged [] false⟩ stocked
            (called.honest honest) rfl
          refine .inl ⟨_, location, _, ?_, rfl, served, rfl, called.quiet⟩
          simp [createObject, Action.bind_apply, Remote.note, locate, spelled, requireConnection,
            noticed, stored, register_apply]
        · refine .inr ⟨cause, (before.noting (.creatingObject path)).calling
            (.storePut location []), ?_, fun quiet => (armed quiet).elim⟩
          simp [createObject, Action.bind_apply, Remote.note, locate, spelled, requireConnection,
            noticed, failed]
      · have offline : (before.noting (.creatingObject path)).session.connected = false :=
          Bool.eq_false_iff.mpr connected
        refine .inr ⟨.generic .notConnected, before.noting (.creatingObject path), ?_,
          fun _ live => (connected live).elim⟩
        simp [createObject, Action.bind_apply, Remote.note, locate, spelled, requireConnection,
          offline]

/-- What an object has when it is closed is in the store afterwards. -/
theorem closeObject_apply {object : ObjectId} {descriptor : Descriptor} {content : Bytes}
    (serves : before.Serves object descriptor) (quiet : before.faults = ∅)
    (faithful : descriptor.Faithful before.objects)
    (backed : descriptor.backing? before.objects = some content) :
    ∃ after, closeObject object before = (.ok (), after) ∧
      after.objects.find? descriptor.location = some content := by
  have noted := serves.noting (.closingObject object)
  have found := Session.descriptor_apply noted.serves
  cases kind : descriptor.content with
  | recorded size =>
      simp only [Descriptor.backing?, kind] at backed
      refine ⟨(before.noting (.closingObject object)).removing object, ?_,
        (Option.filter_eq_some_iff.mp backed).1⟩
      simp [closeObject, Action.bind_apply, Remote.note, found, Descriptor.upload?, kind,
        modifySession, removing]
  | staged data modified =>
      obtain rfl : data = content := by simpa [Descriptor.backing?, kind] using backed
      cases modified with
      | false =>
          refine ⟨(before.noting (.closingObject object)).removing object, ?_, faithful data kind⟩
          simp [closeObject, Action.bind_apply, Remote.note, found, Descriptor.upload?, kind,
            modifySession, removing]
      | true =>
          rcases upload_cases noted.serves.honest descriptor.location data with
            stored | ⟨cause, failed, armed⟩
          · refine ⟨(((before.noting (.closingObject object)).calling
              (.storePut descriptor.location data)).storing descriptor.location data).removing
                object, ?_, FiniteMap.find?_insert_self _ _ _⟩
            simp [closeObject, Action.bind_apply, Remote.note, found, Descriptor.upload?, kind,
              stored, modifySession, removing]
          · exact (armed quiet).elim

end Session

namespace Link

/-- An object is opened, or nothing is opened and stored. Without faults that is so only if it is
not there or the session is not connected. -/
theorem openObject_cases (honest : before.faults.Honest) (path : String) (mode : OpenMode) :
    (∃ object descriptor after, openObject path mode before = (.ok object, after) ∧
      before.Opened path mode object descriptor after) ∨
    ∃ cause after, openObject path mode before = (.error cause, after) ∧ before.Asks after ∧
      (before.faults = ∅ → ∀ location, ObjectPath.parse path = .ok location →
        before.objects.find? location = none ∧ cause = .missing location ∨
          before.session.connected = false ∧ cause = .generic .notConnected) := by
  have called := asks_calling before (.openObject path mode)
  rcases announce_cases honest (.openObject path mode) with
    ⟨cause, refused, armed⟩ | ⟨fault, passed, allows⟩
  · refine .inr ⟨cause, _, ?_, called, fun quiet => (armed quiet).elim⟩
    simp only [openObject, Action.bind_apply, refused]
  · rcases Session.openObject_cases (called.honest honest) path mode with
      ⟨object, descriptor, after, answered, opened, same⟩ | ⟨cause, after, failed, asked, excuse⟩
    · refine .inl ⟨object, descriptor, after, ?_, opened.serves,
        fun quiet => opened.quiet (called.quiet quiet), opened.mode_eq, opened.position,
        opened.staged, opened.spelled, .inl same, opened.backed⟩
      simp only [openObject, Action.bind_apply, passed, answered]
    · refine .inr ⟨cause, after, ?_, called.trans asked, fun quiet => excuse (called.quiet quiet)⟩
      simp only [openObject, Action.bind_apply, passed, failed]

/-- An object is created, open and empty, or that is refused. Without faults and while the session
is connected, only its path may be wrong. -/
theorem createObject_cases (honest : before.faults.Honest) (path : String) :
    (∃ object location after, createObject path before = (.ok object, after) ∧
      ObjectPath.parse path = .ok location ∧
      after.Serves object ⟨location, .write, 0, .staged [] false⟩ ∧
      after.objects = before.objects.insert location [] ∧
      (before.faults = ∅ → after.faults = ∅)) ∨
    ∃ cause after, createObject path before = (.error cause, after) ∧
      (before.faults = ∅ → before.session.connected = true →
        ∀ location, ObjectPath.parse path ≠ .ok location) := by
  have called := asks_calling before (.createObject path)
  rcases announce_cases honest (.createObject path) with
    ⟨cause, refused, armed⟩ | ⟨fault, passed, allows⟩
  · refine .inr ⟨cause, before.calling (.createObject path), ?_, fun quiet => (armed quiet).elim⟩
    simp only [createObject, Action.bind_apply, refused]
  · rcases Session.createObject_cases (called.honest honest) path with
      ⟨object, location, after, answered, spelled, serves, stored, quiet⟩ |
        ⟨cause, after, failed, excuse⟩
    · refine .inl ⟨object, location, after, ?_, spelled, serves, stored,
        fun still => quiet (called.quiet still)⟩
      simp only [createObject, Action.bind_apply, passed, answered]
    · refine .inr ⟨cause, after, ?_, fun quiet => excuse (called.quiet quiet)⟩
      simp only [createObject, Action.bind_apply, passed, failed]

/-- Without faults, an object that is closed leaves its bytes in the store, be it that they were
there before. -/
theorem closeObject_apply {object : ObjectId} {descriptor : Descriptor} {content : Bytes}
    (serves : before.Serves object descriptor) (quiet : before.faults = ∅)
    (faithful : descriptor.Faithful before.objects)
    (backed : descriptor.backing? before.objects = some content) :
    ∃ after, closeObject object before = (.ok (), after) ∧
      after.objects.find? descriptor.location = some content := by
  have called := serves.calling (.closeObject object)
  rcases announce_cases serves.honest (.closeObject object) with
    ⟨cause, refused, armed⟩ | ⟨fault, passed, allows⟩
  · exact (armed quiet).elim
  · obtain ⟨after, closed, stored⟩ :=
      Session.closeObject_apply called.serves (called.quiet quiet) faithful backed
    refine ⟨after, ?_, stored⟩
    simp only [closeObject, Action.bind_apply, passed, closed]

end Link

namespace CachedStream

/-- An object is opened for a stream, unless it is not there or a call is refused. -/
theorem openOrCreate_cases (honest : before.faults.Honest) (path : String) (mode : OpenMode) :
    (∃ object descriptor after, openOrCreate path mode before = (.ok object, after) ∧
      before.Opened path mode object descriptor after) ∨
    ∃ cause after, openOrCreate path mode before = (.error cause, after) ∧
      (before.faults = ∅ → before.session.connected = true →
        ∀ location, ObjectPath.parse path = .ok location →
          before.objects.find? location = none ∧ mode ≠ .write) := by
  rcases Link.openObject_cases honest path mode with
    ⟨object, descriptor, after, answered, opened⟩ | ⟨cause, middle, failed, asked, excuse⟩
  · refine .inl ⟨object, descriptor, after, ?_, opened⟩
    simp only [openOrCreate, Action.bind_apply, Action.attempt, answered, Action.pure_apply]
  · by_cases creates : (∃ missing reason, cause = .notFound missing reason) ∧ mode = .write
    · obtain ⟨⟨missing, reason, rfl⟩, rfl⟩ := creates
      have created : openOrCreate path .write before = Link.createObject path middle := by
        simp only [openOrCreate, Action.bind_apply, Action.attempt, failed, ↓reduceIte]
      rcases Link.createObject_cases (asked.honest honest) path with
        ⟨object, location, after, answered, spelled, serves, stored, quiet⟩ |
          ⟨cause, after, failed, refused⟩
      · refine .inl ⟨object, _, after, created.trans answered, serves,
          fun still => quiet (asked.quiet still), rfl, rfl, fun _ => ?_, spelled,
          .inr ⟨rfl, asked.objects ▸ stored, fun still => ?_⟩, fun _ data held => ?_⟩
        · refine ⟨[], rfl, ?_⟩
          rw [stored, FiniteMap.find?_insert_self]
        · rcases excuse still location spelled with ⟨absent, -⟩ | ⟨-, other⟩
          · exact absent
          · simp at other
        · simp only [stored, FiniteMap.find?_insert_self] at held
          exact held
      · refine .inr ⟨cause, after, created.trans failed, fun quiet live location spelled => ?_⟩
        exact (refused (asked.quiet quiet) (asked.connected ▸ live) location spelled).elim
    · refine .inr ⟨cause, middle, ?_, fun quiet live location spelled => ?_⟩
      · cases cause with
        | notFound missing reason =>
            have reads : mode ≠ .write := fun writes => creates ⟨⟨missing, reason, rfl⟩, writes⟩
            simp only [openOrCreate, Action.bind_apply, Action.attempt, failed, reads, ↓reduceIte,
              Action.fail_apply]
        | _ =>
            simp only [openOrCreate, Action.bind_apply, Action.attempt, failed, Action.fail_apply]
      · rcases excuse quiet location spelled with ⟨absent, rfl⟩ | ⟨offline, -⟩
        · exact ⟨absent, fun writes => creates ⟨⟨_, _, rfl⟩, writes⟩⟩
        · rw [offline] at live
          contradiction

/-- A stream as it is opened. -/
def fresh (object : ObjectId) (path : String) (sizes : BufferSizes) : CachedStream where
  object := object
  path := path
  base := 0
  window := ⟨Bytes.zeros sizes.initial, 0, 0, sizes.max⟩
  synced := 0
  dirty := false

/-- A stream with an empty window at the start of its object is coherent. -/
theorem coherent_fresh {object : ObjectId} {descriptor : Descriptor} {remote : Remote}
    (serves : remote.Serves object descriptor) (position : descriptor.position = 0) (path : String)
    {sizes : BufferSizes} (ordered : sizes.initial ≤ sizes.max)
    (allocatable : sizes.initial < Window.allocationBound) :
    Attached.Coherent ⟨fresh object path sizes, remote⟩ descriptor where
  serves := serves
  position := position
  bounded := by simp [fresh, Window.InBounds]
  limited := by simpa [fresh, Window.capacity] using ordered
  allocated := by simpa [fresh, Window.capacity] using allocatable
  reached := Nat.le_refl _
  settled := fun _ => rfl
  pending := fun dirty => by simp [fresh] at dirty
  mirrored := fun _ backing _ => by simp [fresh, Window.occupied, Window.extent]

/-- A stream opens on its object as soon as that is open, if there is memory for its window. -/
theorem openStream_cases (honest : before.faults.Honest) (path : String) (mode : OpenMode)
    {sizes : BufferSizes} (ordered : sizes.initial ≤ sizes.max) :
    (∃ object descriptor after, openStream path mode sizes before =
        (.ok (fresh object path sizes), after) ∧
      before.Opened path mode object descriptor after ∧
      sizes.initial < Window.allocationBound) ∨
    (∀ stream after, openStream path mode sizes before ≠ (.ok stream, after)) ∧
      (before.faults = ∅ → before.session.connected = true →
        sizes.initial < Window.allocationBound →
          ∀ location, ObjectPath.parse path = .ok location →
            before.objects.find? location = none ∧ mode ≠ .write) := by
  have noted := asks_noting before (.openingCached path mode)
  have fits : ¬sizes.max < sizes.initial := Nat.not_lt.mpr ordered
  rcases openOrCreate_cases (noted.honest honest) path mode with
    ⟨object, descriptor, after, answered, opened⟩ | ⟨cause, after, failed, excuse⟩
  · cases granted : after.affords sizes.initial with
    | false =>
        refine .inr ⟨fun stream final delivered => ?_, fun quiet _ small => ?_⟩
        · simp only [openStream, Action.bind_apply, Remote.note, Action.modify_apply,
            Action.mapError, answered, Outcome.mapError_ok, Remote.request_apply, granted,
            Window.create, fits, Bool.false_eq_true, ↓reduceIte] at delivered
          split at delivered <;> simp at delivered
        · rw [Remote.affords_of_quiet (opened.quiet quiet) small] at granted
          contradiction
    | true =>
        have delivered : before.Opened path mode object descriptor after :=
          ⟨opened.serves, opened.quiet, opened.mode_eq, opened.position, opened.staged,
            opened.spelled, opened.stored, opened.backed⟩
        refine .inl ⟨object, descriptor, after.requesting, ?_, delivered.requesting,
          Remote.lt_of_affords granted⟩
        simp only [openStream, Action.bind_apply, Remote.note, Action.modify_apply,
          Action.mapError, answered, Outcome.mapError_ok, Remote.request_apply, granted,
          Window.create, fits, ↓reduceIte, Action.pure_apply, fresh]
  · refine .inr ⟨fun stream final delivered => ?_, fun quiet live _ location spelled =>
      excuse quiet live location spelled⟩
    simp [openStream, Action.bind_apply, Remote.note, Action.mapError, failed] at delivered

/-- Closing a stream that nothing stands in the way of stores the file that its user saw. -/
theorem close_apply {attached : Attached} {descriptor : Descriptor} {content : Bytes}
    (coherent : attached.Coherent descriptor)
    (reach : attached.stream.base + attached.stream.window.extent < Word.signedBound)
    (steady : attached.Steady descriptor)
    (faithful : descriptor.Faithful attached.remote.objects)
    (shown : attached.content? = some content) :
    ∃ closed, close attached.stream attached.remote = (.ok (), closed) ∧
      closed.objects.find? descriptor.location = some content := by
  have noted := coherent.keeps_remote
    (coherent.serves.noting (.closingCached attached.stream.path))
  obtain ⟨remote, moved, wrote, kept⟩ :=
    flush_calm noted.advances.coherent (Attached.inReach_of_lt reach) (noted.calm steady.calm)
  have known := noted.trans kept
  have moves := known.advances.moves
  have backed : moved.backing? remote.objects = some content := by
    rw [← known.advances.coherent.content?_of_clean rfl, known.content, shown]
  obtain ⟨closed, finished, stored⟩ := Link.closeObject_apply moves.serves
    (moves.quiet steady.quiet) (moves.objects ▸ moves.evolved.faithful faithful) backed
  refine ⟨closed, ?_, moves.evolved.location ▸ stored⟩
  have settled : settle attached = (.ok (), ⟨attached.stream.flushed, closed⟩) := by
    simp only [settle, Action.bind_apply, current_apply, note_apply, Action.attempt, wrote,
      ask_apply, finished, Outcome.mapError_ok, Action.pure_apply]
  simp [close, settled, dropped, CachedStream.flushed]

end CachedStream

end RemoteStreams
