import RemoteStreams.Link
import RemoteStreams.Proofs.HonestFaults
import RemoteStreams.Proofs.Patch

/-! # Open objects

How an open object answers the calls of a stream under honest faults. Each call
is refused and leaves the object as it was, or it does its work on the whole of
its bytes or a front part of them and tells how much
(`RemoteStreams.Link.readObject_ends`, `RemoteStreams.Link.writeObject_ends`,
`RemoteStreams.Link.seekObject_cases`, `RemoteStreams.Link.position_ends`).
In either case the rest of the remote side stays as it is, apart from its log
and the faults that were used up (`RemoteStreams.Remote.Moves`). A write as far as
no content reaches is given up, and may have touched what is staged by then
(`RemoteStreams.Remote.Spills`).
-/

namespace RemoteStreams

/-- Only the last value that is inserted for a key counts. -/
theorem FiniteMap.insertEntry_insertEntry {κ α : Type} [DecidableEq κ] (key : κ)
    (first second : α) (entries : List (κ × α)) :
    insertEntry key second (insertEntry key first entries) = insertEntry key second entries := by
  induction entries with
  | nil => simp [insertEntry]
  | cons entry rest ih =>
      by_cases here : entry.1 = key
      · simp [insertEntry, here]
      · simp [insertEntry, here, ih]

/-- Of two values given to one key, the second one counts. -/
theorem FiniteMap.insert_insert {κ α : Type} [DecidableEq κ] (map : FiniteMap κ α) (key : κ)
    (first second : α) : (map.insert key first).insert key second = map.insert key second :=
  ext_entries (insertEntry_insertEntry key first second map.entries)

namespace Descriptor

/-- The content is staged exactly if the object may be written to. -/
def Sound (descriptor : Descriptor) : Prop :=
  match descriptor.content with
  | .recorded _ => descriptor.mode.writable = false
  | .staged _ _ => descriptor.mode.writable = true

/-- The bytes that an open object has: those staged, or those in the store as long as they
are as many as there were when the object was opened. -/
def backing? (descriptor : Descriptor) (objects : FiniteMap ObjectPath Bytes) : Option Bytes :=
  match descriptor.content with
  | .staged data _ => some data
  | .recorded size => (objects.find? descriptor.location).filter (fun data => data.length = size)

/-- The descriptor after `data` was laid over its staged content, if there is any data. -/
def extended (descriptor : Descriptor) (staged data : Bytes) : Descriptor :=
  if data = [] then descriptor else descriptor.write staged data

/-- The end of `count` bytes that are read is a machine word, if there is anything to read. -/
def Spans (descriptor : Descriptor) (count : Nat) : Prop :=
  descriptor.position < descriptor.content.length → descriptor.position + count < Word.bound

/-- The position is a machine word, and it can be addressed if there is anything to read. -/
structure InReach (descriptor : Descriptor) : Prop where
  word : descriptor.position < Word.bound
  inside : descriptor.position < descriptor.content.length →
    descriptor.position < Word.signedBound

/-- What is in reach can be read as far as words go. -/
theorem InReach.spans {descriptor : Descriptor} (inReach : descriptor.InReach) {count : Nat}
    (small : count < Word.signedBound) : descriptor.Spans count := by
  intro present
  have inside := inReach.inside present
  simp only [Word.signedBound, Word.bound] at *
  omega

/-- Content can reach as far as `count` bytes that are written. -/
def Holds (descriptor : Descriptor) (count : Nat) : Prop :=
  descriptor.position + count < Word.signedBound

/-- What may become of a descriptor: its position changes, and staged content may be modified. -/
structure Evolves (before after : Descriptor) : Prop where
  location : after.location = before.location
  mode : after.mode = before.mode
  content : after.content = before.content ∨
    ∃ old kept new, before.content = .staged old kept ∧ after.content = .staged new true

theorem Evolves.refl (descriptor : Descriptor) : descriptor.Evolves descriptor :=
  ⟨rfl, rfl, .inl rfl⟩

/-- What evolves in two steps evolves in one. -/
theorem Evolves.trans {first second third : Descriptor} (earlier : first.Evolves second)
    (later : second.Evolves third) : first.Evolves third := by
  refine ⟨later.location.trans earlier.location, later.mode.trans earlier.mode, ?_⟩
  rcases later.content with same | ⟨old, kept, new, staged, modified⟩
  · rw [same]
    exact earlier.content
  · rcases earlier.content with same | ⟨oldest, was, middle, stagedFirst, modifiedFirst⟩
    · exact .inr ⟨old, kept, new, same ▸ staged, modified⟩
    · exact .inr ⟨oldest, was, new, stagedFirst, modified⟩

theorem evolves_position (descriptor : Descriptor) (position : Nat) :
    descriptor.Evolves { descriptor with position } := ⟨rfl, rfl, .inl rfl⟩

/-- What is written to staged content marks it as modified. -/
theorem evolves_extended {descriptor : Descriptor} {staged : Bytes} {modified : Bool}
    (content : descriptor.content = .staged staged modified) (data : Bytes) :
    descriptor.Evolves (descriptor.extended staged data) := by
  unfold extended
  split
  · exact .refl descriptor
  · exact ⟨rfl, rfl, .inr ⟨staged, modified, _, content, rfl⟩⟩

/-- What is staged for writing, or recorded for reading, stays so. -/
theorem Evolves.sound {before after : Descriptor} (evolved : before.Evolves after)
    (sound : before.Sound) : after.Sound := by
  unfold Sound at *
  rw [evolved.mode]
  rcases evolved.content with same | ⟨old, kept, new, staged, modified⟩
  · rw [same]
    exact sound
  · rw [staged] at sound
    rw [modified]
    exact sound

/-- A write moves the descriptor by what is written. -/
theorem position_extended (descriptor : Descriptor) (staged data : Bytes) :
    (descriptor.extended staged data).position = descriptor.position + data.length := by
  unfold extended
  split
  · next empty => simp [empty]
  · rfl

/-- A write lays the data over what was staged, unless there is none. -/
theorem backing?_extended {descriptor : Descriptor} {staged : Bytes} {modified : Bool}
    (content : descriptor.content = .staged staged modified) (data : Bytes)
    (objects : FiniteMap ObjectPath Bytes) :
    (descriptor.extended staged data).backing? objects =
      some (if data = [] then staged else staged.overlay descriptor.position data) := by
  unfold extended
  split
  · simp only [backing?, content]
  · rfl

end Descriptor

/-- Content that a write of `patch` at `offset` was given up on: it is as it was, or a front part of
the patch was laid over it, at most if contents reach as far as the offset. It does not count as
modified by that. -/
inductive Content.Spilled (offset : Nat) (patch : Bytes) : Content → Content → Prop
  | same {content : Content} : Spilled offset patch content content
  | front {staged : Bytes} {modified : Bool} {count : Nat} (within : offset < Word.signedBound)
      (room : count ≤ patch.length) : Spilled offset patch (.staged staged modified)
        (.staged (staged.overlay offset (patch.take count)) modified)

namespace Descriptor

/-- What may become of a descriptor, even if writes are given up: its position changes, and so may
staged content, which counts as modified if it did before. -/
structure Drifts (before after : Descriptor) : Prop where
  location : after.location = before.location
  mode : after.mode = before.mode
  content : after.content = before.content ∨
    ∃ old kept new now, before.content = .staged old kept ∧ after.content = .staged new now ∧
      (kept = true → now = true)

/-- What evolves drifts. -/
theorem Evolves.drifts {before after : Descriptor} (evolved : before.Evolves after) :
    before.Drifts after where
  location := evolved.location
  mode := evolved.mode
  content := by
    rcases evolved.content with same | ⟨old, kept, new, staged, modified⟩
    · exact .inl same
    · exact .inr ⟨old, kept, new, true, staged, modified, fun _ => rfl⟩

/-- What drifts in two steps drifts in one. -/
theorem Drifts.trans {first second third : Descriptor} (earlier : first.Drifts second)
    (later : second.Drifts third) : first.Drifts third := by
  refine ⟨later.location.trans earlier.location, later.mode.trans earlier.mode, ?_⟩
  rcases later.content with same | ⟨old, kept, new, now, staged, changed, counts⟩
  · rw [same]
    exact earlier.content
  · rcases earlier.content with
      same | ⟨oldest, was, middle, sometime, stagedFirst, changedFirst, counted⟩
    · exact .inr ⟨old, kept, new, now, same ▸ staged, changed, counts⟩
    · obtain ⟨rfl, rfl⟩ := Content.staged.inj (changedFirst.symm.trans staged)
      exact .inr ⟨oldest, was, new, now, stagedFirst, changed, fun modified =>
        counts (counted modified)⟩

/-- What may be written to stays so. -/
theorem Drifts.sound {before after : Descriptor} (drifted : before.Drifts after)
    (sound : before.Sound) : after.Sound := by
  unfold Sound at *
  rw [drifted.mode]
  rcases drifted.content with same | ⟨old, kept, new, now, staged, changed, -⟩
  · rw [same]
    exact sound
  · rw [staged] at sound
    rw [changed]
    exact sound

/-- The descriptor of an object that may only be read does not drift. -/
theorem Drifts.evolves {before after : Descriptor} (drifted : before.Drifts after)
    (sound : before.Sound) (readOnly : before.mode.writable = false) : before.Evolves after where
  location := drifted.location
  mode := drifted.mode
  content := by
    rcases drifted.content with same | ⟨old, kept, new, now, staged, -⟩
    · exact .inl same
    · rw [Sound, staged, readOnly] at sound
      contradiction

end Descriptor

/-- What is spilled of a front part of a patch is spilled of the patch. -/
theorem Content.Spilled.of_take {offset reach : Nat} {patch : Bytes} {before after : Content}
    (spilled : Spilled offset (patch.take reach) before after) :
    Spilled offset patch before after := by
  cases spilled with
  | same => exact .same
  | front within room =>
      rw [List.take_take]
      rw [List.length_take] at room
      exact .front within (by omega)

/-- What a write has left when it is given up has drifted. -/
theorem Descriptor.drifts_spilled {descriptor : Descriptor} {staged : Bytes} {modified : Bool}
    (content : descriptor.content = .staged staged modified) (data : Bytes) :
    descriptor.Drifts (descriptor.spilled staged modified data) :=
  ⟨rfl, rfl, .inr ⟨staged, modified, _, modified, content, rfl, id⟩⟩

namespace Remote

/-- The remote side with another descriptor for an open object. -/
def updating (remote : Remote) (object : ObjectId) (descriptor : Descriptor) : Remote :=
  { remote with session := remote.session.update object descriptor }

/-- The session is connected and has `object` open, and the faults in store are honest. -/
structure Serves (remote : Remote) (object : ObjectId) (descriptor : Descriptor) : Prop where
  connected : remote.session.connected = true
  found : remote.session.descriptors.find? object = some descriptor
  honest : remote.faults.Honest
  sound : descriptor.Sound

/-- A call moved `object` on and did nothing else that counts. -/
structure Moves (object : ObjectId) (before : Remote) (descriptor : Descriptor) (after : Remote)
    (moved : Descriptor) : Prop where
  serves : after.Serves object moved
  session : after.session = before.session.update object moved
  objects : after.objects = before.objects
  quiet : before.faults = ∅ → after.faults = ∅
  evolved : descriptor.Evolves moved

/-- A call moved `object` on, or it was given up, and did nothing else that counts. -/
structure Drifts (object : ObjectId) (before : Remote) (descriptor : Descriptor) (after : Remote)
    (moved : Descriptor) : Prop where
  serves : after.Serves object moved
  session : after.session = before.session.update object moved
  objects : after.objects = before.objects
  quiet : before.faults = ∅ → after.faults = ∅
  drifted : descriptor.Drifts moved

/-- A write of `data` to `object` was given up. The object is where it was, but what is staged for
it may have been touched. -/
structure Spills (object : ObjectId) (before : Remote) (descriptor : Descriptor) (data : Bytes)
    (after : Remote) (moved : Descriptor) : Prop where
  drifts : Drifts object before descriptor after moved
  position : moved.position = descriptor.position
  content : Content.Spilled descriptor.position data descriptor.content moved.content

variable {object : ObjectId} {before middle after : Remote} {descriptor between moved : Descriptor}

/-- An open object that evolves is moved on by that. -/
theorem Serves.updating (serves : before.Serves object descriptor)
    (evolved : descriptor.Evolves moved) :
    Moves object before descriptor (before.updating object moved) moved where
  serves := ⟨serves.connected, FiniteMap.find?_insert_self _ _ _, serves.honest,
    evolved.sound serves.sound⟩
  session := rfl
  objects := rfl
  quiet := id
  evolved := evolved

/-- A write that is given up lets the object drift. -/
theorem Serves.spilling (serves : before.Serves object descriptor) {staged : Bytes}
    {modified : Bool} (content : descriptor.content = .staged staged modified) (data : Bytes) :
    Drifts object before descriptor
      (before.updating object (descriptor.spilled staged modified data))
      (descriptor.spilled staged modified data) where
  serves := ⟨serves.connected, FiniteMap.find?_insert_self _ _ _, serves.honest,
    (Descriptor.drifts_spilled content data).sound serves.sound⟩
  session := rfl
  objects := rfl
  quiet := id
  drifted := Descriptor.drifts_spilled content data

/-- An open object that is put in its own place changes nothing. -/
theorem Serves.update_self (serves : before.Serves object descriptor) :
    before.session.update object descriptor = before.session := by
  simp only [Session.update, FiniteMap.insert_eq_self serves.found]

theorem Serves.refl (serves : before.Serves object descriptor) :
    Moves object before descriptor before descriptor :=
  ⟨serves, serves.update_self.symm, rfl, id, .refl descriptor⟩

/-- A call as such does not move an open object. -/
theorem Serves.calling (serves : before.Serves object descriptor) (call : Call) :
    Moves object before descriptor (before.calling call) descriptor where
  serves := ⟨serves.connected, serves.found, serves.honest.advance _, serves.sound⟩
  session := serves.update_self.symm
  objects := rfl
  quiet := fun quiet => quiet_calling quiet call
  evolved := .refl descriptor

/-- A request for memory leaves the object alone. -/
theorem Serves.requesting (serves : before.Serves object descriptor) :
    Moves object before descriptor before.requesting descriptor where
  serves := ⟨serves.connected, serves.found, serves.honest.advance _, serves.sound⟩
  session := serves.update_self.symm
  objects := rfl
  quiet := quiet_requesting
  evolved := .refl descriptor

/-- Neither does an event. -/
theorem Serves.noting (serves : before.Serves object descriptor) (event : Event) :
    Moves object before descriptor (before.noting event) descriptor where
  serves := ⟨serves.connected, serves.found, serves.honest, serves.sound⟩
  session := serves.update_self.symm
  objects := rfl
  quiet := id
  evolved := .refl descriptor

/-- What moves an object in two steps moves it in one. -/
theorem Moves.trans (first : Moves object before descriptor middle between)
    (second : Moves object middle between after moved) :
    Moves object before descriptor after moved where
  serves := second.serves
  session := by
    rw [second.session, first.session]
    simp only [Session.update, FiniteMap.insert_insert]
  objects := second.objects.trans first.objects
  quiet := fun quiet => second.quiet (first.quiet quiet)
  evolved := first.evolved.trans second.evolved

/-- What moves an object lets it drift. -/
theorem Moves.drifts (moves : Moves object before descriptor after moved) :
    Drifts object before descriptor after moved :=
  { moves with drifted := moves.evolved.drifts }

/-- Several calls that let an object drift do so together. -/
theorem Drifts.trans (first : Drifts object before descriptor middle between)
    (second : Drifts object middle between after moved) :
    Drifts object before descriptor after moved where
  serves := second.serves
  session := by
    rw [second.session, first.session]
    simp only [Session.update, FiniteMap.insert_insert]
  objects := second.objects.trans first.objects
  quiet := fun quiet => second.quiet (first.quiet quiet)
  drifted := first.drifted.trans second.drifted

/-- An object that may only be read is moved, however a call on it ends. -/
theorem Drifts.moves (drifts : Drifts object before descriptor after moved)
    (sound : descriptor.Sound) (readOnly : descriptor.mode.writable = false) :
    Moves object before descriptor after moved :=
  { drifts with evolved := drifts.drifted.evolves sound readOnly }

/-- Before a write that is given up, the object stayed where it was. -/
theorem Spills.after_moves {data : Bytes} (first : Moves object before descriptor middle descriptor)
    (second : Spills object middle descriptor data after moved) :
    Spills object before descriptor data after moved :=
  { second with drifts := first.drifts.trans second.drifts }

end Remote

open Remote

variable {object : ObjectId} {before : Remote} {descriptor : Descriptor}

/-- The bytes of an object are as many as its content says. -/
theorem Descriptor.length_of_backing? {objects : FiniteMap ObjectPath Bytes} {backing : Bytes}
    (backed : descriptor.backing? objects = some backing) :
    backing.length = descriptor.content.length := by
  unfold backing? at backed
  cases kind : descriptor.content with
  | recorded size =>
      rw [kind] at backed
      simpa [Content.length] using (Option.filter_eq_some_iff.mp backed).2
  | staged data modified =>
      rw [kind] at backed
      simp only [Option.some.injEq] at backed
      rw [backed]
      rfl

/-- A ranged read of the store delivers the range, or a front part of it, or is refused. -/
theorem Remote.fetchRange_cases (honest : before.faults.Honest) (location : ObjectPath)
    (start stop : Nat) :
    (∃ data count, fetchRange location start stop before =
        (.ok (data.slice start (start + count)),
          before.calling (.storeGetRange location start stop)) ∧
      before.objects.find? location = some data ∧ count ≤ (data.slice start stop).length ∧
      (before.faults = ∅ → count = (data.slice start stop).length)) ∨
    ∃ cause, fetchRange location start stop before =
        (.error cause, before.calling (.storeGetRange location start stop)) ∧
      (before.faults = ∅ → ∀ data, before.objects.find? location = some data →
        data.length ≤ start) := by
  rcases announce_cases honest (.storeGetRange location start stop) with
    ⟨cause, refused, armed⟩ | ⟨fault, passed, allows⟩
  · refine .inr ⟨cause, ?_, fun quiet => (armed quiet).elim⟩
    simp only [fetchRange, Action.bind_apply, refused]
  · cases held : before.objects.find? location with
    | none =>
        refine .inr ⟨.missing location, ?_, fun _ _ present => by simp at present⟩
        simp [fetchRange, Action.bind_apply, passed, Remote.object, calling, held]
    | some data =>
        by_cases past : data.length ≤ start
        · refine .inr ⟨.generic (.rangePastEnd start data.length), ?_, fun _ _ present =>
            Option.some.inj present ▸ past⟩
          simp [fetchRange, Action.bind_apply, passed, Remote.object, calling, held, past]
        · obtain ⟨count, room, travelled, whole⟩ := allows.travelling (data.slice start stop)
          have front : (data.slice start stop).take count = data.slice start (start + count) := by
            rw [Bytes.length_slice] at room
            simp only [Bytes.slice, List.take_take]
            congr 1
            omega
          refine .inl ⟨data, count, ?_, rfl, room, whole⟩
          simp [fetchRange, Action.bind_apply, passed, Remote.object, calling, held, past,
            allows.delivered, travelled, front]

namespace Session

theorem descriptor_apply (serves : before.Serves object descriptor) :
    Session.descriptor object before = (.ok descriptor, before) := by
  simp [Session.descriptor, requireConnection, Action.bind_apply, serves.connected, serves.found]

/-- A seek goes where the target says, if that is a word, and changes nothing otherwise. -/
theorem seekObject_apply (serves : before.Serves object descriptor) (target : SeekTarget) :
    seekObject object target before =
      match Word.ofInt? (descriptor.target target) with
      | some position => (.ok position, before.updating object { descriptor with position })
      | none =>
          (.error (.generic (.seekOutOfRange object (descriptor.target target))), before) := by
  simp only [seekObject, Action.bind_apply, descriptor_apply serves]
  cases Word.ofInt? (descriptor.target target) <;> rfl

/-- A write to staged content takes all of the data, or it is abandoned since no content reaches
as far as the data. -/
theorem writeObject_ends {staged : Bytes} {modified : Bool}
    (serves : before.Serves object descriptor) (data : Bytes)
    (content : descriptor.content = .staged staged modified) :
    (∃ after, writeObject object data before = (.ok data.length, after) ∧
      Moves object before descriptor after (descriptor.extended staged data) ∧
      (data = [] ∨ descriptor.Holds data.length)) ∨
    ∃ breach after moved, writeObject object data before = (.broken breach, after) ∧
      Spills object before descriptor data after moved ∧ ¬descriptor.Holds data.length := by
  have writable : descriptor.mode.writable = true := by
    have sound := serves.sound
    unfold Descriptor.Sound at sound
    rwa [content] at sound
  by_cases empty : data = []
  · refine .inl ⟨before, ?_, ?_, .inl empty⟩
    · simp [writeObject, Action.bind_apply, descriptor_apply serves, writable, content, empty]
    · simp only [Descriptor.extended, empty, ↓reduceIte]
      exact serves.refl
  · by_cases addressable : descriptor.position < Word.signedBound
    · by_cases fits : descriptor.position + data.length < Word.signedBound
      · have moved := serves.updating (Descriptor.evolves_extended content data)
        refine .inl ⟨_, ?_, moved.trans (moved.serves.noting (.objectWritten object data.length
          descriptor.position)), .inr fits⟩
        simp [writeObject, Action.bind_apply, Action.map_apply, descriptor_apply serves, writable,
          content, empty, Action.ensure, addressable, fits, modifySession, note, updating,
          Descriptor.extended]
      · have front : Content.Spilled descriptor.position data descriptor.content
            (descriptor.spilled staged modified data).content := by
          rw [content, Descriptor.spilled, List.take_eq_take_min]
          exact .front addressable (Nat.min_le_right _ _)
        refine .inr ⟨.contentTooLarge, _, _, ?_, ⟨serves.spilling content data, rfl, front⟩, fits⟩
        simp [writeObject, Action.bind_apply, descriptor_apply serves, writable, content, empty,
          Action.ensure, addressable, fits, modifySession, updating]
    · have beyond : ¬descriptor.Holds data.length := fun holds =>
        addressable (Nat.lt_of_le_of_lt (Nat.le_add_right _ _) holds)
      refine .inr ⟨.contentTooLarge, before, descriptor, ?_,
        ⟨serves.refl.drifts, rfl, .same⟩, beyond⟩
      simp [writeObject, Action.bind_apply, descriptor_apply serves, writable, content, empty,
        Action.ensure, addressable]

/-- A write that content can hold is laid over what is staged. -/
theorem writeObject_apply {staged : Bytes} {modified : Bool}
    (serves : before.Serves object descriptor) (data : Bytes)
    (content : descriptor.content = .staged staged modified)
    (holds : descriptor.Holds data.length) :
    ∃ after, writeObject object data before = (.ok data.length, after) ∧
      Moves object before descriptor after (descriptor.extended staged data) := by
  rcases writeObject_ends serves data content with
    ⟨after, answered, moves, -⟩ | ⟨breach, after, moved, -, -, outside⟩
  · exact ⟨after, answered, moves⟩
  · exact (outside holds).elim

/-- The bytes of an open object, or a front part of those asked for. -/
theorem bytesOf_cases (serves : before.Serves object descriptor) {start stop : Nat}
    (order : start < stop) (inside : stop ≤ descriptor.content.length) :
    (∃ answer after, bytesOf descriptor start stop before = (.ok answer, after) ∧
      Moves object before descriptor after descriptor ∧
      ∀ backing, descriptor.backing? before.objects = some backing →
        ∃ count, count ≤ stop - start ∧ answer = backing.slice start (start + count) ∧
          (before.faults = ∅ → count = stop - start)) ∨
    ∃ cause after, bytesOf descriptor start stop before = (.error cause, after) ∧
      Moves object before descriptor after descriptor ∧
      (before.faults = ∅ → descriptor.backing? before.objects = none) := by
  cases kind : descriptor.content with
  | staged data modified =>
      refine .inl ⟨data.slice start stop, before, ?_, serves.refl, ?_⟩
      · simp [bytesOf, kind]
      · intro backing backed
        simp only [Descriptor.backing?, kind, Option.some.injEq] at backed
        subst backed
        refine ⟨stop - start, Nat.le_refl _, ?_, fun _ => rfl⟩
        rw [Nat.add_sub_of_le (Nat.le_of_lt order)]
  | recorded size =>
      have moved := serves.calling (.storeGetRange descriptor.location start stop)
      rcases fetchRange_cases serves.honest descriptor.location start stop with
        ⟨data, count, delivered, held, room, whole⟩ | ⟨cause, failed, short⟩
      · refine .inl ⟨data.slice start (start + count), _, ?_, moved, fun backing backed => ?_⟩
        · simp only [bytesOf, kind, delivered]
        · have length := Descriptor.length_of_backing? backed
          simp only [Descriptor.backing?, kind, held] at backed
          obtain ⟨same, -⟩ := Option.filter_eq_some_iff.mp backed
          obtain rfl := Option.some.inj same
          rw [Bytes.length_slice] at room whole
          rw [← length] at inside
          refine ⟨count, by omega, rfl, fun quiet => ?_⟩
          rw [whole quiet]
          omega
      · refine .inr ⟨cause, _, ?_, moved, fun quiet => Option.eq_none_iff_forall_ne_some.mpr ?_⟩
        · simp only [bytesOf, kind, failed]
        · intro backing backed
          have length := Descriptor.length_of_backing? backed
          simp only [Descriptor.backing?, kind] at backed
          have ends := short quiet _ (Option.filter_eq_some_iff.mp backed).1
          omega

/-- A read delivers the bytes at the position, or a front part of them, or it is refused. It is
abandoned if it finds bytes and has room for more than machine words can count. -/
theorem readObject_ends (serves : before.Serves object descriptor) (buffer : Bytes) :
    (∃ bytes after, readObject object buffer before =
        (.ok (bytes.length, buffer.overlay 0 bytes), after) ∧
      Moves object before descriptor after
        { descriptor with position := descriptor.position + bytes.length } ∧
      bytes.length ≤ buffer.length ∧
      (bytes = [] ∨ descriptor.position + bytes.length < Word.bound) ∧
      ∀ backing, descriptor.backing? before.objects = some backing →
        bytes = backing.slice descriptor.position (descriptor.position + bytes.length) ∧
        (before.faults = ∅ →
          bytes.length = min buffer.length (backing.length - descriptor.position))) ∨
    (∃ cause after, readObject object buffer before = (.error cause, after) ∧
      Moves object before descriptor after descriptor ∧
      (before.faults = ∅ → descriptor.backing? before.objects ≠ none →
        descriptor.mode.readable = false)) ∨
    ∃ breach, readObject object buffer before = (.broken breach, before) ∧
      ¬descriptor.Spans buffer.length := by
  by_cases readable : descriptor.mode.readable = true
  · by_cases ended : descriptor.content.length ≤ descriptor.position ∨ buffer = []
    · refine .inl ⟨[], before, ?_, serves.refl, Nat.zero_le _, .inl rfl, ?_⟩
      · simp [readObject, Action.bind_apply, descriptor_apply serves, readable, ended]
      · intro backing backed
        have length := Descriptor.length_of_backing? backed
        refine ⟨by simp, fun _ => ?_⟩
        rcases ended with past | empty
        · simp only [List.length_nil]
          omega
        · simp [empty]
    · obtain ⟨unread, wanted⟩ := not_or.mp ended
      have present : 0 < buffer.length := List.length_pos_iff.mpr wanted
      have order : descriptor.position <
          min (descriptor.position + buffer.length) descriptor.content.length := by omega
      by_cases fits : descriptor.position + buffer.length < Word.bound
      case neg =>
        refine .inr (.inr ⟨.additionOverflow, ?_, fun spans => fits (spans (by omega))⟩)
        simp [readObject, Action.bind_apply, descriptor_apply serves, readable, ended, Word.add,
          fits]
      rcases bytesOf_cases serves order (Nat.min_le_right _ _) with
        ⟨answer, between, answered, moved, honest⟩ | ⟨cause, after, failed, moved, stale⟩
      · have advanced := moved.serves.updating (descriptor.evolves_position
          (descriptor.position + (answer.take buffer.length).length))
        have noted := advanced.serves.noting
          (.objectRead object (answer.take buffer.length).length descriptor.position)
        have shorter : (answer.take buffer.length).length ≤ buffer.length :=
          List.length_take_le _ _
        refine .inl ⟨answer.take buffer.length, _, ?_, (moved.trans advanced).trans noted, shorter,
          .inr (by omega), ?_⟩
        · simp [readObject, Action.bind_apply, Action.map_apply, descriptor_apply serves, readable,
            ended, Word.add, fits, answered, modifySession, note, updating]
        · intro backing backed
          obtain ⟨count, room, rfl, whole⟩ := honest backing backed
          have length := Descriptor.length_of_backing? backed
          have exact : (backing.slice descriptor.position (descriptor.position + count)).length =
              count := by
            rw [Bytes.length_slice]
            omega
          have taken : (backing.slice descriptor.position
              (descriptor.position + count)).take buffer.length =
                backing.slice descriptor.position (descriptor.position + count) :=
            List.take_of_length_le (by omega)
          rw [taken, exact]
          refine ⟨rfl, fun quiet => ?_⟩
          rw [whole quiet]
          omega
      · refine .inr (.inl ⟨cause, after, ?_, moved, fun quiet backed =>
          (backed (stale quiet)).elim⟩)
        simp [readObject, Action.bind_apply, descriptor_apply serves, readable, ended, Word.add,
          fits, failed]
  · refine .inr (.inl ⟨.generic (.notReadable object), before, ?_, serves.refl, fun _ _ => ?_⟩)
    · simp [readObject, Action.bind_apply, descriptor_apply serves, readable]
    · simpa using readable

end Session

namespace Link

/-- A seek that goes through moves the object; one that does not was out of range or met a fault. -/
theorem seekObject_cases (serves : before.Serves object descriptor) (target : SeekTarget) :
    (∃ position after, seekObject object target before = (.ok position, after) ∧
      Word.ofInt? (descriptor.target target) = some position ∧
      Moves object before descriptor after { descriptor with position }) ∨
    ∃ cause after, seekObject object target before = (.error cause, after) ∧
      Moves object before descriptor after descriptor ∧
      (before.faults = ∅ → Word.ofInt? (descriptor.target target) = none) := by
  have called := serves.calling (.seekObject object target)
  rcases announce_cases serves.honest (.seekObject object target) with
    ⟨cause, refused, armed⟩ | ⟨fault, passed, allows⟩
  · refine .inr ⟨cause, _, ?_, called, fun quiet => (armed quiet).elim⟩
    simp [seekObject, Action.bind_apply, refused]
  · have answered := Session.seekObject_apply called.serves target
    cases reached : Word.ofInt? (descriptor.target target) with
    | some position =>
        rw [reached] at answered
        have moved := called.serves.updating (descriptor.evolves_position position)
        refine .inl ⟨position, _, ?_, rfl, called.trans moved⟩
        simp [seekObject, Action.bind_apply, Action.map_apply, passed, answered, allows.reported]
    | none =>
        rw [reached] at answered
        refine .inr ⟨.generic (.seekOutOfRange object (descriptor.target target)), _, ?_, called,
          fun _ => rfl⟩
        simp only [seekObject, Action.bind_apply, passed, answered]

/-- Asking for the position moves nothing. Only a position that is no machine word is not told. -/
theorem position_ends (serves : before.Serves object descriptor) :
    (∃ after, position object before = (.ok descriptor.position, after) ∧
      Moves object before descriptor after descriptor) ∨
    ∃ cause after, position object before = (.error cause, after) ∧
      Moves object before descriptor after descriptor ∧
      (before.faults = ∅ → Word.bound ≤ descriptor.position) := by
  have called := serves.calling (.position object)
  rcases announce_cases serves.honest (.position object) with
    ⟨cause, refused, armed⟩ | ⟨fault, passed, allows⟩
  · refine .inr ⟨cause, _, ?_, called, fun quiet => (armed quiet).elim⟩
    simp [position, Action.bind_apply, refused]
  · have answered := Session.seekObject_apply called.serves (.current 0)
    have here : descriptor.target (.current 0) = (descriptor.position : Int) := by
      simp [Descriptor.target]
    by_cases addressable : descriptor.position < Word.bound
    · rw [here, Word.ofInt?_natCast addressable] at answered
      have moved := called.serves.updating (descriptor.evolves_position descriptor.position)
      refine .inl ⟨_, ?_, called.trans moved⟩
      simp [position, Session.position, Action.bind_apply, Action.map_apply, passed, answered,
        allows.reported]
    · have far : Word.ofInt? (descriptor.position : Int) = none := by
        simp [Word.ofInt?, addressable]
      rw [here, far] at answered
      refine .inr ⟨.generic (.seekOutOfRange object descriptor.position), _, ?_, called,
        fun _ => Nat.not_lt.mp addressable⟩
      simp only [position, Session.position, Action.bind_apply, passed, answered]

/-- An object tells its position unless a fault keeps it from that. -/
theorem position_cases (serves : before.Serves object descriptor)
    (addressable : descriptor.position < Word.bound) :
    (∃ after, position object before = (.ok descriptor.position, after) ∧
      Moves object before descriptor after descriptor) ∨
    ∃ cause after, position object before = (.error cause, after) ∧
      Moves object before descriptor after descriptor ∧ before.faults ≠ ∅ := by
  rcases position_ends serves with answers | ⟨cause, after, failed, moves, excuse⟩
  · exact .inl answers
  · exact .inr ⟨cause, after, failed, moves, fun quiet =>
      Nat.not_lt.mpr (excuse quiet) addressable⟩

/-- A read through the link, which may shorten the buffer on its way. -/
theorem readObject_ends (serves : before.Serves object descriptor) (buffer : Bytes) :
    (∃ bytes after, readObject object buffer before =
        (.ok (bytes.length, buffer.overlay 0 bytes), after) ∧
      Moves object before descriptor after
        { descriptor with position := descriptor.position + bytes.length } ∧
      bytes.length ≤ buffer.length ∧
      (bytes = [] ∨ descriptor.position + bytes.length < Word.bound) ∧
      ∀ backing, descriptor.backing? before.objects = some backing →
        bytes = backing.slice descriptor.position (descriptor.position + bytes.length) ∧
        (before.faults = ∅ →
          bytes.length = min buffer.length (backing.length - descriptor.position))) ∨
    (∃ cause after, readObject object buffer before = (.error cause, after) ∧
      Moves object before descriptor after descriptor ∧
      (before.faults = ∅ → descriptor.backing? before.objects ≠ none →
        descriptor.mode.readable = false)) ∨
    ∃ breach after, readObject object buffer before = (.broken breach, after) ∧
      Moves object before descriptor after descriptor ∧ ¬descriptor.Spans buffer.length := by
  have called := serves.calling (.readObject object buffer.length)
  rcases announce_cases serves.honest (.readObject object buffer.length) with
    ⟨cause, refused, armed⟩ | ⟨fault, passed, allows⟩
  · refine .inr (.inl ⟨cause, _, ?_, called, fun quiet => (armed quiet).elim⟩)
    simp [readObject, Action.bind_apply, refused]
  · obtain ⟨reach, room, travelled, whole⟩ := allows.travelling buffer
    have shorter : (buffer.take reach).length = reach := List.length_take_of_le room
    rcases Session.readObject_ends called.serves (buffer.take reach) with
      ⟨bytes, after, answered, moved, inside, word, faithful⟩ |
        ⟨cause, after, failed, moved, excuse⟩ | ⟨breach, abandoned, outside⟩
    · refine .inl ⟨bytes, after, ?_, called.trans moved, by omega, word, ?_⟩
      · simp [readObject, Action.bind_apply, Action.map_apply, passed, travelled, answered,
          allows.reported, Bytes.overlay_zero_travelled]
      · intro backing backed
        obtain ⟨same, complete⟩ := faithful backing backed
        refine ⟨same, fun quiet => ?_⟩
        rw [complete (quiet_calling quiet _), shorter, whole quiet]
    · refine .inr (.inl ⟨cause, after, ?_, called.trans moved, fun quiet => ?_⟩)
      · simp [readObject, Action.bind_apply, Action.map_apply, passed, travelled, failed]
      · exact excuse (quiet_calling quiet _)
    · refine .inr (.inr ⟨breach, _, ?_, called, fun spans => outside fun inside => ?_⟩)
      · simp [readObject, Action.bind_apply, Action.map_apply, passed, travelled, abandoned]
      · have fits := spans inside
        omega

/-- A write through the link takes a front part of the data, or is refused. It is abandoned if
no content reaches as far as the data. -/
theorem writeObject_ends (serves : before.Serves object descriptor) (data : Bytes) :
    (∃ count staged modified after, writeObject object data before = (.ok count, after) ∧
      descriptor.content = .staged staged modified ∧
      Moves object before descriptor after (descriptor.extended staged (data.take count)) ∧
      count ≤ data.length ∧ (count = 0 ∨ descriptor.Holds count) ∧
      (before.faults = ∅ → count = data.length)) ∨
    (∃ cause after, writeObject object data before = (.error cause, after) ∧
      Moves object before descriptor after descriptor ∧
      (before.faults = ∅ → descriptor.mode.writable = false)) ∨
    ∃ breach after moved, writeObject object data before = (.broken breach, after) ∧
      Spills object before descriptor data after moved ∧ ¬descriptor.Holds data.length := by
  have called := serves.calling (.writeObject object data)
  rcases announce_cases serves.honest (.writeObject object data) with
    ⟨cause, refused, armed⟩ | ⟨fault, passed, allows⟩
  · refine .inr (.inl ⟨cause, _, ?_, called, fun quiet => (armed quiet).elim⟩)
    simp [writeObject, Action.bind_apply, refused]
  · obtain ⟨reach, room, travelled, whole⟩ := allows.travelling data
    have shorter : (data.take reach).length = reach := List.length_take_of_le room
    cases kind : descriptor.content with
    | staged staged modified =>
        rcases Session.writeObject_ends called.serves (data.take reach) kind with
          ⟨after, answered, moved, place⟩ | ⟨breach, after, moved, abandoned, spills, outside⟩
        · rw [shorter] at answered place
          refine .inl ⟨reach, staged, modified, after, ?_, rfl, called.trans moved, room,
            place.imp (fun none => ?_) id, whole⟩
          · simp [writeObject, Action.bind_apply, Action.map_apply, passed, travelled, answered,
              allows.reported]
          · rw [← shorter, none, List.length_nil]
        · have touched : Spills object _ descriptor data after moved :=
            { spills with content := kind ▸ spills.content.of_take }
          refine .inr (.inr ⟨breach, after, moved, ?_, touched.after_moves called, fun holds =>
            outside (Nat.lt_of_le_of_lt (Nat.add_le_add_left ?_ _) holds)⟩)
          · simp [writeObject, Action.bind_apply, Action.map_apply, passed, travelled, abandoned]
          · omega
    | recorded size =>
        have readOnly : descriptor.mode.writable = false := by
          have sound := serves.sound
          unfold Descriptor.Sound at sound
          rwa [kind] at sound
        refine .inr (.inl ⟨.generic (.notWritable object), _, ?_, called, fun _ => readOnly⟩)
        simp [writeObject, Session.writeObject, Action.bind_apply, Action.map_apply, passed,
          Session.descriptor_apply called.serves, readOnly]

end Link

end RemoteStreams
