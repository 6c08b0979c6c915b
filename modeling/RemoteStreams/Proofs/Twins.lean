import RemoteStreams.Proofs.Pairing

/-! # Twins

Two objects that are open on two remote sides are twins if they have the same descriptor and the
same bytes stored where they are, whatever their ids are and whatever else there is
(`RemoteStreams.Twins`). Without faults, a request to an object depends on nothing else
(`RemoteStreams.Remote.Determined`), so every operation on a cached stream is in step with the same
operation on its twin (`RemoteStreams.Twins.perform`).
-/

namespace RemoteStreams

open Remote

/-- Without faults, what an object answers and what becomes of it depends on its descriptor and
on the bytes stored at its location, whatever its id is and whatever else there is. -/
def Remote.Determined {α : Type} (request : ObjectId → RemoteAction α) : Prop :=
  ∀ (descriptor : Descriptor) (stored : Option Bytes),
    ∃ (outcome : ObjectId → Outcome RemoteError α) (moved : Descriptor),
      (∀ object other, (outcome object).Matches RemoteError.Same Eq (outcome other)) ∧
      ∀ (object : ObjectId) (before : Remote), before.Serves object descriptor →
        before.faults = ∅ → before.objects.find? descriptor.location = stored →
          ∃ after, request object before = (outcome object, after) ∧
            Drifts object before descriptor after moved

section Determined

variable {α β : Type} {request : ObjectId → RemoteAction α}

theorem Remote.announce_quiet {before : Remote} (quiet : before.faults = ∅) (call : Call) :
    announce call before = (.ok none, before.calling call) := by
  simp [announce, Action.bind_apply, quiet]

/-- What is made of the answer does not make it less determined. -/
theorem Remote.Determined.map (determined : Determined request) (convert : α → β) :
    Determined fun object => convert <$> request object := by
  intro descriptor stored
  obtain ⟨outcome, moved, same, ends⟩ := determined descriptor stored
  refine ⟨fun object => (outcome object).map convert, moved,
    fun object other => (same object other).map convert,
    fun object before serves quiet held => ?_⟩
  obtain ⟨after, ended, moves⟩ := ends object before serves quiet held
  refine ⟨after, (Action.map_apply convert (request object) before).trans ?_, moves⟩
  rw [ended]

/-- A call over the link is announced first. -/
theorem Remote.Determined.linked {request : Option Fault → ObjectId → RemoteAction α}
    (determined : Determined (request none)) (call : ObjectId → Call) :
    Determined fun object => announce (call object) >>= fun fault => request fault object := by
  intro descriptor stored
  obtain ⟨outcome, moved, same, ends⟩ := determined descriptor stored
  refine ⟨outcome, moved, same, fun object before serves quiet held => ?_⟩
  have called := serves.calling (call object)
  obtain ⟨after, ended, moves⟩ := ends object (before.calling (call object)) called.serves
    (called.quiet quiet) held
  refine ⟨after, (Action.bind_apply _ _ before).trans ?_, called.drifts.trans moves⟩
  rw [announce_quiet quiet]
  exact ended

end Determined

namespace Session

/-- A seek depends on the open object only. -/
theorem determined_seekObject (target : SeekTarget) :
    Determined fun object => seekObject object target := by
  intro descriptor stored
  cases reached : Word.ofInt? (descriptor.target target) with
  | some position =>
      refine ⟨fun _ => .ok position, { descriptor with position }, fun _ _ => .ok rfl,
        fun object before serves quiet held =>
          ⟨before.updating object { descriptor with position }, ?_, (serves.updating ?_).drifts⟩⟩
      · exact (seekObject_apply serves target).trans (by rw [reached])
      · exact descriptor.evolves_position position
  | none =>
      refine ⟨fun object => .error (.generic (.seekOutOfRange object (descriptor.target target))),
        descriptor, fun _ _ => .error rfl, fun object before serves quiet held =>
          ⟨before, ?_, serves.refl.drifts⟩⟩
      exact (seekObject_apply serves target).trans (by rw [reached])

/-- A write depends on the open object only. -/
theorem determined_writeObject (data : Bytes) :
    Determined fun object => writeObject object data := by
  intro descriptor stored
  by_cases writable : descriptor.mode.writable = true
  · cases content : descriptor.content with
    | recorded size =>
        refine ⟨fun object => .error (.generic (.nothingStaged object)), descriptor,
          fun _ _ => .error rfl,
          fun object before serves quiet held => ⟨before, ?_, serves.refl.drifts⟩⟩
        simp [writeObject, Action.bind_apply, descriptor_apply serves, writable, content]
    | staged staged modified =>
        by_cases empty : data = []
        · refine ⟨fun _ => .ok 0, descriptor, fun _ _ => .ok rfl,
            fun object before serves quiet held => ⟨before, ?_, serves.refl.drifts⟩⟩
          simp [writeObject, Action.bind_apply, descriptor_apply serves, writable, content, empty]
        · by_cases addressable : descriptor.position < Word.signedBound
          · by_cases fits : descriptor.position + data.length < Word.signedBound
            · refine ⟨fun _ => .ok data.length, descriptor.extended staged data, fun _ _ => .ok rfl,
                fun object before serves quiet held => ?_⟩
              obtain ⟨after, answered, moves⟩ := writeObject_apply serves data content fits
              exact ⟨after, answered, moves.drifts⟩
            · refine ⟨fun _ => .broken .contentTooLarge, descriptor.spilled staged modified data,
                fun _ _ => .broken _,
                fun object before serves quiet held => ⟨_, ?_, serves.spilling content data⟩⟩
              simp [writeObject, Action.bind_apply, descriptor_apply serves, writable, content,
                empty, Action.ensure, addressable, fits, modifySession, updating]
          · refine ⟨fun _ => .broken .contentTooLarge, descriptor, fun _ _ => .broken _,
              fun object before serves quiet held => ⟨before, ?_, serves.refl.drifts⟩⟩
            simp [writeObject, Action.bind_apply, descriptor_apply serves, writable, content, empty,
              Action.ensure, addressable]
  · refine ⟨fun object => .error (.generic (.notWritable object)), descriptor,
      fun _ _ => .error rfl,
      fun object before serves quiet held => ⟨before, ?_, serves.refl.drifts⟩⟩
    simp [writeObject, Action.bind_apply, descriptor_apply serves, writable]

/-- The bytes of an open object are staged, or they are those that are stored. -/
theorem determined_bytesOf (descriptor : Descriptor) (stored : Option Bytes) (start stop : Nat) :
    ∃ outcome : Outcome RemoteError Bytes, ∀ (object : ObjectId) (before : Remote),
      before.Serves object descriptor → before.faults = ∅ →
      before.objects.find? descriptor.location = stored →
        ∃ after, bytesOf descriptor start stop before = (outcome, after) ∧
          Moves object before descriptor after descriptor := by
  cases kind : descriptor.content with
  | staged data modified =>
      refine ⟨.ok (data.slice start stop), fun object before serves quiet held =>
        ⟨before, ?_, serves.refl⟩⟩
      simp [bytesOf, kind]
  | recorded size =>
      cases stored with
      | none =>
          refine ⟨.error (.missing descriptor.location), fun object before serves quiet held =>
            ⟨_, ?_, serves.calling (.storeGetRange descriptor.location start stop)⟩⟩
          simp [bytesOf, kind, fetchRange, Remote.object, Action.bind_apply, announce_quiet quiet,
            calling, held]
      | some data =>
          by_cases past : data.length ≤ start
          · refine ⟨.error (.generic (.rangePastEnd start data.length)),
              fun object before serves quiet held =>
                ⟨_, ?_, serves.calling (.storeGetRange descriptor.location start stop)⟩⟩
            simp [bytesOf, kind, fetchRange, Remote.object, Action.bind_apply, announce_quiet quiet,
              calling, held, past]
          · refine ⟨.ok (data.slice start stop), fun object before serves quiet held =>
              ⟨_, ?_, serves.calling (.storeGetRange descriptor.location start stop)⟩⟩
            simp [bytesOf, kind, fetchRange, Remote.object, Action.bind_apply, announce_quiet quiet,
              calling, held, past]

/-- A read depends on the open object and on what the store has in its place. -/
theorem determined_readObject (buffer : Bytes) :
    Determined fun object => readObject object buffer := by
  intro descriptor stored
  by_cases readable : descriptor.mode.readable = true
  · by_cases idle : descriptor.content.length ≤ descriptor.position ∨ buffer = []
    · refine ⟨fun _ => .ok (0, buffer), descriptor, fun _ _ => .ok rfl,
        fun object before serves quiet held => ⟨before, ?_, serves.refl.drifts⟩⟩
      simp [readObject, Action.bind_apply, descriptor_apply serves, readable, idle]
    · by_cases fits : descriptor.position + buffer.length < Word.bound
      · obtain ⟨outcome, ends⟩ := determined_bytesOf descriptor stored descriptor.position
          (min (descriptor.position + buffer.length) descriptor.content.length)
        cases outcome with
        | ok answer =>
            refine ⟨fun _ => .ok ((answer.take buffer.length).length,
                buffer.overlay 0 (answer.take buffer.length)),
              { descriptor with
                position := descriptor.position + (answer.take buffer.length).length },
              fun _ _ => .ok rfl, fun object before serves quiet held => ?_⟩
            obtain ⟨after, answered, moves⟩ := ends object before serves quiet held
            have advanced := moves.serves.updating (descriptor.evolves_position
              (descriptor.position + (answer.take buffer.length).length))
            have noted := advanced.serves.noting
              (.objectRead object (answer.take buffer.length).length descriptor.position)
            refine ⟨_, ?_, ((moves.trans advanced).trans noted).drifts⟩
            simp [readObject, Action.bind_apply, Action.map_apply, descriptor_apply serves,
              readable, idle, Word.add, fits, answered, modifySession, note, updating]
        | error cause =>
            refine ⟨fun _ => .error cause, descriptor, fun _ _ => .error rfl,
              fun object before serves quiet held => ?_⟩
            obtain ⟨after, failed, moves⟩ := ends object before serves quiet held
            refine ⟨after, ?_, moves.drifts⟩
            simp [readObject, Action.bind_apply, descriptor_apply serves, readable, idle, Word.add,
              fits, failed]
        | broken breach =>
            refine ⟨fun _ => .broken breach, descriptor, fun _ _ => .broken breach,
              fun object before serves quiet held => ?_⟩
            obtain ⟨after, failed, moves⟩ := ends object before serves quiet held
            refine ⟨after, ?_, moves.drifts⟩
            simp [readObject, Action.bind_apply, descriptor_apply serves, readable, idle, Word.add,
              fits, failed]
      · refine ⟨fun _ => .broken .additionOverflow, descriptor, fun _ _ => .broken _,
          fun object before serves quiet held => ⟨before, ?_, serves.refl.drifts⟩⟩
        simp [readObject, Action.bind_apply, descriptor_apply serves, readable, idle, Word.add, fits]
  · refine ⟨fun object => .error (.generic (.notReadable object)), descriptor,
      fun _ _ => .error rfl,
      fun object before serves quiet held => ⟨before, ?_, serves.refl.drifts⟩⟩
    simp [readObject, Action.bind_apply, descriptor_apply serves, readable]

end Session

namespace Link

/-- Through the link, a seek depends on the open object only. -/
theorem determined_seekObject (target : SeekTarget) :
    Determined fun object => seekObject object target := by
  have asked := Session.determined_seekObject target
  exact Determined.linked (asked.map _) _

/-- A position depends on the open object only. -/
theorem determined_position : Determined fun object => position object := by
  have asked := Session.determined_seekObject (.current 0)
  exact Determined.linked (asked.map _) _

/-- Through the link, a write depends on the open object only. -/
theorem determined_writeObject (data : Bytes) :
    Determined fun object => writeObject object data := by
  have asked := Session.determined_writeObject data
  exact Determined.linked (asked.map _) _

/-- Through the link, a read depends on the open object and on what the store has in its place. -/
theorem determined_readObject (buffer : Bytes) :
    Determined fun object => readObject object buffer := by
  have asked := Session.determined_readObject buffer
  exact Determined.linked (asked.map _) _

end Link

/-- Two remote sides with an open object each. The objects have ids of their own, but else they
are alike, and so are the bytes that are stored where they are. There are no faults. -/
structure Twins where
  left : ObjectId
  right : ObjectId
  leftSide : Remote
  rightSide : Remote
  descriptor : Descriptor
  leftServes : leftSide.Serves left descriptor
  rightServes : rightSide.Serves right descriptor
  leftQuiet : leftSide.faults = ∅
  rightQuiet : rightSide.faults = ∅
  stored : leftSide.objects.find? descriptor.location =
    rightSide.objects.find? descriptor.location

namespace Twins

variable {twins : Twins}

/-- Both objects drifted in the same way, and nothing else was done. -/
def AtRemote (twins : Twins) (first second : Remote) : Prop :=
  ∃ moved, Drifts twins.left twins.leftSide twins.descriptor first moved ∧
    Drifts twins.right twins.rightSide twins.descriptor second moved

/-- Two streams on the objects that are the same otherwise. -/
def AtStream (twins : Twins) (first second : Attached) : Prop :=
  ∃ stream : CachedStream, first.stream = stream.named twins.left ∧
    second.stream = stream.named twins.right ∧ twins.AtRemote first.remote second.remote

/-- What is determined by an object comes out the same for both. -/
theorem determined {α : Type} {request : ObjectId → RemoteAction α}
    (determined : Determined request) :
    Action.InStep twins.AtRemote RemoteError.Same Eq (request twins.left)
      (request twins.right) := by
  rintro first second ⟨moved, left, right⟩
  have leftStored : first.objects.find? moved.location =
      twins.leftSide.objects.find? twins.descriptor.location := by
    rw [left.objects, left.drifted.location]
  have rightStored : second.objects.find? moved.location =
      twins.leftSide.objects.find? twins.descriptor.location := by
    rw [right.objects, right.drifted.location, twins.stored]
  obtain ⟨outcome, final, same, ends⟩ := determined moved _
  obtain ⟨after, ended, moves⟩ :=
    ends twins.left first left.serves (left.quiet twins.leftQuiet) leftStored
  obtain ⟨after', ended', moves'⟩ :=
    ends twins.right second right.serves (right.quiet twins.rightQuiet) rightStored
  rw [ended, ended']
  exact ⟨same _ _, final, left.trans moves, right.trans moves'⟩

section Steps

variable {α : Type}

/-- The two objects are paired, but errors may name them by their ids. -/
def pairing (twins : Twins) : Pairing where
  left := twins.left
  right := twins.right
  remotes := twins.AtRemote
  causes := RemoteError.Same
  errors := StreamError.Same
  refl := StreamError.Same.refl
  remote := fun _ _ => StreamError.Same.remote
  noting := by
    rintro first second event event' ⟨moved, left, right⟩
    exact ⟨moved, left.trans (left.serves.noting event).drifts,
      right.trans (right.serves.noting event').drifts⟩
  reading := fun buffer => twins.determined (Link.determined_readObject buffer)
  writing := fun data => twins.determined (Link.determined_writeObject data)
  seeking := fun target => twins.determined (Link.determined_seekObject target)
  asking := twins.determined Link.determined_position
  requesting := by
    rintro first second size ⟨moved, left, right⟩
    have quiet := left.quiet twins.leftQuiet
    have quiet' := right.quiet twins.rightQuiet
    refine ⟨?_, moved, left.trans left.serves.requesting.drifts,
      right.trans right.serves.requesting.drifts⟩
    rw [affords, affords, quiet, quiet']

/-- Two steps of streams on the objects are in step. -/
abbrev InStep (twins : Twins) (first second : StreamAction α) : Prop :=
  Action.InStep twins.AtStream StreamError.Same Eq first second

theorem tell : twins.InStep CachedStream.tell CachedStream.tell := twins.pairing.tell

theorem flush : twins.InStep CachedStream.flush CachedStream.flush := twins.pairing.flush

/-- Every operation does the same on both objects. -/
theorem perform (operation : Operation) :
    twins.InStep (CachedStream.perform operation) (CachedStream.perform operation) :=
  twins.pairing.perform operation

end Steps

end Twins

end RemoteStreams
