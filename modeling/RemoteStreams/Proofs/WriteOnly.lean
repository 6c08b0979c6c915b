import RemoteStreams.Proofs.Opening
import RemoteStreams.Proofs.Unsaved

/-! # Streams for writing only

A stream that is opened for writing takes the whole object along, and may be asked to read. Still it
never tells anything of the bytes that the object had before: two streams on objects of the same
size cannot be told apart, whatever they are asked for
(`RemoteStreams.CachedStream.writeOnly_eq`). What the objects become is the same wherever bytes were
written, and behind the end of the old objects.
-/

namespace RemoteStreams

open Remote

/-- Two open objects that may not be read, and are the same but for the bytes that they hold. -/
structure Descriptor.Veils (first second : Descriptor) : Prop where
  hidden : first.mode.readable = false
  mode : second.mode = first.mode
  location : second.location = first.location
  position : second.position = first.position
  content : ∃ staged staged' modified, first.content = .staged staged modified ∧
    second.content = .staged staged' modified ∧ staged'.length = staged.length

/-- One object is open on two remote sides without faults, as the same but for its bytes. -/
def Remote.Veiled (object : ObjectId) (first second : Remote) : Prop :=
  ∃ descriptor descriptor', first.Serves object descriptor ∧ second.Serves object descriptor' ∧
    first.faults = ∅ ∧ second.faults = ∅ ∧ descriptor.Veils descriptor'

namespace Descriptor.Veils

variable {first second : Descriptor}

/-- What is veiled has the same length. -/
theorem length (veils : first.Veils second) : second.content.length = first.content.length := by
  obtain ⟨staged, staged', modified, content, content', length⟩ := veils.content
  rw [content, content']
  exact length

/-- Targets are the same for what is veiled. -/
theorem target (veils : first.Veils second) (target : SeekTarget) :
    second.target target = first.target target := by
  cases target with
  | start position => rfl
  | current offset => simp only [Descriptor.target, veils.position]
  | ending offset => simp only [Descriptor.target, veils.length]

/-- What is veiled stays so when both are moved. -/
theorem moved (veils : first.Veils second) (position : Nat) :
    Veils { first with position } { second with position } where
  hidden := veils.hidden
  mode := veils.mode
  location := veils.location
  position := rfl
  content := veils.content

theorem writable (veils : first.Veils second) : first.mode.writable = true := by
  have hidden := veils.hidden
  cases mode : first.mode <;> simp_all [OpenMode.readable, OpenMode.writable]

/-- What is veiled stays so when the same is written to both. -/
theorem extended (veils : first.Veils second) {staged staged' : Bytes}
    (length : staged'.length = staged.length) (data : Bytes) :
    (first.extended staged data).Veils (second.extended staged' data) := by
  unfold Descriptor.extended
  split
  · exact veils
  · refine ⟨veils.hidden, veils.mode, veils.location, ?_, _, _, true, rfl, rfl, ?_⟩
    · simp only [write, veils.position]
    · rw [Bytes.length_overlay, Bytes.length_overlay, veils.position, length]

/-- A write that is given up does the same to both. -/
theorem spilled (veils : first.Veils second) {staged staged' : Bytes} {modified : Bool}
    (length : staged'.length = staged.length) (data : Bytes) :
    (first.spilled staged modified data).Veils (second.spilled staged' modified data) where
  hidden := veils.hidden
  mode := veils.mode
  location := veils.location
  position := veils.position
  content := by
    refine ⟨_, _, modified, rfl, rfl, ?_⟩
    rw [Bytes.length_overlay, Bytes.length_overlay, veils.position, length]

end Descriptor.Veils

namespace Remote

variable {object : ObjectId} {α : Type}

/-- A request for the veiled object comes out the same on both sides. -/
abbrev InStep (object : ObjectId) (first second : RemoteAction α) : Prop :=
  Action.InStep (Veiled object) Eq Eq first second

/-- Both sides stay veiled when the objects drift to what is veiled again. -/
theorem Veiled.drifts {first second after after' : Remote}
    {descriptor descriptor' moved moved' : Descriptor} (quiet : first.faults = ∅)
    (quiet' : second.faults = ∅) (drifts : Drifts object first descriptor after moved)
    (drifts' : Drifts object second descriptor' after' moved') (veils : moved.Veils moved') :
    Veiled object after after' :=
  ⟨moved, moved', drifts.serves, drifts'.serves, drifts.quiet quiet, drifts'.quiet quiet', veils⟩

/-- A call comes out the same through the link. -/
theorem Veiled.linked {request : Option Fault → RemoteAction α} {call : Call}
    (asked : InStep object (request none) (request none)) :
    InStep object (announce call >>= request) (announce call >>= request) := by
  rintro first second ⟨descriptor, descriptor', serves, serves', quiet, quiet', veils⟩
  have called : Veiled object (first.calling call) (second.calling call) :=
    .drifts quiet quiet' (serves.calling call).drifts (serves'.calling call).drifts veils
  simp only [Action.bind_apply, announce_quiet quiet, announce_quiet quiet']
  exact asked _ _ called

end Remote

namespace Session

variable {object : ObjectId}

/-- A read does not lift the veil, as it is refused. -/
theorem readObject_veiled (buffer : Bytes) :
    Remote.InStep object (readObject object buffer) (readObject object buffer) := by
  rintro first second veiled
  obtain ⟨descriptor, descriptor', serves, serves', -, -, veils⟩ := id veiled
  have refused {remote : Remote} {descriptor : Descriptor}
      (serves : remote.Serves object descriptor) (hidden : descriptor.mode.readable = false) :
      readObject object buffer remote = (.error (.generic (.notReadable object)), remote) := by
    simp [readObject, Action.bind_apply, descriptor_apply serves, hidden]
  rw [refused serves veils.hidden, refused serves' (veils.mode ▸ veils.hidden)]
  exact ⟨.error rfl, veiled⟩

/-- A seek does not lift the veil. -/
theorem seekObject_veiled (target : SeekTarget) :
    Remote.InStep object (seekObject object target) (seekObject object target) := by
  rintro first second veiled
  obtain ⟨descriptor, descriptor', serves, serves', quiet, quiet', veils⟩ := id veiled
  rw [seekObject_apply serves, seekObject_apply serves', veils.target]
  cases Word.ofInt? (descriptor.target target) with
  | none => exact ⟨.error rfl, veiled⟩
  | some position =>
      have moves := serves.updating (descriptor.evolves_position position)
      have moves' := serves'.updating (descriptor'.evolves_position position)
      exact ⟨.ok rfl, .drifts quiet quiet' moves.drifts moves'.drifts (veils.moved position)⟩

/-- A write that leads as far as no content reaches is given up. -/
theorem writeObject_outsized {remote : Remote} {descriptor : Descriptor} {data staged : Bytes}
    {modified : Bool} (serves : remote.Serves object descriptor)
    (writable : descriptor.mode.writable = true)
    (content : descriptor.content = .staged staged modified)
    (present : data ≠ []) (outsized : ¬descriptor.Holds data.length) :
    writeObject object data remote = (.broken .contentTooLarge,
      if descriptor.position < Word.signedBound then
        remote.updating object (descriptor.spilled staged modified data)
      else remote) := by
  have beyond : ¬descriptor.position + data.length < Word.signedBound := outsized
  by_cases start : descriptor.position < Word.signedBound
  · simp [writeObject, Action.bind_apply, descriptor_apply serves, writable, content, present,
      Action.ensure, start, beyond, modifySession, updating]
  · simp [writeObject, Action.bind_apply, descriptor_apply serves, writable, content, present,
      Action.ensure, start]

/-- A write does not lift the veil, even if it is given up. -/
theorem writeObject_veiled (data : Bytes) :
    Remote.InStep object (writeObject object data) (writeObject object data) := by
  rintro first second veiled
  obtain ⟨descriptor, descriptor', serves, serves', quiet, quiet', veils⟩ := id veiled
  obtain ⟨staged, staged', modified, content, content', length⟩ := veils.content
  have writable' : descriptor'.mode.writable = true := veils.mode ▸ veils.writable
  by_cases empty : data = []
  · have nothing {remote : Remote} {descriptor : Descriptor} {staged : Bytes}
        (serves : remote.Serves object descriptor) (writable : descriptor.mode.writable = true)
        (content : descriptor.content = .staged staged modified) :
        writeObject object data remote = (.ok 0, remote) := by
      simp [writeObject, Action.bind_apply, descriptor_apply serves, writable, content, empty]
    rw [nothing serves veils.writable content, nothing serves' writable' content']
    exact ⟨.ok rfl, veiled⟩
  by_cases holds : descriptor.Holds data.length
  · have holds' : descriptor'.Holds data.length := by rwa [Descriptor.Holds, veils.position]
    obtain ⟨after, ended, moves⟩ := writeObject_apply serves data content holds
    obtain ⟨after', ended', moves'⟩ := writeObject_apply serves' data content' holds'
    rw [ended, ended']
    exact ⟨.ok rfl,
      .drifts quiet quiet' moves.drifts moves'.drifts (veils.extended length data)⟩
  · have outsized' : ¬descriptor'.Holds data.length := by rwa [Descriptor.Holds, veils.position]
    rw [writeObject_outsized serves veils.writable content empty holds,
      writeObject_outsized serves' writable' content' empty outsized', veils.position]
    refine ⟨.broken _, ?_⟩
    dsimp only
    split
    · exact .drifts quiet quiet' (serves.spilling content data) (serves'.spilling content' data)
        (veils.spilled length data)
    · exact veiled

end Session

namespace Link

variable {object : ObjectId}

theorem readObject_veiled (buffer : Bytes) :
    Remote.InStep object (readObject object buffer) (readObject object buffer) :=
  Veiled.linked ((Session.readObject_veiled buffer).map _)

theorem writeObject_veiled (data : Bytes) :
    Remote.InStep object (writeObject object data) (writeObject object data) :=
  Veiled.linked ((Session.writeObject_veiled data).map _)

theorem seekObject_veiled (target : SeekTarget) :
    Remote.InStep object (seekObject object target) (seekObject object target) :=
  Veiled.linked ((Session.seekObject_veiled target).map _)

theorem position_veiled : Remote.InStep object (position object) (position object) :=
  Veiled.linked ((Session.seekObject_veiled (.current 0)).map _)

end Link

/-- The veiled object is paired with itself, and not even errors differ. -/
def Pairing.veiled (object : ObjectId) : Pairing where
  left := object
  right := object
  remotes := Veiled object
  causes := Eq
  errors := Eq
  refl := fun _ => rfl
  remote := fun _ _ => congrArg StreamError.remote
  noting := by
    rintro first second event event' ⟨_, _, serves, serves', quiet, quiet', veils⟩
    exact .drifts quiet quiet' (serves.noting event).drifts (serves'.noting event').drifts veils
  reading := Link.readObject_veiled
  writing := Link.writeObject_veiled
  seeking := Link.seekObject_veiled
  asking := Link.position_veiled
  requesting := by
    rintro first second size ⟨_, _, serves, serves', quiet, quiet', veils⟩
    refine ⟨by rw [affords, affords, quiet, quiet'], ?_⟩
    exact .drifts quiet quiet' serves.requesting.drifts serves'.requesting.drifts veils

/-- The same remote side with an object. -/
def Remote.holding (remote : Remote) (location : ObjectPath) (data : Bytes) : Remote :=
  { remote with objects := remote.objects.insert location data }

/-- The bytes of an operation that its answer says were taken. -/
def Operation.accepted : Operation → Outcome StreamError Answer → Bytes
  | .write data, .ok answer => data.take answer.taken
  | .putByte byte, .ok answer => [byte].take answer.taken
  | _, _ => []

/-- Outcomes that correspond by equality are equal. -/
theorem Outcome.Matches.eq {ε α : Type} {first second : Outcome ε α}
    (corresponds : first.Matches Eq Eq second) : first = second := by
  cases corresponds with
  | ok values => rw [values]
  | error causes => rw [causes]
  | broken breach => rfl

/-- A patch over two contents of the same size makes them agree where it lies, and elsewhere they
agree where they did. -/
theorem Bytes.getElem?_overlay_congr {first second : Bytes} (length : second.length = first.length)
    (offset : Nat) (patch : Bytes) {place : Nat}
    (agree : offset ≤ place ∧ place < offset + patch.length ∨ first[place]? = second[place]?) :
    (overlay first offset patch)[place]? = (overlay second offset patch)[place]? := by
  rw [getElem?_overlay, getElem?_overlay, length]
  rcases agree with covered | same
  · rw [if_pos covered, if_pos covered]
  · rw [same]

/-- Two files of one length agree on what is written to both, and wherever they agreed before. -/
theorem PlainFile.written_congr {file file' : PlainFile} (patch : Bytes)
    (position : file'.position = file.position)
    (length : file'.content.length = file.content.length) :
    (file'.written patch).content.length = (file.written patch).content.length ∧
      ∀ place, file.position ≤ place ∧ place < file.position + patch.length ∨
          file.content[place]? = file'.content[place]? →
        (file.written patch).content[place]? = (file'.written patch).content[place]? := by
  simp only [written, position]
  by_cases empty : patch = []
  · simp only [empty, ↓reduceIte, List.length_nil]
    exact ⟨length, fun place agree => agree.resolve_left (by omega)⟩
  · simp only [empty, ↓reduceIte, Bytes.length_overlay, length]
    exact ⟨trivial, fun place agree => Bytes.getElem?_overlay_congr length _ patch agree⟩

/-- A stream for writing only on an object at `location`, with nothing in its way. -/
structure Attached.WriteOnly (attached : Attached) (location : ObjectPath)
    (descriptor : Descriptor) : Prop where
  coherent : attached.Coherent descriptor
  steady : attached.Steady descriptor
  mode : descriptor.mode = .write
  located : descriptor.location = location
  faithful : descriptor.Faithful attached.remote.objects

namespace Attached.WriteOnly

variable {attached : Attached} {location : ObjectPath} {descriptor : Descriptor}

/-- The user of a clean stream sees what is staged. -/
theorem seen_of_clean {staged : Bytes} {modified : Bool}
    (writes : attached.WriteOnly location descriptor) (clean : attached.stream.dirty = false)
    (content : descriptor.content = .staged staged modified) :
    attached.file? = some ⟨staged, attached.stream.here⟩ := by
  refine file?_eq_some_iff.mpr ⟨?_, rfl⟩
  rw [writes.coherent.content?_of_clean clean, Descriptor.backing?, content]

/-- What the user sees is stored in the end. -/
theorem close {file : PlainFile} (writes : attached.WriteOnly location descriptor)
    (near : attached.stream.here < PlainFile.positionBound) (seen : attached.file? = some file) :
    ∃ closed, attached.stream.close attached.remote = (.ok (), closed) ∧
      closed.objects.find? location = some file.content := by
  have reach := writes.coherent.reach_lt near
  have shown := (file?_eq_some_iff.mp seen).1
  rw [← writes.located]
  exact CachedStream.close_apply writes.coherent reach writes.steady writes.faithful shown

end Attached.WriteOnly

namespace CachedStream

open Attached

/-- What a sequence of operations comes to, one after the other: how each ends, and the stream
after it. -/
def trace : List Operation → Attached → List (Outcome StreamError Answer × CachedStream)
  | [], _ => []
  | operation :: rest, attached =>
      let (answer, after) := perform operation attached
      (answer, after.stream) :: trace rest after

/-- The stream is used at positions in range only, and no write leads as far as no content
reaches. -/
def Within : List Operation → Attached → Prop
  | [], attached => attached.stream.here < PlainFile.positionBound
  | operation :: rest, attached =>
      attached.stream.here < PlainFile.positionBound ∧ operation.FitsAt attached.stream.here ∧
        Within rest (perform operation attached).2

/-- The operation is a write that puts a byte at `place`. -/
def Touches (operation : Operation) (attached : Attached) (place : Nat) : Prop :=
  attached.stream.here ≤ place ∧ place <
    attached.stream.here + (operation.accepted (perform operation attached).1).length

/-- Some write of a sequence of operations puts a byte at `place`. -/
def Covers : List Operation → Attached → Nat → Prop
  | [], _, _ => False
  | operation :: rest, attached, place =>
      Touches operation attached place ∨ Covers rest (perform operation attached).2 place

/-- Two streams for writing only that cannot be told apart. What their users see is of the same
size, and agrees at some places. -/
structure Veiled (object : ObjectId) (location : ObjectPath) (agreed : Nat → Prop)
    (first second : Attached) : Prop where
  together : (Pairing.veiled object).AtStream first second
  left : ∃ descriptor, first.WriteOnly location descriptor
  right : ∃ descriptor, second.WriteOnly location descriptor
  agree : ∃ file file', first.file? = some file ∧ second.file? = some file' ∧
    file'.content.length = file.content.length ∧
    ∀ place, agreed place → file.content[place]? = file'.content[place]?

variable {object : ObjectId} {location : ObjectPath} {first second attached : Attached}
  {operation : Operation} {operations : List Operation} {agreed : Nat → Prop}

/-- Streams whose objects are veiled are the same. -/
theorem stream_eq (together : (Pairing.veiled object).AtStream first second) :
    first.stream = second.stream := by
  obtain ⟨stream, left, right, -⟩ := together
  exact left.trans right.symm

/-- An operation comes out the same on both and leaves the veil. -/
theorem perform_veiled (together : (Pairing.veiled object).AtStream first second)
    (operation : Operation) :
    (perform operation first).1 = (perform operation second).1 ∧
      (Pairing.veiled object).AtStream (perform operation first).2
        (perform operation second).2 := by
  have inStep : (Pairing.veiled object).InStep (perform operation) (perform operation) :=
    Pairing.perform operation
  obtain ⟨ended, after⟩ := inStep first second together
  exact ⟨ended.eq, after⟩

/-- By induction on the operations, so does every sequence of them. -/
theorem trace_eq (together : (Pairing.veiled object).AtStream first second) :
    trace operations first = trace operations second := by
  induction operations generalizing first second with
  | nil => rfl
  | cons operation rest inductive_hypothesis =>
      obtain ⟨ended, after⟩ := perform_veiled together operation
      simp only [trace, ended, stream_eq after, inductive_hypothesis after]

/-- The file that the user sees changes by the bytes that were taken. -/
theorem perform_written {file : PlainFile} {descriptor : Descriptor}
    (writes : attached.WriteOnly location descriptor)
    (near : attached.stream.here < PlainFile.positionBound) (addressable : operation.Addressable)
    (fits : operation.FitsAt attached.stream.here) (seen : attached.file? = some file) :
    (∃ moved, (perform operation attached).2.WriteOnly location moved) ∧
    ∃ final, (perform operation attached).2.file? = some final ∧
      final.content =
        (file.written (operation.accepted (perform operation attached).1)).content := by
  have writable : descriptor.mode.writable = true := by
    rw [writes.mode]
    rfl
  obtain ⟨moved, answers⟩ := perform_answers writes.coherent near addressable fits
  have moves := answers.advances.moves
  refine ⟨⟨moved, answers.advances.coherent, ?_, moves.evolved.mode.trans writes.mode,
    moves.evolved.location.trans writes.located,
    moves.objects ▸ moves.evolved.faithful writes.faithful⟩, ?_⟩
  · refine ⟨moves.quiet writes.steady.quiet, ?_, fun _ => moves.evolved.mode ▸ writable⟩
    rw [answers.advances.limit]
    exact writes.steady.allocatable
  · obtain ⟨final, next, step⟩ := answers.step file seen
    cases operation with
    | putByte byte =>
        rcases putByte_cases writes.coherent near byte with
          ⟨count, after, _, ended, -, accepts, -, whole⟩ | ⟨cause, after, _, ended, -⟩
        · obtain rfl := whole writes.steady writable
          rw [perform, Action.map_apply, ended]
          exact ⟨file.written [byte], accepts.file?_eq seen, rfl⟩
        · rw [perform, Action.map_apply, ended] at step next ⊢
          cases step
          exact ⟨file, next, rfl⟩
    | _ =>
        refine ⟨final, next, ?_⟩
        generalize (perform _ attached).1 = outcome at step ⊢
        cases step <;> rfl

/-- Files that agree agree at fewer places too. -/
theorem Veiled.weaken {fewer : Nat → Prop} (veiled : Veiled object location agreed first second)
    (subset : ∀ place, fewer place → agreed place) :
    Veiled object location fewer first second where
  together := veiled.together
  left := veiled.left
  right := veiled.right
  agree := by
    obtain ⟨file, file', seen, seen', length, agree⟩ := veiled.agree
    exact ⟨file, file', seen, seen', length, fun place fewer => agree place (subset place fewer)⟩

/-- An operation on both streams leaves them agreeing, and makes them agree where it writes. -/
theorem Veiled.perform (veiled : Veiled object location agreed first second)
    (near : first.stream.here < PlainFile.positionBound) (addressable : operation.Addressable)
    (fits : operation.FitsAt first.stream.here) :
    Veiled object location (fun place => Touches operation first place ∨ agreed place)
      (perform operation first).2 (perform operation second).2 := by
  have same := stream_eq veiled.together
  obtain ⟨ended, after⟩ := perform_veiled veiled.together operation
  obtain ⟨descriptor, left⟩ := veiled.left
  obtain ⟨descriptor', right⟩ := veiled.right
  obtain ⟨file, file', seen, seen', length, agree⟩ := veiled.agree
  obtain ⟨next, final, shown, content⟩ := perform_written left near addressable fits seen
  obtain ⟨next', final', shown', content'⟩ :=
    perform_written right (same ▸ near) addressable (same ▸ fits) seen'
  have here := (file?_eq_some_iff.mp seen).2
  have position : file'.position = file.position := by
    rw [← (file?_eq_some_iff.mp seen').2, ← same, here]
  rw [← ended] at content'
  obtain ⟨longer, further⟩ := PlainFile.written_congr
    (operation.accepted (CachedStream.perform operation first).1) position length
  refine ⟨after, next, next', final, final', shown, shown', ?_, fun place agrees => ?_⟩
  · rw [content, content', longer]
  · rw [content, content']
    refine further place (agrees.imp (fun touched => ?_) (agree place))
    rwa [Touches, here] at touched

/-- A sequence of operations on both streams leaves them agreeing, and makes them agree wherever one
of them wrote. -/
theorem Veiled.run (veiled : Veiled object location agreed first second)
    (inRange : Within operations first)
    (addressable : ∀ operation ∈ operations, operation.Addressable) :
    Veiled object location (fun place => Covers operations first place ∨ agreed place)
      (run operations first).2 (run operations second).2 ∧
    (CachedStream.run operations first).2.stream.here < PlainFile.positionBound := by
  induction operations generalizing first second agreed with
  | nil => exact ⟨veiled.weaken fun place agrees => agrees.resolve_left id, inRange⟩
  | cons operation rest inductive_hypothesis =>
      obtain ⟨final, near⟩ := inductive_hypothesis
        (veiled.perform inRange.1 (addressable operation List.mem_cons_self) inRange.2.1) inRange.2.2
        fun later member => addressable later (List.mem_cons_of_mem _ member)
      exact ⟨final.weaken fun place agrees => or_left_comm.mpr (or_assoc.mp agrees), near⟩

section Opened

variable {remote : Remote} {path : String} {sizes : BufferSizes} {data other : Bytes}

/-- A stream for writing takes the whole object along. -/
theorem openStream_writeOnly (online : remote.session.connected = true)
    (quiet : remote.faults = ∅) (spelled : ObjectPath.parse path = .ok location)
    (held : remote.objects.find? location = some data) (ordered : sizes.initial ≤ sizes.max)
    (allocatable : sizes.max < Window.allocationBound) :
    ∃ opened descriptor, openStream path .write sizes remote =
        (.ok (fresh remote.session.nextObject path sizes), opened) ∧
      WriteOnly ⟨fresh remote.session.nextObject path sizes, opened⟩ location descriptor ∧
      descriptor.position = 0 ∧ descriptor.content = .staged data false := by
  have honest : remote.faults.Honest := quiet ▸ FaultPlan.honest_empty
  have small : sizes.initial < Window.allocationBound := Nat.lt_of_le_of_lt ordered allocatable
  have opening := openStream_opening honest path .write ordered
  rcases openStream_cases honest path .write ordered with
    ⟨object, descriptor, opened, answered, fresh, -⟩ | ⟨-, excuse⟩
  · obtain ⟨named, -⟩ := opening.delivers _ (congrArg Prod.fst answered)
    obtain rfl : object = remote.session.nextObject := congrArg CachedStream.object named
    obtain rfl : descriptor.location = location := by
      have same := fresh.spelled.symm.trans spelled
      simpa using same
    have writable : descriptor.mode.writable = true := by
      rw [fresh.mode_eq]
      rfl
    obtain ⟨staged, content, stored⟩ := fresh.staged writable
    have same : staged = data := by
      rcases fresh.stored with kept | ⟨-, -, absent⟩
      · rw [kept, held] at stored
        exact (Option.some.inj stored).symm
      · rw [absent quiet] at held
        contradiction
    subst same
    have calm : Steady ⟨CachedStream.fresh remote.session.nextObject path sizes, opened⟩
        descriptor := ⟨fresh.quiet quiet, allocatable, fun _ => writable⟩
    exact ⟨opened, descriptor, answered,
      ⟨coherent_fresh fresh.serves fresh.position path ordered small, calm, fresh.mode_eq, rfl,
        fresh.faithful⟩, fresh.position, content⟩
  · have absent := (excuse quiet online small location spelled).1
    rw [held] at absent
    contradiction

/-- A stream for writing tells nothing of the old object. If all that differs are the bytes of
the object that it is opened on, every sequence of operations comes out the same, with the same
errors and through the same states of the stream. When the stream is closed, the objects are the
same wherever one of the operations wrote, and behind the end of the old object, where gaps are
filled. -/
theorem writeOnly_eq (online : remote.session.connected = true) (quiet : remote.faults = ∅)
    (spelled : ObjectPath.parse path = .ok location) (ordered : sizes.initial ≤ sizes.max)
    (allocatable : sizes.max < Window.allocationBound) (length : other.length = data.length) :
    ∃ stream opened opened',
      openStream path .write sizes (remote.holding location data) = (.ok stream, opened) ∧
      openStream path .write sizes (remote.holding location other) = (.ok stream, opened') ∧
      ∀ operations, trace operations ⟨stream, opened⟩ = trace operations ⟨stream, opened'⟩ ∧
        ((∀ operation ∈ operations, operation.Addressable) →
          Within operations ⟨stream, opened⟩ →
          ∃ closed closed' content content',
            close (run operations ⟨stream, opened⟩).2.stream
              (run operations ⟨stream, opened⟩).2.remote = (.ok (), closed) ∧
            close (run operations ⟨stream, opened'⟩).2.stream
              (run operations ⟨stream, opened'⟩).2.remote = (.ok (), closed') ∧
            closed.objects.find? location = some content ∧
            closed'.objects.find? location = some content' ∧
            ∀ place, Covers operations ⟨stream, opened⟩ place ∨ data.length ≤ place →
              content[place]? = content'[place]?) := by
  have held (bytes : Bytes) : (remote.holding location bytes).objects.find? location =
      some bytes := FiniteMap.find?_insert_self _ _ _
  have begins (bytes : Bytes) : ∃ opened descriptor,
      openStream path .write sizes (remote.holding location bytes) =
        (.ok (fresh remote.session.nextObject path sizes), opened) ∧
      WriteOnly ⟨fresh remote.session.nextObject path sizes, opened⟩ location descriptor ∧
      descriptor.position = 0 ∧ descriptor.content = .staged bytes false :=
    openStream_writeOnly online quiet spelled (held bytes) ordered allocatable
  obtain ⟨opened, descriptor, opens, left, start, content⟩ := begins data
  obtain ⟨opened', descriptor', opens', right, start', content'⟩ := begins other
  have veils : descriptor.Veils descriptor' := {
    hidden := by rw [left.mode]; rfl
    mode := right.mode.trans left.mode.symm
    location := right.located.trans left.located.symm
    position := start'.trans start.symm
    content := ⟨data, other, false, content, content', length⟩ }
  have together : (Pairing.veiled remote.session.nextObject).AtStream
      ⟨fresh remote.session.nextObject path sizes, opened⟩
      ⟨fresh remote.session.nextObject path sizes, opened'⟩ :=
    ⟨fresh remote.session.nextObject path sizes, rfl, rfl, descriptor, descriptor',
      left.coherent.serves, right.coherent.serves, left.steady.quiet, right.steady.quiet, veils⟩
  refine ⟨_, opened, opened', opens, opens', fun operations => ⟨trace_eq together,
    fun addressable inRange => ?_⟩⟩
  have veiled : Veiled remote.session.nextObject location (data.length ≤ ·)
      ⟨fresh remote.session.nextObject path sizes, opened⟩
      ⟨fresh remote.session.nextObject path sizes, opened'⟩ := {
    together := together
    left := ⟨descriptor, left⟩
    right := ⟨descriptor', right⟩
    agree := by
      refine ⟨⟨data, 0⟩, ⟨other, 0⟩, left.seen_of_clean rfl content,
        right.seen_of_clean rfl content', length, fun place beyond => ?_⟩
      rw [List.getElem?_eq_none beyond, List.getElem?_eq_none (length ▸ beyond)] }
  obtain ⟨final, near⟩ := veiled.run inRange addressable
  obtain ⟨_, writes⟩ := final.left
  obtain ⟨_, writes'⟩ := final.right
  obtain ⟨file, file', seen, seen', -, agree⟩ := final.agree
  obtain ⟨closed, closes, stored⟩ := writes.close near seen
  obtain ⟨closed', closes', stored'⟩ := writes'.close (stream_eq final.together ▸ near) seen'
  exact ⟨closed, closed', _, _, closes, closes', stored, stored', agree⟩

end Opened

/-- What is overwritten agrees, as does the gap that is filled. -/
theorem writeOnly_eq_overwriting :
    ∃ (stream : CachedStream) (opened opened' closed closed' : Remote) (content content' : Bytes),
      openStream "a" .write ⟨2, 4⟩ (Remote.reliable.holding ⟨"a"⟩ [1, 2, 3]) =
        (.ok stream, opened) ∧
      openStream "a" .write ⟨2, 4⟩ (Remote.reliable.holding ⟨"a"⟩ [4, 5, 6]) =
        (.ok stream, opened') ∧
      trace [.write [7], .read [0, 0], .seek (.start 5), .putByte 8] ⟨stream, opened⟩ =
        trace [.write [7], .read [0, 0], .seek (.start 5), .putByte 8] ⟨stream, opened'⟩ ∧
      closed.objects.find? ⟨"a"⟩ = some content ∧ closed'.objects.find? ⟨"a"⟩ = some content' ∧
      content[0]? = content'[0]? ∧ content[4]? = content'[4]? := by
  have online : Remote.reliable.session.connected = true := rfl
  have quiet : Remote.reliable.faults = ∅ := rfl
  have spelled : ObjectPath.parse "a" = .ok ⟨"a"⟩ := rfl
  have ordered : BufferSizes.initial ⟨2, 4⟩ ≤ BufferSizes.max ⟨2, 4⟩ := by decide
  have allocatable : BufferSizes.max ⟨2, 4⟩ < Window.allocationBound := by decide
  have length : ([4, 5, 6] : Bytes).length = ([1, 2, 3] : Bytes).length := rfl
  obtain ⟨stream, opened, opened', opens, opens', alike⟩ :=
    writeOnly_eq online quiet spelled ordered allocatable length
  obtain ⟨same, rfl⟩ : Outcome.ok (fresh ⟨1⟩ "a" ⟨2, 4⟩) = Outcome.ok stream ∧
      (openStream "a" .write ⟨2, 4⟩ (Remote.reliable.holding ⟨"a"⟩ [1, 2, 3])).2 = opened :=
    Prod.mk.inj opens
  obtain rfl := Outcome.ok.inj same
  obtain ⟨traces, closes⟩ := alike [.write [7], .read [0, 0], .seek (.start 5), .putByte 8]
  have inRange : Within [.write [7], .read [0, 0], .seek (.start 5), .putByte 8]
      ⟨fresh ⟨1⟩ "a" ⟨2, 4⟩,
        (openStream "a" .write ⟨2, 4⟩ (Remote.reliable.holding ⟨"a"⟩ [1, 2, 3])).2⟩ := by
    simp only [Within]
    decide
  obtain ⟨closed, closed', content, content', -, -, stored, stored', agree⟩ :=
    closes (by decide) inRange
  refine ⟨_, _, opened', closed, closed', content, content', opens, opens', traces, stored, stored',
    agree 0 (.inl ?_), agree 4 (.inr (by decide))⟩
  simp only [Covers, Touches]
  decide

end CachedStream

end RemoteStreams
