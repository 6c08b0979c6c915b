import RemoteStreams.Proofs.Lasting
import RemoteStreams.Proofs.Operations

/-! # What lasts while a stream is used

A stream uses its object by reading, writing, seeking and asking for its position, and it asks for
memory. What such calls leave alone is left alone by every operation of the stream
(`RemoteStreams.CachedStream.Lasting.perform`), whatever faults are in store and wherever the stream
is. In particular an operation moves the object of its stream, unless a write is given up, and does
nothing else that counts (`RemoteStreams.CachedStream.perform_drifts`).
-/

namespace RemoteStreams

open Remote

/-- The primitives that a stream comes to between its opening and its close. -/
def Primitive.transfers : List Primitive :=
  [.readObject, .writeObject, .seekObject, .position, .storeGetRange, .allocate]

namespace CachedStream

section Looking

open Action.Maintains

variable {holds : Attached → Prop} {ε α : Type}

theorem maintains_current_bind {next : CachedStream → Action Attached ε α}
    (goesOn : ∀ stream, Action.Maintains holds (next stream)) :
    Action.Maintains holds (current >>= next) := fun attached => goesOn attached.stream attached

theorem maintains_tell : Action.Maintains holds (tell : Action Attached ε Nat) :=
  maintains_current_bind fun _ => ite (pure _) (abandon _)

theorem maintains_requireSettled :
    Action.Maintains holds (requireSettled : Action Attached ε Unit) :=
  maintains_current_bind fun _ => ensure _

theorem maintains_requireClean : Action.Maintains holds (requireClean : Action Attached ε Unit) :=
  maintains_current_bind fun _ => ensure _

/-- Finding out whether a target is within the window changes nothing. -/
theorem maintains_localShift (target : SeekTarget) :
    Action.Maintains holds (localShift target) := by
  refine maintains_current_bind fun stream => ?_
  cases target with
  | start position => exact bind (ite (pure _) (abandon _)) fun _ => ite (pure _) (pure _)
  | current offset => exact ite (pure _) (ite (pure _) (ite (pure _) (pure _)))
  | ending offset => exact pure _

theorem maintains_resolve (target : SeekTarget) : Action.Maintains holds (resolve target) := by
  cases target with
  | start position => exact pure _
  | current offset =>
      refine bind maintains_tell fun position => ?_
      split
      · exact pure _
      · exact fail _
  | ending offset => exact pure _

end Looking

/-- It holds of the remote side however `object` is used by a stream. -/
structure Lasting (object : ObjectId) (holds : Remote → Prop) : Prop where
  noting : ∀ remote event, holds remote → holds (remote.noting event)
  reading : ∀ remote buffer, holds remote → holds (Link.readObject object buffer remote).2
  writing : ∀ remote data, holds remote → holds (Link.writeObject object data remote).2
  seeking : ∀ remote target, holds remote → holds (Link.seekObject object target remote).2
  asking : ∀ remote, holds remote → holds (Link.position object remote).2
  requesting : ∀ remote, holds remote → holds remote.requesting

/-- The stream is on `object`, and the remote side is as said. -/
def On (object : ObjectId) (holds : Remote → Prop) (attached : Attached) : Prop :=
  attached.stream.object = object ∧ holds attached.remote

namespace Lasting

open Action.Maintains

variable {object : ObjectId} {holds : Remote → Prop} {ε α : Type}

/-- What goes on from the current stream may rely on which object it is on. -/
theorem current_bind {next : CachedStream → Action Attached ε α}
    (goesOn : ∀ stream, stream.object = object → Action.Maintains (On object holds) (next stream)) :
    Action.Maintains (On object holds) (current >>= next) :=
  fun attached held => goesOn attached.stream held.1 attached held

theorem modify {change : CachedStream → CachedStream}
    (same : ∀ stream, (change stream).object = stream.object) :
    Action.Maintains (On object holds) (CachedStream.modify change : Action Attached ε Unit) :=
  fun _ held => ⟨(same _).trans held.1, held.2⟩

theorem onWindow (body : Action Window ε α) :
    Action.Maintains (On object holds) (CachedStream.onWindow body) := fun _ held => held

theorem anchor (base : Nat) :
    Action.Maintains (On object holds) (CachedStream.anchor base : Action Attached ε Unit) :=
  modify fun _ => rfl

variable (lasting : Lasting object holds)

include lasting

theorem grow (capacity : Nat) : Action.Maintains (On object holds) (CachedStream.grow capacity) :=
  bind (fun _ held => ⟨held.1, lasting.requesting _ held.2⟩) fun _ => onWindow _

theorem makeRoom (count : Nat) : Action.Maintains (On object holds) (CachedStream.makeRoom count) :=
  current_bind fun _ _ => ite (lasting.grow _) (pure _)

theorem note (event : Event) :
    Action.Maintains (On object holds) (CachedStream.note event : Action Attached ε Unit) :=
  fun _ held => ⟨held.1, lasting.noting _ event held.2⟩

theorem askRead (buffer : Bytes) :
    Action.Maintains (On object holds) (ask (Link.readObject object buffer)) :=
  fun _ held => ⟨held.1, lasting.reading _ buffer held.2⟩

theorem askWrite (data : Bytes) :
    Action.Maintains (On object holds) (ask (Link.writeObject object data)) :=
  fun _ held => ⟨held.1, lasting.writing _ data held.2⟩

theorem askSeek (target : SeekTarget) :
    Action.Maintains (On object holds) (ask (Link.seekObject object target)) :=
  fun _ held => ⟨held.1, lasting.seeking _ target held.2⟩

theorem askPosition : Action.Maintains (On object holds) (ask (Link.position object)) :=
  fun _ held => ⟨held.1, lasting.asking _ held.2⟩

theorem remotePosition : Action.Maintains (On object holds) CachedStream.remotePosition := by
  refine current_bind fun stream same => ?_
  rw [same]
  exact lasting.askPosition

/-- What lasts is maintained when the object is moved back. -/
theorem rewindObject : Action.Maintains (On object holds) CachedStream.rewindObject := by
  refine current_bind fun stream same => ite (pure _) ?_
  rw [same]
  exact bind (lasting.askSeek _) fun _ => modify fun _ => rfl

/-- What lasts is maintained when the window is written back. -/
theorem writeBack : Action.Maintains (On object holds) CachedStream.writeBack := by
  refine current_bind fun stream same => ?_
  rw [same]
  refine bind (lasting.askWrite _) fun written => ?_
  refine bind (modify fun _ => rfl) fun _ => ite ?_ (fail _)
  exact bind (lasting.note _) fun _ => modify fun _ => rfl

/-- So it is maintained by a flush. -/
theorem flush : Action.Maintains (On object holds) CachedStream.flush :=
  current_bind fun _ _ =>
    ite (bind lasting.rewindObject fun _ => lasting.writeBack) (pure _)

/-- The part of a seek that comes after its target was made absolute. -/
theorem seekResolved (target goal : SeekTarget) :
    Action.Maintains (On object holds) (do
      CachedStream.flush
      let stream ← current
      let position ← ask (Link.seekObject stream.object goal)
      CachedStream.anchor position
      CachedStream.note (.sought stream.path target position)
      Pure.pure position : StreamAction Nat) := by
  refine bind lasting.flush fun _ => current_bind fun stream same => ?_
  rw [same]
  refine bind (lasting.askSeek goal) fun position => bind (anchor position) fun _ => ?_
  exact bind (lasting.note _) fun _ => pure _

/-- What lasts is maintained when the object is moved. -/
theorem seekObject (target : SeekTarget) :
    Action.Maintains (On object holds) (CachedStream.seekObject target) :=
  bind (maintains_resolve target) fun goal => lasting.seekResolved target goal

/-- So it is maintained by a seek. -/
theorem seek (target : SeekTarget) :
    Action.Maintains (On object holds) (CachedStream.seek target) := by
  refine bind (maintains_localShift target) fun shift => ?_
  split
  · exact bind (onWindow _) fun _ => maintains_tell
  · exact lasting.seekObject target

/-- What lasts is maintained by what follows a transfer around the window. -/
theorem anchorAfterDirect (moved : Nat) :
    Action.Maintains (On object holds) (CachedStream.anchorAfterDirect moved) := by
  refine current_bind fun stream same => ?_
  rw [same]
  refine bind (attempt lasting.askPosition) fun answer => ?_
  split
  · exact modify fun _ => rfl
  · refine bind (lasting.note _) fun _ => bind (ite (pure _) (abandon _)) fun _ => ?_
    exact modify fun _ => rfl

/-- What lasts is maintained when the window is filled. -/
theorem fill : Action.Maintains (On object holds) CachedStream.fill := by
  refine bind maintains_requireSettled fun _ => current_bind fun stream same => ?_
  rw [same]
  refine bind lasting.askPosition fun position => bind (anchor position) fun _ => ?_
  refine bind (lasting.askRead _) fun filled => bind (onWindow _) fun _ => ?_
  exact modify fun _ => rfl

/-- What lasts is maintained by a read around the window. -/
theorem readDirect (buffer : Bytes) :
    Action.Maintains (On object holds) (CachedStream.readDirect buffer) := by
  refine current_bind fun stream same => bind (lasting.note _) fun _ => ?_
  rw [same]
  refine bind maintains_requireSettled fun _ => bind maintains_tell fun base => ?_
  refine bind (anchor base) fun _ => bind (lasting.askRead buffer) fun filled => ?_
  exact bind (lasting.anchorAfterDirect _) fun _ => pure _

/-- So it is maintained however bytes are fetched. -/
theorem fetch (buffer : Bytes) :
    Action.Maintains (On object holds) (CachedStream.fetch buffer) := by
  refine current_bind fun stream _ => ite (lasting.readDirect buffer) ?_
  refine bind (lasting.grow _) fun _ => bind lasting.fill fun _ => ?_
  exact bind (onWindow _) fun _ => pure _

/-- What lasts is maintained whether a failure is reported or not. -/
theorem fetchRest (cached : Nat) (buffer : Bytes) :
    Action.Maintains (On object holds) (CachedStream.fetchRest cached buffer) := by
  refine bind (attempt (lasting.fetch buffer)) fun answer => ?_
  split
  · exact pure _
  · exact ite (fail _) (current_bind fun _ _ => bind (lasting.note _) fun _ => pure _)

/-- So it is maintained by a read. -/
theorem read (buffer : Bytes) : Action.Maintains (On object holds) (CachedStream.read buffer) := by
  refine ite (pure _) (bind lasting.flush fun _ => bind (onWindow _) fun cached => ?_)
  refine ite (pure _) (bind (lasting.fetchRest _ _) fun fetched => ?_)
  refine current_bind fun stream _ => bind (lasting.note _) fun _ => ?_
  exact bind (ite (pure _) (abandon _)) fun _ => pure _

/-- What lasts is maintained when the window is moved. -/
theorem rebase : Action.Maintains (On object holds) CachedStream.rebase := by
  refine bind maintains_requireClean fun _ => current_bind fun stream same => ?_
  rw [same]
  exact bind lasting.askPosition fun position => anchor position

/-- What lasts is maintained by what goes past the window. -/
theorem writePastWindow (rest : Bytes) :
    Action.Maintains (On object holds) (CachedStream.writePastWindow rest) := by
  refine bind lasting.flush fun _ => bind lasting.rebase fun _ => ?_
  refine current_bind fun stream same => ite ?_ ?_
  · rw [same]
    refine bind (lasting.note _) fun _ => bind (lasting.askWrite rest) fun count => ?_
    exact bind (lasting.anchorAfterDirect count) fun _ => pure _
  · refine bind (lasting.makeRoom _) fun _ => ?_
    refine bind (modify fun _ => rfl) fun _ => ?_
    exact bind (onWindow _) fun _ => bind (ensure _) fun _ => pure _

theorem writeRest (cached : Nat) (rest : Bytes) :
    Action.Maintains (On object holds) (CachedStream.writeRest cached rest) := by
  refine bind (attempt (lasting.writePastWindow rest)) fun answer => ?_
  split
  · exact ite (pure _) (abandon _)
  · exact ite (fail _) (current_bind fun _ _ => bind (lasting.note _) fun _ => pure _)

/-- So it is maintained by a write. -/
theorem write (data : Bytes) : Action.Maintains (On object holds) (CachedStream.write data) := by
  refine ite (pure _) (bind (onWindow _) fun cached => ?_)
  refine bind (modify fun _ => rfl) fun _ => ?_
  exact ite (pure _) (lasting.writeRest _ _)

theorem putByte (byte : UInt8) : Action.Maintains (On object holds) (CachedStream.putByte byte) :=
  bind (lasting.write _) fun _ => pure _

theorem getByte : Action.Maintains (On object holds) CachedStream.getByte :=
  bind (lasting.read _) fun _ => ite (pure _) (pure _)

/-- What lasts does so through every operation. -/
theorem perform (operation : Operation) :
    Action.Maintains (On object holds) (CachedStream.perform operation) := by
  cases operation with
  | read buffer => exact (lasting.read buffer).map _
  | write data => exact (lasting.write data).map _
  | putByte byte => exact (lasting.putByte byte).map _
  | getByte => exact lasting.getByte.map _
  | seek target => exact (lasting.seek target).map _
  | tell => exact maintains_tell.map _
  | flush => exact lasting.flush.map _
  | remotePosition => exact lasting.remotePosition.map _

end Lasting

/-- What lasts while the object drifts lasts while a stream uses it. -/
theorem Lasting.of_drifts {object : ObjectId} {holds : Remote → Prop}
    (further : ∀ {remote after : Remote}, holds remote →
      (∀ {descriptor}, remote.Serves object descriptor →
        ∃ moved, Drifts object remote descriptor after moved) → holds after) :
    Lasting object holds where
  noting := fun _ event held => further held fun serves => ⟨_, (serves.noting event).drifts⟩
  reading := fun _ buffer held => further held fun serves => Link.readObject_drifts serves buffer
  writing := fun _ data held => further held fun serves => Link.writeObject_drifts serves data
  seeking := fun _ target held => further held fun serves => Link.seekObject_drifts serves target
  asking := fun _ held => further held fun serves => Link.position_drifts serves
  requesting := fun _ held => further held fun serves => ⟨_, serves.requesting.drifts⟩

/-- Whatever a stream is asked for, it moves its object or gives up a write on it, and does nothing
else that counts. -/
theorem lasting_drifts (object : ObjectId) (before : Remote) (descriptor : Descriptor) :
    Lasting object fun remote => ∃ moved, Drifts object before descriptor remote moved :=
  .of_drifts fun ⟨_, first⟩ further =>
    have ⟨final, second⟩ := further first.serves
    ⟨final, first.trans second⟩

/-- So does every operation of a stream, which stays on its object. -/
theorem perform_drifts {attached : Attached} {descriptor : Descriptor}
    (serves : attached.remote.Serves attached.stream.object descriptor) (operation : Operation) :
    (perform operation attached).2.stream.object = attached.stream.object ∧
      ∃ moved, Drifts attached.stream.object attached.remote descriptor
        (perform operation attached).2.remote moved :=
  (lasting_drifts _ attached.remote descriptor).perform operation attached
    ⟨rfl, descriptor, serves.refl.drifts⟩

/-- What lasts whatever is called but for uploads lasts while an object is used. -/
theorem lasting_of_remote {allowed : Primitive → Prop} {holds : Remote → Prop}
    (lasting : Remote.Lasting allowed holds) (object : ObjectId)
    (transfers : ∀ primitive, primitive ∈ Primitive.transfers → allowed primitive) :
    Lasting object holds where
  noting := lasting.noting
  reading := fun remote buffer => Link.maintains_readObject lasting (transfers _ (by decide))
    (transfers _ (by decide)) object buffer remote
  writing := fun remote data =>
    Link.maintains_writeObject lasting (transfers _ (by decide)) object data remote
  seeking := fun remote target =>
    Link.maintains_seekObject lasting (transfers _ (by decide)) object target remote
  asking := fun remote =>
    Link.maintains_position lasting (transfers _ (by decide)) object remote
  requesting := lasting.requesting (transfers _ (by decide))

end CachedStream

end RemoteStreams
