import RemoteStreams.Proofs.InStep
import RemoteStreams.Proofs.Operations

/-! # Paired streams

Two open objects are paired if every request for one of them comes out as the same request for the
other does, as long as their remote sides correspond (`RemoteStreams.Pairing`). Cached streams that
are the same but for the ids of two such objects cannot be told apart: every operation on one is in
step with the same operation on the other (`RemoteStreams.Pairing.perform`).
-/

namespace RemoteStreams

/-- The same stream on an object of another id. -/
def CachedStream.named (object : ObjectId) (stream : CachedStream) : CachedStream :=
  { stream with object }

/-- Two open objects on remote sides that correspond. Requests for them are in step. -/
structure Pairing where
  left : ObjectId
  right : ObjectId
  /-- When two remote sides correspond. -/
  remotes : Remote → Remote → Prop
  /-- When two errors of remote sides correspond. -/
  causes : RemoteError → RemoteError → Prop
  /-- When two errors of streams correspond. -/
  errors : StreamError → StreamError → Prop
  refl : ∀ cause, errors cause cause
  remote : ∀ cause cause', causes cause cause' → errors (.remote cause) (.remote cause')
  noting : ∀ first second event event', remotes first second →
    remotes (first.noting event) (second.noting event')
  reading : ∀ buffer, Action.InStep remotes causes Eq (Link.readObject left buffer)
    (Link.readObject right buffer)
  writing : ∀ data, Action.InStep remotes causes Eq (Link.writeObject left data)
    (Link.writeObject right data)
  seeking : ∀ target, Action.InStep remotes causes Eq (Link.seekObject left target)
    (Link.seekObject right target)
  asking : Action.InStep remotes causes Eq (Link.position left) (Link.position right)
  requesting : ∀ first second size, remotes first second →
    first.affords size = second.affords size ∧ remotes first.requesting second.requesting

namespace Pairing

variable {pairing : Pairing}

/-- Two streams on the objects that are the same otherwise. -/
def AtStream (pairing : Pairing) (first second : Attached) : Prop :=
  ∃ stream : CachedStream, first.stream = stream.named pairing.left ∧
    second.stream = stream.named pairing.right ∧ pairing.remotes first.remote second.remote

open CachedStream

variable {ε α β γ : Type} {same : ε → ε → Prop} {alike : α → β → Prop} {alike' : γ → γ → Prop}

/-- Two steps of streams on the objects are in step. -/
abbrev InStep (pairing : Pairing) (first second : StreamAction α) : Prop :=
  Action.InStep pairing.AtStream pairing.errors Eq first second

/-- Two streams that are a pair differ only in the object that they are on. -/
theorem current_bind {next next' : CachedStream → Action Attached ε α}
    (goesOn : ∀ stream : CachedStream, Action.InStep pairing.AtStream same Eq
      (next (stream.named pairing.left)) (next' (stream.named pairing.right))) :
    Action.InStep pairing.AtStream same Eq (current >>= next) (current >>= next') := by
  rintro ⟨leftStream, first⟩ ⟨rightStream, second⟩ ⟨stream, rfl, rfl, remotes⟩
  exact goesOn stream ⟨_, first⟩ ⟨_, second⟩ ⟨stream, rfl, rfl, remotes⟩

/-- A change that does not depend on the object. -/
theorem modify {change : CachedStream → CachedStream}
    (natural : ∀ object stream, change (stream.named object) = (change stream).named object) :
    Action.InStep pairing.AtStream same Eq (CachedStream.modify change)
      (CachedStream.modify change) := by
  rintro ⟨leftStream, first⟩ ⟨rightStream, second⟩ ⟨stream, rfl, rfl, remotes⟩
  exact ⟨.ok rfl, change stream, natural _ _, natural _ _, remotes⟩

/-- What is done on the windows of a pair is the same for both. -/
theorem onWindow (reflexive : ∀ cause, same cause cause) (body : Action Window ε α) :
    Action.InStep pairing.AtStream same Eq (CachedStream.onWindow body)
      (CachedStream.onWindow body) := by
  rintro ⟨leftStream, first⟩ ⟨rightStream, second⟩ ⟨stream, rfl, rfl, remotes⟩
  refine ⟨.refl reflexive (body stream.window).1,
    { stream with window := (body stream.window).2 }, rfl, rfl, remotes⟩

/-- What is in step on the remote sides of a pair is in step for the streams. -/
theorem onRemote {first second : Action Remote ε α}
    (asked : Action.InStep pairing.remotes same Eq first second) :
    Action.InStep pairing.AtStream same Eq (CachedStream.onRemote first)
      (CachedStream.onRemote second) := by
  rintro ⟨leftStream, before⟩ ⟨rightStream, other⟩ ⟨stream, rfl, rfl, remotes⟩
  obtain ⟨ended, after⟩ := asked before other remotes
  exact ⟨ended, stream, rfl, rfl, after⟩

/-- Events need not be the same, since nobody reads the log. -/
theorem note (event event' : Event) :
    Action.InStep pairing.AtStream same Eq (CachedStream.note event)
      (CachedStream.note event') := by
  rintro ⟨leftStream, first⟩ ⟨rightStream, second⟩ ⟨stream, rfl, rfl, remotes⟩
  exact ⟨.ok rfl, stream, rfl, rfl, pairing.noting _ _ _ _ remotes⟩

/-- What the remote sides are asked for is in step if their answers are. -/
theorem ask {request request' : RemoteAction α}
    (asked : Action.InStep pairing.remotes pairing.causes Eq request request') :
    pairing.InStep (CachedStream.ask request) (CachedStream.ask request') :=
  (onRemote asked).mapError pairing.remote

theorem wordAdd (first second : Nat) :
    Action.InStep pairing.AtStream same Eq (Word.add first second) (Word.add first second) :=
  .ite Iff.rfl (.pure rfl) (.abandon _)

theorem tell : pairing.InStep CachedStream.tell CachedStream.tell :=
  current_bind fun _ => wordAdd _ _

theorem anchor (base : Nat) :
    pairing.InStep (CachedStream.anchor base) (CachedStream.anchor base) :=
  modify fun _ _ => rfl

theorem requireSettled : pairing.InStep CachedStream.requireSettled CachedStream.requireSettled :=
  current_bind fun _ => .ensure Iff.rfl _

theorem requireClean : pairing.InStep CachedStream.requireClean CachedStream.requireClean :=
  current_bind fun _ => .ensure Iff.rfl _

/-- What is done on the windows alone may fail in the same way only. -/
theorem window (body : Action Window StreamError α) :
    pairing.InStep (CachedStream.onWindow body) (CachedStream.onWindow body) :=
  onWindow pairing.refl body

/-- Memory is granted to both streams or to none of them. -/
theorem grow (capacity : Nat) :
    pairing.InStep (CachedStream.grow capacity) (CachedStream.grow capacity) := by
  have asked : Action.InStep pairing.remotes pairing.errors Eq (Remote.request capacity)
      (Remote.request capacity) := by
    intro first second remotes
    obtain ⟨granted, after⟩ := pairing.requesting first second capacity remotes
    rw [Remote.request_apply, Remote.request_apply, granted]
    exact ⟨.ok rfl, after⟩
  exact (onRemote asked).bind_eq fun _ => window _

theorem remotePosition : pairing.InStep CachedStream.remotePosition CachedStream.remotePosition :=
  current_bind fun _ => ask pairing.asking

/-- Both objects are moved back to where the windows begin. -/
theorem rewindObject : pairing.InStep CachedStream.rewindObject CachedStream.rewindObject := by
  refine current_bind fun stream => .ite Iff.rfl (.pure rfl) ?_
  refine (ask (pairing.seeking (.start stream.base))).bind_eq fun _ => ?_
  exact modify fun _ _ => rfl

/-- Both windows are written back, or neither is. -/
theorem writeBack : pairing.InStep CachedStream.writeBack CachedStream.writeBack := by
  refine current_bind fun stream => ?_
  refine (ask (pairing.writing stream.window.occupied)).bind_eq fun _ => ?_
  refine (modify fun _ _ => rfl).bind_eq fun _ => .ite Iff.rfl ?_ (.fail (pairing.refl _))
  exact (note _ _).bind_eq fun _ => modify fun _ _ => rfl

/-- So flushes of a pair are in step. -/
theorem flush : pairing.InStep CachedStream.flush CachedStream.flush := by
  refine current_bind fun _ => .ite Iff.rfl ?_ (.pure rfl)
  exact rewindObject.bind_eq fun _ => writeBack

/-- A seek within the window is one for both or for none. -/
theorem localShift (target : SeekTarget) :
    pairing.InStep (CachedStream.localShift target) (CachedStream.localShift target) := by
  refine current_bind fun stream => ?_
  cases target with
  | start position => exact (wordAdd _ _).bind_eq fun _ => .ite Iff.rfl (.pure rfl) (.pure rfl)
  | current offset =>
      refine .ite Iff.rfl (.pure rfl) (.ite Iff.rfl (.pure rfl) ?_)
      exact .ite Iff.rfl (.pure rfl) (.pure rfl)
  | ending offset => exact .pure rfl

theorem resolve (target : SeekTarget) :
    pairing.InStep (CachedStream.resolve target) (CachedStream.resolve target) := by
  cases target with
  | start position => exact .pure rfl
  | current offset =>
      refine tell.bind_eq fun position => ?_
      cases Word.ofInt? (position + offset) with
      | some absolute => exact .pure rfl
      | none => exact .fail (pairing.refl _)
  | ending offset => exact .pure rfl

/-- Both objects are moved. -/
theorem seekObject (target : SeekTarget) :
    pairing.InStep (CachedStream.seekObject target) (CachedStream.seekObject target) := by
  refine (resolve target).bind_eq fun goal => flush.bind_eq fun _ => current_bind fun stream => ?_
  refine (ask (pairing.seeking goal)).bind_eq fun position => ?_
  exact (anchor position).bind_eq fun _ => (note _ _).bind_eq fun _ => .pure rfl

/-- So seeks of a pair are in step. -/
theorem seek (target : SeekTarget) :
    pairing.InStep (CachedStream.seek target) (CachedStream.seek target) := by
  refine (localShift target).bind_eq fun shift => ?_
  cases shift with
  | some delta => exact (window _).bind_eq fun _ => tell
  | none => exact seekObject target

/-- After a transfer around the windows both are anchored alike. -/
theorem anchorAfterDirect (moved : Nat) :
    pairing.InStep (CachedStream.anchorAfterDirect moved)
      (CachedStream.anchorAfterDirect moved) := by
  refine current_bind fun stream => ?_
  refine (onRemote pairing.asking).attempt_bind ?_ ?_
  · rintro position _ rfl
    exact modify fun _ _ => rfl
  · intro cause cause' _
    refine (note _ _).bind_eq fun _ => (wordAdd _ _).bind_eq fun _ => ?_
    exact modify fun _ _ => rfl

/-- Both windows are filled with the same bytes. -/
theorem fill : pairing.InStep CachedStream.fill CachedStream.fill := by
  refine requireSettled.bind_eq fun _ => current_bind fun stream => ?_
  refine (ask pairing.asking).bind_eq fun position => ?_
  refine (anchor position).bind_eq fun _ => ?_
  refine (ask (pairing.reading stream.window.data)).bind_eq fun filled => ?_
  exact (window _).bind_eq fun _ => modify fun _ _ => rfl

/-- Reads around the windows deliver the same bytes. -/
theorem readDirect (buffer : Bytes) :
    pairing.InStep (CachedStream.readDirect buffer) (CachedStream.readDirect buffer) := by
  refine current_bind fun stream => (note _ _).bind_eq fun _ => requireSettled.bind_eq fun _ => ?_
  refine tell.bind_eq fun base => (anchor base).bind_eq fun _ => ?_
  refine (ask (pairing.reading buffer)).bind_eq fun filled => ?_
  exact (anchorAfterDirect _).bind_eq fun _ => .pure rfl

/-- So both ways to get bytes are in step. -/
theorem fetch (buffer : Bytes) :
    pairing.InStep (CachedStream.fetch buffer) (CachedStream.fetch buffer) := by
  refine current_bind fun stream => .ite Iff.rfl (readDirect buffer) ?_
  refine (grow _).bind_eq fun _ => fill.bind_eq fun _ => ?_
  exact (window _).bind_eq fun taken => .pure rfl

/-- The second part of a read is in step, whether its failure is reported or not. -/
theorem fetchRest (cached : Nat) (buffer : Bytes) :
    pairing.InStep (CachedStream.fetchRest cached buffer)
      (CachedStream.fetchRest cached buffer) := by
  refine (fetch buffer).attempt_bind ?_ ?_
  · rintro fetched _ rfl
    exact .pure rfl
  · intro cause cause' causes
    refine .ite Iff.rfl (.fail causes) ?_
    exact current_bind fun stream => (note _ _).bind_eq fun _ => .pure rfl

/-- So reads of a pair are in step. -/
theorem read (buffer : Bytes) :
    pairing.InStep (CachedStream.read buffer) (CachedStream.read buffer) := by
  refine .ite Iff.rfl (.pure rfl) (flush.bind_eq fun _ => (window _).bind_eq fun cached => ?_)
  refine .ite Iff.rfl (.pure rfl) ((fetchRest _ _).bind_eq fun fetched => ?_)
  refine current_bind fun stream => (note _ _).bind_eq fun _ => ?_
  exact (wordAdd _ _).bind_eq fun _ => .pure rfl

/-- Both windows are moved to where their streams are. -/
theorem rebase : pairing.InStep CachedStream.rebase CachedStream.rebase := by
  refine requireClean.bind_eq fun _ => current_bind fun stream => ?_
  exact (ask pairing.asking).bind_eq fun position => anchor position

/-- There is room for data in both windows or in none, since they are of the same size and the
remote sides grant memory alike. -/
theorem makeRoom (count : Nat) :
    pairing.InStep (CachedStream.makeRoom count) (CachedStream.makeRoom count) :=
  current_bind fun _ => .ite Iff.rfl (grow _) (.pure rfl)

/-- What goes past the windows is taken by both alike. -/
theorem writePastWindow (rest : Bytes) :
    pairing.InStep (CachedStream.writePastWindow rest) (CachedStream.writePastWindow rest) := by
  refine flush.bind_eq fun _ => rebase.bind_eq fun _ => current_bind fun stream => ?_
  refine .ite Iff.rfl ?_ ?_
  · refine (note _ _).bind_eq fun _ => ?_
    refine (ask (pairing.writing rest)).bind_eq fun count => ?_
    exact (anchorAfterDirect count).bind_eq fun _ => .pure rfl
  · refine (makeRoom _).bind_eq fun _ => (modify fun _ _ => rfl).bind_eq fun _ => ?_
    refine (window _).bind_eq fun count => ?_
    exact (Action.InStep.ensure Iff.rfl _).bind_eq fun _ => .pure rfl

/-- The second part of a write is in step, whether its failure is reported or not. -/
theorem writeRest (cached : Nat) (rest : Bytes) :
    pairing.InStep (CachedStream.writeRest cached rest) (CachedStream.writeRest cached rest) := by
  refine (writePastWindow rest).attempt_bind ?_ ?_
  · rintro written _ rfl
    exact wordAdd _ _
  · intro cause cause' causes
    refine .ite Iff.rfl (.fail causes) ?_
    exact current_bind fun stream => (note _ _).bind_eq fun _ => .pure rfl

/-- So writes of a pair are in step. -/
theorem write (data : Bytes) :
    pairing.InStep (CachedStream.write data) (CachedStream.write data) := by
  refine .ite Iff.rfl (.pure rfl) ((window _).bind_eq fun cached => ?_)
  refine (modify fun _ _ => rfl).bind_eq fun _ => .ite Iff.rfl (.pure rfl) ?_
  exact writeRest _ _

theorem putByte (byte : UInt8) :
    pairing.InStep (CachedStream.putByte byte) (CachedStream.putByte byte) :=
  (write [byte]).bind_eq fun _ => .pure rfl

theorem getByte : pairing.InStep CachedStream.getByte CachedStream.getByte :=
  (read [0]).bind_eq fun _ => .ite Iff.rfl (.pure rfl) (.pure rfl)

/-- Every operation does the same on both objects. -/
theorem perform (operation : Operation) :
    pairing.InStep (CachedStream.perform operation) (CachedStream.perform operation) := by
  cases operation with
  | read buffer => exact (read buffer).map _
  | write data => exact (write data).map _
  | putByte byte => exact (putByte byte).map _
  | getByte => exact getByte.map _
  | seek target => exact (seek target).map _
  | tell => exact tell.map _
  | flush => exact flush.map _
  | remotePosition => exact remotePosition.map _

end Pairing

end RemoteStreams
