import RemoteStreams.Proofs.Numbering
import RemoteStreams.Proofs.StreamClosing
import RemoteStreams.Proofs.WriteOnly

/-! # Streams that outlive their objects

A stream may be kept while the session is disconnected and connected again, or while someone else
closes its object. Its object is gone then, and the number of the object is not given out again, so
that the stream is stranded: nothing that it does reaches an object, and nothing that it delivers
comes from one (`RemoteStreams.Attached.Stranded`). That others open objects meanwhile makes no
difference to it (`RemoteStreams.History.never_open_again`).
-/

namespace RemoteStreams

namespace Remote

/-- The error of a call over the link for an object that is not open: the call is refused, or the
session knows of no such object. -/
def rejection (remote : Remote) (object : ObjectId) (call : Call) : RemoteError :=
  (remote.refusal? call).getD (remote.absence object)

variable {remote : Remote} {object : ObjectId}

/-- A call over the link for an object that is not open leaves nothing but its trace. -/
theorem linked_absent {α : Type} (absent : remote.session.descriptors.find? object = none)
    (call : Call) {next : Option Fault → RemoteAction α}
    (fails : ∀ fault between, between.session.descriptors.find? object = none →
      next fault between = (.error (between.absence object), between)) :
    (announce call >>= next) remote =
      (.error (remote.rejection object call), remote.calling call) := by
  rw [Action.bind_apply, announce_apply, rejection]
  cases remote.refusal? call with
  | some cause => rfl
  | none => exact fails _ (remote.calling call) absent

end Remote

namespace Link

open Remote

variable {remote : Remote} {object : ObjectId}
  (absent : remote.session.descriptors.find? object = none)

include absent

/-- A read of an object that is not open is rejected. -/
theorem readObject_absent (buffer : Bytes) :
    readObject object buffer remote =
      (.error (remote.rejection object (.readObject object buffer.length)),
        remote.calling (.readObject object buffer.length)) := by
  apply linked_absent absent
  intro fault between missing
  rw [Action.bind_apply, Session.readObject, bind_absent missing]

/-- A write to an object that is not open is rejected. -/
theorem writeObject_absent (data : Bytes) :
    writeObject object data remote =
      (.error (remote.rejection object (.writeObject object data)),
        remote.calling (.writeObject object data)) := by
  apply linked_absent absent
  intro fault between missing
  rw [Action.bind_apply, Session.writeObject, bind_absent missing]

/-- A seek of an object that is not open is rejected. -/
theorem seekObject_absent (target : SeekTarget) :
    seekObject object target remote =
      (.error (remote.rejection object (.seekObject object target)),
        remote.calling (.seekObject object target)) := by
  apply linked_absent absent
  intro fault between missing
  rw [Action.bind_apply, Session.seekObject, bind_absent missing]

/-- An object that is not open has no position. -/
theorem position_absent :
    position object remote =
      (.error (remote.rejection object (.position object)),
        remote.calling (.position object)) := by
  apply linked_absent absent
  intro fault between missing
  rw [Action.bind_apply, Session.position, Session.seekObject, bind_absent missing]

/-- An object that is not open cannot be closed, and nothing changes. -/
theorem closeObject_absent :
    ∃ cause, (closeObject object remote).1 = .error cause ∧
      (closeObject object remote).2.session = remote.session ∧
      (closeObject object remote).2.objects = remote.objects := by
  rw [closeObject, Action.bind_apply, announce_apply]
  cases remote.refusal? (.closeObject object) with
  | some cause => exact ⟨cause, rfl, rfl, rfl⟩
  | none =>
      have missing : (remote.calling (.closeObject object)).session.descriptors.find? object =
          none := absent
      have ended := Remote.closeObject_absent missing
      exact ⟨_, congrArg (·.1) ended, congrArg (·.2.session) ended, congrArg (·.2.objects) ended⟩

end Link

/-- Two remote sides on which `object` is not open, and that a stream on it cannot tell apart. -/
structure Remote.Lacks (object : ObjectId) (first second : Remote) : Prop where
  left : first.session.descriptors.find? object = none
  right : second.session.descriptors.find? object = none
  faults : first.faults = second.faults
  connected : first.session.connected = second.session.connected

namespace Remote.Lacks

variable {first second : Remote} {object : ObjectId}

/-- Both sides lack the object after a call as well. -/
theorem calling (lacks : Lacks object first second) (call : Call) :
    Lacks object (first.calling call) (second.calling call) where
  left := lacks.left
  right := lacks.right
  faults := congrArg (·.advance call.primitive) lacks.faults
  connected := lacks.connected

/-- Both sides reject a call for the same reason. -/
theorem rejection_eq (lacks : Lacks object first second) (call : Call) :
    first.rejection object call = second.rejection object call := by
  simp only [rejection, refusal?, absence, lacks.faults, lacks.connected]

end Remote.Lacks

open Remote in
/-- Streams on an object that is not open, on remote sides that may have anything else. -/
def Pairing.absent (object : ObjectId) : Pairing where
  left := object
  right := object
  remotes := Lacks object
  causes := Eq
  errors := Eq
  refl := fun _ => rfl
  remote := fun _ _ => congrArg StreamError.remote
  noting := fun _ _ _ _ lacks => ⟨lacks.left, lacks.right, lacks.faults, lacks.connected⟩
  reading := by
    intro buffer first second lacks
    rw [Link.readObject_absent lacks.left, Link.readObject_absent lacks.right]
    exact ⟨.error (lacks.rejection_eq _), lacks.calling _⟩
  writing := by
    intro data first second lacks
    rw [Link.writeObject_absent lacks.left, Link.writeObject_absent lacks.right]
    exact ⟨.error (lacks.rejection_eq _), lacks.calling _⟩
  seeking := by
    intro target first second lacks
    rw [Link.seekObject_absent lacks.left, Link.seekObject_absent lacks.right]
    exact ⟨.error (lacks.rejection_eq _), lacks.calling _⟩
  asking := by
    intro first second lacks
    rw [Link.position_absent lacks.left, Link.position_absent lacks.right]
    exact ⟨.error (lacks.rejection_eq _), lacks.calling _⟩
  requesting := by
    intro first second size lacks
    refine ⟨by rw [affords, affords, lacks.faults], lacks.left, lacks.right, ?_, lacks.connected⟩
    exact congrArg (·.advance .allocate) lacks.faults

namespace CachedStream

/-- While an object is not open, a stream on it changes neither the session nor the store. -/
theorem lasting_absent {object : ObjectId} {session : Session}
    {objects : FiniteMap ObjectPath Bytes} (absent : session.descriptors.find? object = none) :
    Lasting object fun remote => remote.session = session ∧ remote.objects = objects := by
  have missing {remote : Remote} (same : remote.session = session) :
      remote.session.descriptors.find? object = none := same ▸ absent
  constructor
  · intro remote event held
    exact held
  · intro remote buffer held
    rw [Link.readObject_absent (missing held.1)]
    exact held
  · intro remote data held
    rw [Link.writeObject_absent (missing held.1)]
    exact held
  · intro remote target held
    rw [Link.seekObject_absent (missing held.1)]
    exact held
  · intro remote held
    rw [Link.position_absent (missing held.1)]
    exact held
  · intro remote held
    exact held

variable {attached : Attached}
  (absent : attached.remote.session.descriptors.find? attached.stream.object = none)

include absent

/-- A window that cannot be written back is an error, and nothing else. -/
theorem flush_absent :
    (flush attached).1 = .ok () ∨ ∃ cause, (flush attached).1 = .error cause := by
  by_cases dirty : attached.stream.dirty = true
  · right
    by_cases rewound : attached.stream.synced = 0
    · simp [flush, rewindObject, writeBack, Action.bind_apply, dirty, rewound, ask_apply,
        Link.writeObject_absent absent]
    · simp [flush, rewindObject, Action.bind_apply, dirty, rewound, ask_apply,
        Link.seekObject_absent absent]
  · left
    simp [flush, Action.bind_apply, dirty]

/-- A stream on an object that is not open cannot be closed without an error. -/
theorem close_absent :
    (∃ cause, (close attached.stream attached.remote).1 = .error cause) ∧
      (close attached.stream attached.remote).2.session = attached.remote.session ∧
      (close attached.stream attached.remote).2.objects = attached.remote.objects := by
  have ended : (flush ⟨attached.stream, attached.remote.noting
      (.closingCached attached.stream.path)⟩).1 = .ok () ∨ _ := flush_absent absent
  have kept := (lasting_absent absent).flush
    ⟨attached.stream, attached.remote.noting (.closingCached attached.stream.path)⟩ ⟨rfl, rfl, rfl⟩
  generalize flushed : flush ⟨attached.stream,
    attached.remote.noting (.closingCached attached.stream.path)⟩ = settled at ended kept
  obtain ⟨outcome, stream, remote⟩ := settled
  obtain ⟨same, session, objects⟩ := kept
  have still : remote.session.descriptors.find? attached.stream.object = none := by
    rw [session]
    exact absent
  obtain ⟨cause, refused, session', objects'⟩ := Link.closeObject_absent still
  have closed : Link.closeObject attached.stream.object remote =
      (.error cause, (Link.closeObject attached.stream.object remote).2) := Prod.ext refused rfl
  have result : ∃ cause, settle attached =
      (.error cause, ⟨stream, (Link.closeObject attached.stream.object remote).2⟩) := by
    rcases ended with rfl | ⟨failure, rfl⟩
    · refine ⟨.remote cause, ?_⟩
      simp only [settle, Action.bind_apply, current_apply, note_apply, Action.attempt, flushed,
        ask_apply, refused, Outcome.mapError_error, Action.fail_apply]
    · refine ⟨failure, ?_⟩
      simp only [settle, Action.bind_apply, current_apply, note_apply, Action.attempt, flushed,
        ask_apply, refused, Outcome.mapError_error, Action.fail_apply]
  obtain ⟨failure, settled⟩ := result
  rw [close, settled]
  refine ⟨⟨failure, rfl⟩, ?_, ?_⟩
  · rw [session_dropped]
    exact session'.trans session
  · rw [objects_dropped]
    exact objects'.trans objects

end CachedStream

open CachedStream

/-- What is left of a stream whose object is not open. -/
structure Attached.Stranded (attached : Attached) : Prop where
  /-- No operation changes the session with its open objects, or the store. -/
  harmless : ∀ operation,
    (perform operation attached).2.remote.session = attached.remote.session ∧
      (perform operation attached).2.remote.objects = attached.remote.objects
  /-- Every operation would come out the same on any other remote side: with other open objects,
  another store, and other calls made before. -/
  blind : ∀ operation (elsewhere : Remote), attached.remote.Lacks attached.stream.object elsewhere →
    (perform operation ⟨attached.stream, elsewhere⟩).1 = (perform operation attached).1 ∧
      (perform operation ⟨attached.stream, elsewhere⟩).2.stream =
        (perform operation attached).2.stream
  /-- A close ends with an error, and changes nothing either. -/
  closes : (∃ cause, (close attached.stream attached.remote).1 = .error cause) ∧
    (close attached.stream attached.remote).2.session = attached.remote.session ∧
    (close attached.stream attached.remote).2.objects = attached.remote.objects

/-- A stream whose object is not open is stranded. -/
theorem Attached.stranded {attached : Attached}
    (absent : attached.remote.session.descriptors.find? attached.stream.object = none) :
    attached.Stranded where
  harmless := fun operation =>
    ((lasting_absent absent).perform operation attached ⟨rfl, rfl, rfl⟩).2
  blind := by
    intro operation elsewhere lacks
    have paired : (Pairing.absent attached.stream.object).AtStream attached
        ⟨attached.stream, elsewhere⟩ := ⟨attached.stream, rfl, rfl, lacks⟩
    obtain ⟨ended, stream, left, right, -⟩ :=
      (Pairing.absent attached.stream.object).perform operation _ _ paired
    exact ⟨ended.eq.symm, right.trans left.symm⟩
  closes := close_absent absent

/-- Something that happens while a stream is kept: it is used, or something happens around it. -/
inductive Happening where
  | used (operation : Operation)
  | around (turn : Turn)

/-- The stream and its remote side after a sequence of happenings, which are given latest first. -/
def Attached.after (attached : Attached) : List Happening → Attached
  | [] => attached
  | .used operation :: earlier => (perform operation (attached.after earlier)).2
  | .around turn :: earlier =>
      (attached.after earlier).withRemote (turn.perform (attached.after earlier).remote).2

/-- Whatever happens, a stream whose object is gone does not get it back. -/
theorem Remote.Gone.after {attached : Attached}
    (gone : attached.remote.Gone attached.stream.object) (happenings : List Happening) :
    (attached.after happenings).remote.Gone (attached.after happenings).stream.object := by
  induction happenings with
  | nil => exact gone
  | cons happening earlier ih =>
      cases happening with
      | used operation =>
          obtain ⟨same, session, -⟩ := (lasting_absent ih.absent).perform operation
            (attached.after earlier) ⟨rfl, rfl, rfl⟩
          constructor
          · rw [Attached.after, same, session]
            exact ih.numbered
          · rw [Attached.after, same, session]
            exact ih.absent
      | around turn => exact ih.turn turn

namespace History

variable {objects : FiniteMap ObjectPath Bytes} {remembersSizes : Bool} {turns : List Turn}

/-- Object numbers are given out in order, and objects are open only while the session is connected.
An object that was closed, or dropped when the session was disconnected, is never open again: every
request for it fails without any effect. A stream on it that is still used, whatever else happens
meanwhile, changes nothing, learns nothing of what the session has open or the store holds, and
cannot be closed without an error. -/
theorem never_open_again {history : History}
    (reached : history = after (.create objects remembersSizes) turns) :
    (history.past.filterMap Entry.opened?).Pairwise
      (fun later earlier => earlier.number < later.number) ∧
    (history.now.session.connected = false → history.now.session.descriptors = ∅) ∧
    ∀ entry ∈ history.past, ∀ object, entry.Ended object →
      history.now.session.descriptors.find? object = none ∧
      (∀ request : SessionRequest, request.object? = some object →
        (request.perform history.now).1 = .error (history.now.absence object) ∧
        (request.perform history.now).2.session = history.now.session ∧
        (request.perform history.now).2.objects = history.now.objects) ∧
      ∀ stream : CachedStream, stream.object = object → ∀ happenings,
        (Attached.after ⟨stream, history.now⟩ happenings).Stranded := by
  subst reached
  have numbers := numbers_after objects remembersSizes turns
  refine ⟨numbers.ordered, numbers.offline, ?_⟩
  intro entry member object ended
  have gone := numbers.gone entry member object ended
  refine ⟨gone.absent, fun request about => Remote.perform_absent gone.absent about, ?_⟩
  rintro stream rfl happenings
  apply Attached.stranded
  have still : (Attached.after ⟨stream, _⟩ happenings).remote.Gone _ :=
    Remote.Gone.after gone happenings
  exact still.absent

/-- An object is opened, the session is disconnected and connected again, and the object is opened a
second time. -/
def reconnecting : List Turn :=
  [.ask (.openObject "a" .readWrite), .ask .connect, .ask .disconnect,
    .ask (.openObject "a" .readWrite), .ask .connect]

/-- A stream on the first of the two keeps a byte that it can no longer write, while the second one
is written to. -/
theorem never_open_again_reconnecting :
    (Attached.after ⟨fresh ⟨1⟩ "a" ⟨2, 4⟩,
        (after (.create (FiniteMap.empty.insert ⟨"a"⟩ [1, 2, 3]) true) reconnecting).now⟩
      [.used .flush, .around (.ask (.writeObject ⟨2⟩ [7])), .used (.putByte 9)]).Stranded ∧
    (Attached.after ⟨fresh ⟨1⟩ "a" ⟨2, 4⟩,
        (after (.create (FiniteMap.empty.insert ⟨"a"⟩ [1, 2, 3]) true) reconnecting).now⟩
      [.used .flush, .around (.ask (.writeObject ⟨2⟩ [7])), .used (.putByte 9)]).stream.dirty =
        true := by
  have ended : Entry.Ended ⟨(after (.create (FiniteMap.empty.insert ⟨"a"⟩ [1, 2, 3]) true)
      [.ask (.openObject "a" .readWrite), .ask .connect]).now, .ask .disconnect, .ok .done⟩ ⟨1⟩ :=
    ⟨rfl, rfl, ⟨_, rfl⟩⟩
  have reached : after (.create (FiniteMap.empty.insert ⟨"a"⟩ [1, 2, 3]) true) reconnecting =
      after (.create (FiniteMap.empty.insert ⟨"a"⟩ [1, 2, 3]) true) reconnecting := rfl
  obtain ⟨-, -, apart⟩ := never_open_again reached
  obtain ⟨-, -, strands⟩ := apart _ (.tail _ (.tail _ (.head _))) ⟨1⟩ ended
  exact ⟨strands _ rfl _, by decide⟩

end History

end RemoteStreams
